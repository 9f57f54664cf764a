/-
From tokens to documents.

A collection is read item by item; what is missing between two marks is an empty scalar.  Where the
tokens do not fit, or end too early, the value at that place is broken and nothing more is read.

An anchor gets the number of names that are known when it is met.  A name that is given a second
time so shares its new number with the next new name, and an alias leads to the last value with the
number of its name.
-/
import SchemaModels.Document.Yaml.Lexer
import SchemaModels.Document.Yaml.PlainValue

namespace SchemaModels
namespace Yaml

/-! ## State -/

structure Builder where
  tokens : List Token
  /-- The tokens did not fit. -/
  stopped : Bool := false
  /-- What the handles of tags stand for. -/
  handles : List (String × String)
  /-- The numbers of the names of anchors. -/
  names : List (String × Nat) := []
  /-- The numbers of the anchors with their places in the order of all anchors, the last one
  first. -/
  places : List (Nat × Nat) := []
  /-- The values with anchors, by place. -/
  values : List (Nat × Node) := []
  /-- How many scalars, aliases, and starts and ends of collections have been read. -/
  events : Nat := 0

abbrev Build := StateM Builder

namespace Build

def peek : Build (Option Token) := return (← get).tokens.head?

def skip : Build Unit := modify fun b => { b with tokens := b.tokens.tail }

/-- Count a scalar, an alias, or a start or end of a collection. -/
def count : Build Unit := modify fun b => { b with events := b.events + 1 }

def stop : Build Node := do
  modify fun b => { b with stopped := true }
  return .broken

def stopped : Build Bool := return (← get).stopped

def empty (tag : Option String) : Build Node := do
  count
  return .scalar (scalar "" .plain tag)

def anchor (name : String) : Build Nat := do
  let b ← get
  let number := b.names.length
  let place := b.places.length
  set { b with
    names := if (b.names.lookup name).isSome
      then b.names.map fun (n, k) => if n = name then (n, number) else (n, k)
      else (name, number) :: b.names
    places := (number, place) :: b.places }
  return place

/-- The anchor and tag in front of a node, in either order. -/
def properties : Build (Option String × Option (String × String)) := do
  match (← get).tokens with
  | .anchor name :: .tag handle suffix :: rest | .tag handle suffix :: .anchor name :: rest =>
    modify fun b => { b with tokens := rest }
    return (some name, some (handle, suffix))
  | .anchor name :: rest =>
    modify fun b => { b with tokens := rest }
    return (some name, none)
  | .tag handle suffix :: rest =>
    modify fun b => { b with tokens := rest }
    return (none, some (handle, suffix))
  | _ => return (none, none)

def fullTag (handle suffix : String) : Build (Option String) := do
  if handle.isEmpty then return some suffix
  else return ((← get).handles.lookup handle).map fun start => start ++ suffix

/-! ## Nodes -/

mutual

/-- A node.  In a block it may be a block collection, and behind a key a list whose hyphens are not
indented. -/
def node : Nat → Bool → Bool → Build Node
  | 0, _, _ => stop
  | fuel + 1, inBlock, behindKey => do
    match ← peek with
    | some (.reference name) => do
      skip
      match (← get).names.lookup name with
      | some number => do
        count
        return .reference number
      | none => stop
    | _ => do
      let (name?, tag?) ← properties
      let tag ← match tag? with
        | none => pure (some none)
        | some (handle, suffix) => do pure ((← fullTag handle suffix).map some)
      match tag with
      | none => stop
      | some tag => do
        let marked := name?.isSome || tag.isSome
        match name? with
        | none => content fuel inBlock behindKey marked tag
        | some name => do
          match ← peek with
          | none => stop
          | some _ => do
            let place ← anchor name
            let value ← content fuel inBlock behindKey marked tag
            modify fun b => { b with values := (place, value) :: b.values }
            return value

def content : Nat → Bool → Bool → Bool → Option String → Build Node
  | 0, _, _, _, _ => stop
  | fuel + 1, inBlock, behindKey, marked, tag => do
    let list (items : Build (List Node)) : Build Node := do
      count
      return .list (← items)
    let record (entries : Build (List (Node × Node))) : Build Node := do
      count
      return .record (← entries)
    match ← peek with
    | some .blockEntry =>
      if behindKey then list (openItems fuel)
      else if marked then empty tag
      else stop
    | some (.scalar text style) => do
      skip
      count
      return .scalar (scalar text style (if tag = some "!" then none else tag))
    | some .flowListStart => do
      skip
      list (flowItems fuel true)
    | some .flowRecordStart => do
      skip
      record (flowEntries fuel true)
    | some .blockListStart =>
      if inBlock then do
        skip
        list (blockItems fuel)
      else if marked then empty tag
      else stop
    | some .blockRecordStart =>
      if inBlock then do
        skip
        record (blockEntries fuel)
      else if marked then empty tag
      else stop
    | some _ => if marked then empty tag else stop
    | none => stop

def nodeBefore : Nat → Bool → Bool → (Token → Bool) → Build Node
  | 0, _, _, _ => stop
  | fuel + 1, inBlock, behindKey, ends => do
    match ← peek with
    | none => stop
    | some t => if ends t then empty none else node fuel inBlock behindKey

def blockItems : Nat → Build (List Node)
  | 0 => return [← stop]
  | fuel + 1 => do
    match ← peek with
    | some .blockEntry => do
      skip
      let item ← nodeBefore fuel true false fun t => t = .blockEntry || t = .blockEnd
      if ← stopped then return [item] else return item :: (← blockItems fuel)
    | some .blockEnd => do
      skip
      count
      return []
    | _ => return [← stop]

def openItems : Nat → Build (List Node)
  | 0 => return [← stop]
  | fuel + 1 => do
    match ← peek with
    | some .blockEntry => do
      skip
      let item ← nodeBefore fuel true false fun t =>
        t = .blockEntry || t = .key || t = .value || t = .blockEnd
      if ← stopped then return [item] else return item :: (← openItems fuel)
    | some _ => do
      count
      return []
    | none => return [← stop]

def blockEntries : Nat → Build (List (Node × Node))
  | 0 => return [(← stop, .broken)]
  | fuel + 1 => do
    let ends := fun t => t = Token.key || t = Token.value || t = Token.blockEnd
    match ← peek with
    | some .key => do
      skip
      let key ← nodeBefore fuel true true ends
      if ← stopped then return [(key, .broken)]
      else
        let value ← blockValue fuel ends
        if ← stopped then return [(key, value)] else return (key, value) :: (← blockEntries fuel)
    | some .blockEnd => do
      skip
      count
      return []
    | _ => return [(← stop, .broken)]

def blockValue : Nat → (Token → Bool) → Build Node
  | 0, _ => stop
  | fuel + 1, ends => do
    match ← peek with
    | none => stop
    | some .value => do
      skip
      nodeBefore fuel true true ends
    | some _ => empty none

/-- The items of a flow list; between two of them stands a comma. -/
def flowItems : Nat → Bool → Build (List Node)
  | 0, _ => return [← stop]
  | fuel + 1, first => do
    match ← peek with
    | none => return [← stop]
    | some .flowListEnd => do
      skip
      count
      return []
    | some t => do
      if !first && t ≠ .flowEntry then return [← stop]
      else do
        if !first then skip
        match ← peek with
        | none => return [← stop]
        | some .flowListEnd => do
          skip
          count
          return []
        | some t => do
          let item ← if t = .key then flowPair fuel else node fuel false false
          if ← stopped then return [item] else return item :: (← flowItems fuel false)

def flowPair : Nat → Build Node
  | 0 => stop
  | fuel + 1 => do
    let ends := fun t => t = Token.flowEntry || t = Token.flowListEnd
    skip
    count
    match ← peek with
    | none => return .record [(← stop, .broken)]
    | some t => do
      let key ← if t = .value || ends t then do
          skip
          empty none
        else node fuel false false
      if ← stopped then return .record [(key, .broken)]
      else
        let value ← flowValue fuel ends
        count
        return .record [(key, value)]

def flowValue : Nat → (Token → Bool) → Build Node
  | 0, _ => stop
  | fuel + 1, ends => do
    match ← peek with
    | none => stop
    | some .value => do
      skip
      nodeBefore fuel false false ends
    | some _ => empty none

def flowEntries : Nat → Bool → Build (List (Node × Node))
  | 0, _ => return [(← stop, .broken)]
  | fuel + 1, first => do
    let ends := fun t => t = Token.flowEntry || t = Token.flowRecordEnd
    match ← peek with
    | none => return [(← stop, .broken)]
    | some .flowRecordEnd => do
      skip
      count
      return []
    | some t => do
      if !first && t ≠ .flowEntry then return [(← stop, .broken)]
      else do
        if !first then skip
        match ← peek with
        | none => return [(← stop, .broken)]
        | some .flowRecordEnd => do
          skip
          count
          return []
        | some .key => do
          skip
          let key ← nodeBefore fuel false false fun t => t = .value || ends t
          if ← stopped then return [(key, .broken)]
          else
            let value ← flowValue fuel ends
            if ← stopped then return [(key, value)]
            else return (key, value) :: (← flowEntries fuel false)
        | some _ => do
          let key ← node fuel false false
          if ← stopped then return [(key, .broken)]
          else
            let value ← empty none
            return (key, value) :: (← flowEntries fuel false)

end

/-! ## Documents -/

/-- The directives in front of a document: at most one version, of the first generation, and each
handle once. -/
def directives :
    List Token → Bool → List (String × String) → Option (List Token × List (String × String))
  | .version major minor :: rest, false, handles =>
    if major = 1 ∧ (minor = 1 ∨ minor = 2) then directives rest true handles else none
  | .version _ _ :: _, true, _ => none
  | .tagHandle handle start :: rest, known, handles =>
    if (handles.lookup handle).isSome then none
    else directives rest known ((handle, start) :: handles)
  | ts, _, handles => some (ts, handles)

def standardHandles : List (String × String) := [("!", "!"), ("!!", coreTag)]

def endsDocument : Token → Bool
  | .version _ _ | .tagHandle _ _ | .documentStart | .documentEnd | .textEnd => true
  | _ => false

def root (fuel : Nat) : Build Node := do
  match (← get).tokens with
  | .version _ _ :: _ | .tagHandle _ _ :: _ | .documentStart :: _ => do
    match directives (← get).tokens false [] with
    | some (.documentStart :: rest, handles) => do
      modify fun b => { b with tokens := rest, handles := handles ++ standardHandles }
      nodeBefore fuel true false endsDocument
    | _ => stop
  | .textEnd :: _ => empty none
  | _ => node fuel true false

def endsText : List Token → Bool
  | .documentEnd :: rest => endsText rest
  | [.textEnd] => true
  | _ => false

end Build

end Yaml

/-- The document that a YAML text holds.  No more than four readers nest around a token before it is
passed. -/
def Document.ofYaml (text : String) : Document :=
  let tokens := Yaml.tokens text
  let (root, built) := (Yaml.Build.root (4 * tokens.length + 4)).run
    { tokens := tokens, handles := Yaml.Build.standardHandles }
  { root := root
    anchors := built.places.filterMap fun (number, place) => do
      return (number, ← built.values.lookup place)
    jumps := 100 * built.events
    depth := 128
    sound := !built.stopped && Yaml.Build.endsText built.tokens }

end SchemaModels
