/-
Reading XML documents.

A document is well-formed with respect to namespaces: tags match, attributes differ, prefixes are
declared.  Entities may be declared in the document type; what they stand for is read in place, as
text with markup inside elements and as text in attribute values.  Entities may refer to others ten
deep, and a single reference may lead to a limited number of others, so reading comes to an end.
-/
import SchemaModels.Xml.Char
import SchemaModels.Xml.Element

namespace SchemaModels
namespace Xml

open Text

/-! ## State -/

structure Opened where
  lead : List Char
  name : List Char
  attrs : List (String × String)
  /-- The namespaces by prefix, innermost first. -/
  scope : List (Option (List Char) × List Char)
  /-- The text so far, in reverse. -/
  text : List Char := []
  /-- The elements so far, in reverse. -/
  children : List Element := []

structure Builder where
  entities : List (List Char × List Char) := []
  /-- The open elements, innermost first. -/
  opened : List Opened := []
  /-- The elements that stand in no other, in reverse. -/
  roots : List Element := []
  /-- A start tag has been met in the text at hand. -/
  named : Bool := false
  /-- How many references to entities were followed inside an entity. -/
  references : Nat := 0

/-- How deep entities may refer to entities. -/
def entityDepth : Nat := 10

/-- How many references may be followed inside an entity. -/
def referenceLimit : Nat := 255

namespace Builder

def countReference (inside : Bool) (b : Builder) : Option Builder :=
  if !inside then some b
  else if b.references = referenceLimit then none
  else some { b with references := b.references + 1 }

def addText (text : List Char) (b : Builder) : Builder :=
  match b.opened with
  | top :: rest => { b with opened := { top with text := text ++ top.text } :: rest }
  | [] => b

def addElement (e : Element) (b : Builder) : Builder :=
  match b.opened with
  | top :: rest => { b with opened := { top with children := e :: top.children } :: rest }
  | [] => { b with roots := e :: b.roots }

end Builder

def Opened.close (o : Opened) : Element :=
  .node (String.ofList o.name) o.attrs (String.ofList o.text.reverse) o.children.reverse

/-! ## Attribute values -/

/-- An attribute value, given how entities are read: its characters in reverse.  White space becomes
spaces, where a carriage return before a newline does not count. -/
def valueFrom (inside : Bool)
    (entity : List Char → List Char → Builder → Option (List Char × Builder)) :
    Nat → List Char → List Char → Builder → Option (List Char × Builder)
  | 0, _, acc, b => some (acc, b)
  | _ + 1, [], acc, b => some (acc, b)
  | fuel + 1, c :: s, acc, b =>
    if c = '&' then
      match reference? s with
      | none => none
      | some (.char d, rest) =>
        if inside then
          if d = '<' then none
          else valueFrom inside entity fuel rest ((if isSpace d then ' ' else d) :: acc) b
        else valueFrom inside entity fuel rest (d :: acc) b
      | some (.entity name, rest) => do
        let text ← b.entities.lookup name
        let (acc, b) ← entity text acc (← b.countReference inside)
        valueFrom inside entity fuel rest acc (if inside then b else { b with references := 0 })
    else if c = '\r' ∧ s.head? = some '\n' then valueFrom inside entity fuel s acc b
    else valueFrom inside entity fuel s ((if isSpace c then ' ' else c) :: acc) b

/-- What an entity contributes to an attribute value, given how much deeper entities may be
nested. -/
def entityValue : Nat → List Char → List Char → Builder → Option (List Char × Builder)
  | 0, _, _, _ => none
  | depth + 1, text, acc, b => valueFrom true (entityValue depth) (text.length + 1) text acc b

def attrValue (depth : Nat) (text : List Char) (b : Builder) : Option (List Char × Builder) := do
  let (acc, b) ← valueFrom (depth < entityDepth) (entityValue depth) (text.length + 1) text [] b
  return (acc.reverse, b)

/-! ## Tags -/

structure RawAttr where
  lead : List Char
  name : List Char
  value : List Char

def rawAttr? (s : List Char) : Option (RawAttr × List Char) := do
  let (lead, name, rest) ← qualifiedName? s
  match skipSpace rest with
  | '=' :: rest =>
    match skipSpace rest with
    | q :: rest =>
      if q ≠ '"' ∧ q ≠ '\'' then none
      else
        let (value, rest) ← chars? (fun c => c ≠ q && c ≠ '<') rest
        if rest.head? = some q then return (⟨lead, name, value⟩, rest.drop 1) else none
    | [] => none
  | _ => none

def rawAttrs? : Nat → List Char → Option (List RawAttr × Bool × List Char)
  | 0, _ => none
  | fuel + 1, s =>
    match skipSpace s with
    | '/' :: '>' :: rest => some ([], true, rest)
    | '>' :: rest => some ([], false, rest)
    | rest =>
      if s.head?.any isSpace then do
        let (a, rest) ← rawAttr? rest
        let (more, isEmpty, rest) ← rawAttrs? fuel rest
        return (a :: more, isEmpty, rest)
      else none

def xmlNamespace : List Char := "http://www.w3.org/XML/1998/namespace".toList

def xmlnsNamespace : List Char := "http://www.w3.org/2000/xmlns/".toList

structure TagParts where
  declared : List (Option (List Char) × List Char) := []
  attrs : List RawAttr := []

def TagParts.add (parts : TagParts) (a : RawAttr) : Option TagParts :=
  if a.lead = "xmlns".toList then
    if a.value = xmlnsNamespace then none
    else if (a.name = "xml".toList) != (a.value = xmlNamespace) then none
    else if parts.declared.any fun d => d.1 = some a.name then none
    else if a.value = xmlNamespace then some parts
    else some { parts with declared := parts.declared ++ [(some a.name, a.value)] }
  else if a.name = "xmlns".toList then
    if a.value = xmlNamespace ∨ a.value = xmlnsNamespace then none
    else some { parts with declared := parts.declared ++ [(none, a.value)] }
  else some { parts with attrs := parts.attrs ++ [a] }

def sortAttrs (depth : Nat) : List RawAttr → TagParts → Builder → Option (TagParts × Builder)
  | [], parts, b => some (parts, b)
  | a :: rest, parts, b => do
    let (value, b) ← attrValue depth a.value b
    sortAttrs depth rest (← parts.add { a with value := value }) b

def attrNamespace? (scope : List (Option (List Char) × List Char)) (a : RawAttr) :
    Option (Option (List Char)) :=
  if a.lead = "xml".toList then some (some xmlNamespace)
  else if a.lead.isEmpty then some none
  else (scope.lookup (some a.lead)).map some

def areDistinct : List (Option (List Char) × List Char) → Bool
  | [] => true
  | a :: rest => !rest.contains a && areDistinct rest

/-- A start tag, behind its bracket: the element, whether it is empty, and what follows. -/
def startTag (depth : Nat) (s : List Char) (b : Builder) :
    Option (Opened × Bool × List Char × Builder) := do
  let (lead, name, rest) ← qualifiedName? s
  let (raw, isEmpty, rest) ← rawAttrs? (rest.length + 1) rest
  let (parts, b) ← sortAttrs depth raw {} b
  let scope := parts.declared ++ ((b.opened.head?.map Opened.scope).getD [])
  if lead = "xmlns".toList || (!lead.isEmpty && (scope.lookup (some lead)).isNone) then none
  else
    let expanded ← parts.attrs.mapM fun a => do return (← attrNamespace? scope a, a.name)
    if areDistinct expanded then
      let attrs := parts.attrs.map fun a => (String.ofList a.name, String.ofList a.value)
      return ({ lead := lead, name := name, attrs := attrs, scope := scope }, isEmpty, rest,
        { b with named := true })
    else none

def endTag (s : List Char) (b : Builder) : Option (List Char × Builder) := do
  let (lead, name, rest) ← qualifiedName? s
  match skipSpace rest, b.opened with
  | '>' :: rest, top :: outer =>
    if b.named && top.lead = lead && top.name = name then
      return (rest, { b with opened := outer }.addElement top.close)
    else none
  | _, _ => none

/-! ## What is passed over -/

def comment? (s : List Char) : Option (List Char) := do
  let (text, rest) ← until? "-->".toList s
  if (splitFirst? "--".toList text).isSome || text.getLast? = some '-' then none else some rest

def instruction? (s : List Char) : Option (List Char) :=
  if beginsWith "<?xml ".toList s then none
  else do
    let (_, rest) ← name? (s.drop 2)
    return (← until? "?>".toList (skipSpace rest)).2

def misc? : Nat → List Char → Option (List Char)
  | 0, s => some s
  | fuel + 1, s =>
    let s := skipSpace s
    match after? "<!--".toList s with
    | some rest => do misc? fuel (← comment? rest)
    | none => if beginsWith "<?".toList s then do misc? fuel (← instruction? s) else some s

/-! ## Content -/

/-- Text without markup, given how entities are read; line ends become newlines.  The characters
that have not been added yet are given in reverse. -/
def textFrom (inside : Bool) (entity : List Char → Builder → Option Builder) :
    Nat → List Char → List Char → Builder → Option Builder
  | 0, _, acc, b => some (b.addText acc)
  | _ + 1, [], acc, b => some (b.addText acc)
  | fuel + 1, c :: s, acc, b =>
    if c = '&' then
      match reference? s with
      | none => none
      | some (.char d, rest) =>
        textFrom inside entity fuel rest ((if inside ∧ d = '\r' then '\n' else d) :: acc) b
      | some (.entity name, rest) => do
        let text ← b.entities.lookup name
        let b ← (b.addText acc).countReference inside
        let after ← entity text { b with named := false }
        textFrom inside entity fuel rest []
          { after with
            named := b.named
            references := if inside then after.references else 0 }
    else if c = '\r' then
      if s.head? = some '\n' then textFrom inside entity fuel s acc b
      else textFrom inside entity fuel s ('\n' :: acc) b
    else textFrom inside entity fuel s (c :: acc) b

/-- Character data: line ends become newlines.  The result is in reverse. -/
def cdataFrom (acc : List Char) : List Char → List Char
  | [] => acc
  | '\r' :: '\n' :: s => cdataFrom ('\n' :: acc) s
  | '\r' :: s => cdataFrom ('\n' :: acc) s
  | c :: s => cdataFrom (c :: acc) s

/-- The content of an element up to its end tag, given how deep entities may be nested, how they are
read, and how many elements have been opened on the way. -/
def contentFrom (depth : Nat) (entity : List Char → Builder → Option Builder) :
    Nat → Nat → List Char → Builder → Option (List Char × Builder)
  | 0, _, s, b => some (s, b)
  | _ + 1, _, [], b => some ([], b)
  | fuel + 1, level, '<' :: s, b =>
    match s with
    | [] => none
    | '!' :: _ =>
      match after? "!--".toList s, after? "![CDATA[".toList s with
      | some rest, _ => do contentFrom depth entity fuel level (← comment? rest) b
      | none, some rest => do
        let (text, rest) ← until? "]]>".toList rest
        contentFrom depth entity fuel level rest (b.addText (cdataFrom [] text))
      | none, none => none
    | '?' :: _ => do contentFrom depth entity fuel level (← instruction? ('<' :: s)) b
    | '/' :: rest => do
      let (rest, b) ← endTag rest b
      if level = 0 then return (rest, b) else contentFrom depth entity fuel (level - 1) rest b
    | _ => do
      let (o, isEmpty, rest, b) ← startTag depth s b
      if isEmpty then contentFrom depth entity fuel level rest (b.addElement o.close)
      else contentFrom depth entity fuel (level + 1) rest { b with opened := o :: b.opened }
  | fuel + 1, level, s, b => do
    let (text, rest) ← chars? (· ≠ '<') s
    if (splitFirst? "]]>".toList text).isSome then none
    else
      let b ← textFrom (depth < entityDepth) entity (text.length + 1) text [] b
      contentFrom depth entity fuel level rest b

/-- What an entity contributes to the content of an element, given how much deeper entities may be
nested. -/
def entityContent : Nat → List Char → Builder → Option Builder
  | 0, _, _ => none
  | depth + 1, text, b =>
    (contentFrom depth (entityContent depth) (text.length + 1) 0 text b).map Prod.snd

def rootElement (s : List Char) (b : Builder) : Option (List Char × Builder) :=
  match s with
  | '<' :: rest => do
    let (o, isEmpty, rest, b) ← startTag entityDepth rest b
    if isEmpty then return (rest, b.addElement o.close)
    else
      contentFrom entityDepth (entityContent entityDepth) (rest.length + 1) 0 rest
        { b with opened := [o] }
  | _ => some (s, b)

/-! ## Prolog -/

def literal? : List Char → Option (List Char × List Char)
  | q :: s =>
    if q ≠ '"' ∧ q ≠ '\'' then none
    else
      let text := s.takeWhile (· ≠ q)
      match s.drop text.length with
      | _ :: rest => some (text, rest)
      | [] => none
  | [] => none

def externalId? (s : List Char) : Option (List Char) :=
  match after? "SYSTEM".toList s, after? "PUBLIC".toList s with
  | some rest, _ => do return (← literal? (← space? rest)).2
  | none, some rest => do return (← literal? (← space? (← literal? (← space? rest)).2)).2
  | none, none => none

def entityDefinition? (isGeneral : Bool) (s : List Char) :
    Option (Option (List Char) × List Char) := do
  match s with
  | 'S' :: _ | 'P' :: _ => do
    let rest ← externalId? s
    match isGeneral, after? "NDATA".toList (skipSpace rest) with
    | true, some rest => do return (none, (← name? (← space? rest)).2)
    | _, _ => return (none, rest)
  | _ => do
    let (text, rest) ← literal? s
    return (some text, rest)

/-- A declaration of an entity, behind its keyword; the first one of a name counts. -/
def entityDeclaration? (s : List Char) (b : Builder) : Option (List Char × Builder) := do
  let s ← space? s
  let (isGeneral, s) ← match s with
    | '%' :: rest => do pure (false, ← space? rest)
    | _ => pure (true, s)
  let (name, s) ← name? s
  let (definition, s) ← entityDefinition? isGeneral (← space? s)
  match skipSpace s with
  | '>' :: rest =>
    return (rest, match definition with
      | some text => { b with entities := b.entities ++ [(name, text)] }
      | none => b)
  | _ => none

def declarations : Nat → List Char → Builder → Option (List Char × Builder)
  | 0, s, b => some (s, b)
  | fuel + 1, s, b =>
    match skipSpace s with
    | [] => if s.isEmpty then some ([], b) else none
    | ']' :: rest =>
      match skipSpace rest with
      | '>' :: rest => some (rest, b)
      | _ => none
    | s =>
      match after? "<!ENTITY".toList s, after? "<!--".toList s with
      | some rest, _ => do
        let (rest, b) ← entityDeclaration? rest b
        declarations fuel rest b
      | none, some rest => do declarations fuel (← comment? rest) b
      | none, none =>
        if beginsWith "<?".toList s then do declarations fuel (← instruction? s) b
        else if ["<!ELEMENT", "<!ATTLIST", "<!NOTATION"].any fun k => beginsWith k.toList s then
          match s.dropWhile (· ≠ '>') with
          | _ :: rest => declarations fuel rest b
          | [] => none
        else none

def documentType (s : List Char) (b : Builder) : Option (List Char × Builder) := do
  let (_, s) ← name? (← space? s)
  let s := skipSpace s
  let s ← if beginsWith "SYSTEM".toList s || beginsWith "PUBLIC".toList s then externalId? s
    else pure s
  match skipSpace s with
  | '>' :: rest => return (rest, b)
  | '[' :: rest => declarations (rest.length + 1) rest b
  | _ => none

def declarationSpace? (s : List Char) : Option (List Char) :=
  if s.isEmpty || beginsWith "?>".toList s then some s else space? s

def declaration? (s : List Char) : Option (List Char) := do
  let s ← declarationSpace? s
  if !beginsWith "version".toList s then none
  else
    let s ← declarationSpace? (← rawAttr? s).2
    let s ← if beginsWith "encoding".toList s then do declarationSpace? (← rawAttr? s).2 else pure s
    let s ← if beginsWith "standalone".toList s then do pure (← rawAttr? s).2 else pure s
    after? "?>".toList (skipSpace s)

/-- The outermost element of a document, if it is well-formed. -/
def read? (text : String) : Option Element := do
  let s := text.toList
  let s := (after? ['\ufeff'] s).getD s
  let s ← if beginsWith "<?xml ".toList s then declaration? (s.drop 5) else pure s
  let s ← misc? (s.length + 1) s
  let (s, b) ← match after? "<!DOCTYPE".toList (skipSpace s) with
    | some rest => do
      let (s, b) ← documentType rest {}
      pure (← misc? (s.length + 1) s, b)
    | none => pure (s, {})
  let (s, b) ← rootElement (skipSpace s) b
  if (← misc? (s.length + 1) s).isEmpty && b.opened.isEmpty then b.roots.getLast? else none

end Xml
end SchemaModels
