/-
A field can be read back from its line.

The arguments of the constructor are written one after the other, positional ones and those with
keywords alike, and each of them is read up to the comma or bracket behind it.  What is read is the
field as it was, but for the carriage returns in its texts and for the class whose values it offers,
which are not written.
-/
import SchemaModels.Proofs.Source.Literal

namespace SchemaModels
namespace LineReader

/-! ## Arguments -/

/-- The arguments of a constructor, each with its keyword if it has one. -/
abbrev Argument := Option String × Literal

def argumentText : Argument → String
  | (none, value) => value.render
  | (some key, value) => key ++ "=" ++ value.render

def argumentTokens : Argument → List Token
  | (none, value) => literalTokens value
  | (some key, value) => .name key :: .sign '=' :: literalTokens value

/-- The keyword and the names in the literal can be told from other tokens. -/
structure IsArgument (argument : Argument) : Prop where
  key : ∀ key ∈ argument.1, isIdentifier key = true
  names : ∀ name ∈ argument.2.names, isIdentifier name = true ∧ name ≠ "True" ∧ name ≠ "False"

theorem IsArgument.scans {argument : Argument} (h : IsArgument argument) :
    Scans (argumentText argument).toList (argumentTokens argument) := by
  obtain ⟨key, value⟩ := argument
  have hvalue : Scans value.render.toList (literalTokens value) :=
    scans_literal fun name hname => (h.names name hname).1
  cases key with
  | none => exact hvalue
  | some key =>
    intro rest hrest
    have htext : (argumentText (some key, value)).toList ++ rest =
        key.toList ++ '=' :: (value.render.toList ++ rest) := by
      simp [argumentText]
    rw [htext, (scans_name (h.key key rfl)).sign (by decide) (by decide), hvalue rest hrest,
      Option.map_map]
    rfl

theorem readArgument_positional {v : Literal} {depth : Nat} {c : Char} (hc : c = ',' ∨ c = ')')
    (rest : List Token) :
    readArgument depth (literalTokens v ++ .sign c :: rest) =
      (readLiteral depth (literalTokens v ++ .sign c :: rest)).map fun (value, rest) =>
        ((none, value), rest) := by
  have hother : c ≠ '=' := by rcases hc with rfl | rfl <;> decide
  cases v with
  | text value => simp [literalTokens, readArgument]
  | bool value => simp [literalTokens, readArgument, hother]
  | int value => cases value <;> simp [literalTokens, intTokens, readArgument]
  | name value => simp [literalTokens, readArgument, hother]
  | tuple items => simp [literalTokens, readArgument]

theorem IsArgument.read {argument : Argument} (h : IsArgument argument) {depth : Nat}
    (hdepth : (argumentTokens argument).length ≤ depth) {c : Char} (hc : c = ',' ∨ c = ')')
    (rest : List Token) :
    readArgument depth (argumentTokens argument ++ .sign c :: rest) =
      some ((argument.1, argument.2.withoutReturns), .sign c :: rest) := by
  obtain ⟨key, value⟩ := argument
  have hnames : ∀ name ∈ value.names, name ≠ "True" ∧ name ≠ "False" := fun name hname =>
    (h.names name hname).2
  cases key with
  | none =>
    rw [argumentTokens] at hdepth ⊢
    rw [readArgument_positional hc, readLiteral_tokens hnames hdepth]
    rfl
  | some key =>
    have hvalue : (literalTokens value).length ≤ depth := by
      simp only [argumentTokens, List.length_cons] at hdepth
      omega
    change (readLiteral depth (literalTokens value ++ .sign c :: rest)).map _ = _
    rw [readLiteral_tokens hnames hvalue]
    rfl

theorem sortArguments_append (positional : List Literal) (kwargs : Keywords) :
    sortArguments
        (positional.map (none, ·) ++ kwargs.map fun keyword => (some keyword.1, keyword.2)) =
      some (positional, kwargs) := by
  induction positional with
  | nil =>
    induction kwargs with
    | nil => rfl
    | cons keyword rest ih =>
      rw [List.map_nil, List.nil_append] at ih
      rw [List.map_nil, List.nil_append, List.map_cons, sortArguments, ih]
  | cons value rest ih =>
    rw [List.map_cons, List.cons_append, sortArguments, ih]
    rfl

/-! ## Fields -/

theorem kind?_sourceName (kind : FieldKind) : kind? kind.sourceName = some kind := by
  cases kind <;> decide

theorem isIdentifier_sourceName (kind : FieldKind) : isIdentifier kind.sourceName = true := by
  cases kind <;> decide

theorem renderKeywords_eq (kwargs : Keywords) :
    kwargs.render = ", ".intercalate
      (kwargs.map fun keyword => argumentText (some keyword.1, keyword.2)) := by
  match kwargs with
  | [] => rfl
  | [keyword] =>
    rw [Keywords.render, List.map_singleton, String.intercalate_singleton]
    rfl
  | keyword :: next :: rest =>
    simp only [Keywords.render, renderKeywords_eq (next :: rest), List.map_cons,
      String.intercalate_cons_cons]
    rfl

end LineReader

namespace FieldDefinition

open LineReader

def arguments (d : FieldDefinition) : List Argument :=
  d.positional.map (none, ·) ++ d.kwargs.map fun keyword => (some keyword.1, keyword.2)

/-- The name, the keywords and the bare names are identifiers, and no bare name is a truth value. -/
structure IsWellNamed (d : FieldDefinition) : Prop where
  name : isIdentifier d.name = true
  arguments : ∀ argument ∈ d.arguments, IsArgument argument

/-- No text of an argument holds a carriage return. -/
def HasNoReturns (d : FieldDefinition) : Prop :=
  ∀ argument ∈ d.arguments, ∀ s ∈ argument.2.texts, '\r' ∉ s.toList

/-- The field as it is written: with no carriage return in its texts, and without the class whose
values it offers. -/
def written (d : FieldDefinition) : FieldDefinition where
  name := d.name
  kind := d.kind
  positional := d.positional.map Literal.withoutReturns
  kwargs := d.kwargs.map fun keyword => (keyword.1, keyword.2.withoutReturns)

theorem render_eq (d : FieldDefinition) :
    d.render = d.name ++ " = fields." ++ d.kind.sourceName ++ "(" ++
      ", ".intercalate (d.arguments.map argumentText) ++ ")" := by
  have htexts : d.arguments.map argumentText = d.positional.map Literal.render ++
      d.kwargs.map fun keyword => argumentText (some keyword.1, keyword.2) := by
    rw [arguments, List.map_append, List.map_map, List.map_map]
    rfl
  have harguments : ", ".intercalate (d.arguments.map argumentText) =
      Literal.renderItems d.positional ++
        (if d.positional.isEmpty || d.kwargs.isEmpty then "" else ", ") ++ d.kwargs.render := by
    rw [htexts, Literal.renderItems_eq, renderKeywords_eq]
    cases d.positional with
    | nil => simp
    | cons value values =>
      cases d.kwargs with
      | nil => simp
      | cons keyword keywords =>
        rw [String.intercalate_append_of_ne_nil (by simp) (by simp)]
        rfl
  rw [harguments, render]
  simp only [String.append_assoc]

/-! ## Reading fields -/

theorem IsWellNamed.tokens {d : FieldDefinition} (hd : d.IsWellNamed) :
    Scan.between.tokens d.render.toList = some
      (.name d.name :: .sign '=' :: .name "fields" :: .sign '.' :: .name d.kind.sourceName ::
        .sign '(' :: (separated (d.arguments.map argumentTokens) ++ [.sign ')'])) := by
  have htext : d.render.toList = d.name.toList ++ ' ' :: '=' :: ' ' :: ("fields".toList ++ '.' ::
      (d.kind.sourceName.toList ++ '(' ::
        ((", ".intercalate (d.arguments.map argumentText)).toList ++ [')']))) := by
    rw [render_eq]
    simp
  have harguments : Scans (", ".intercalate (d.arguments.map argumentText)).toList
      (separated (d.arguments.map argumentTokens)) :=
    scans_separated fun argument hargument => (hd.arguments argument hargument).scans
  have hfields : Scans "fields".toList [.name "fields"] := scans_name (by decide)
  have hkind := scans_name (isIdentifier_sourceName d.kind)
  rw [htext, scans_name hd.name _ (delimited_cons (by decide)), Scan.tokens_blank,
    Scan.tokens_sign (by decide), Scan.tokens_blank, hfields.sign (by decide) (by decide),
    hkind.sign (by decide) (by decide), harguments.sign (by decide) (by decide)]
  simp [Scan.tokens, Scan.finish]

theorem sortArguments_written (d : FieldDefinition) :
    sortArguments (d.arguments.map fun argument => (argument.1, argument.2.withoutReturns)) =
      some (d.written.positional, d.written.kwargs) := by
  have harguments : d.arguments.map (fun argument => (argument.1, argument.2.withoutReturns)) =
      d.written.positional.map (none, ·) ++
        d.written.kwargs.map fun keyword => (some keyword.1, keyword.2) := by
    simp only [arguments, written, List.map_append, List.map_map]
    rfl
  rw [harguments, sortArguments_append]

theorem IsWellNamed.readDefinition {d : FieldDefinition} (hd : d.IsWellNamed) :
    LineReader.readDefinition
      (.name d.name :: .sign '=' :: .name "fields" :: .sign '.' :: .name d.kind.sourceName ::
        .sign '(' :: (separated (d.arguments.map argumentTokens) ++ [.sign ')'])) =
      some d.written := by
  have hend : ∀ depth rest, readArgument depth (.sign ')' :: rest) = none := fun depth rest => by
    rw [readArgument, readLiteral_bracket, Option.map_none]
    simp
  have hlength : (separated (d.arguments.map argumentTokens) ++ [Token.sign ')']).length =
      (separated (d.arguments.map argumentTokens)).length + 1 := List.length_append
  have hcount : d.arguments.length ≤ (separated (d.arguments.map argumentTokens)).length + 1 := by
    have := length_le_separated (d.arguments.map argumentTokens)
    rwa [List.length_map] at this
  have hread := readSeparated_separated (hend _) (fun argument hargument c hc rest =>
    (hd.arguments argument hargument).read (Nat.le_succ_of_le (length_le_separated_of_mem
      (List.mem_map_of_mem hargument))) hc rest) hcount []
  simp only [LineReader.readDefinition, hlength, hread, kind?_sourceName, sortArguments_written,
    Option.bind_eq_bind, Option.bind_some, Option.pure_def]
  rfl

/-- No line break comes up in a line that can be read. -/
theorem newline_not_mem_of_tokens {scan : Scan} {line : List Char} {tokens : List Token}
    (h : scan.tokens line = some tokens) : '\n' ∉ line := by
  induction line generalizing scan tokens with
  | nil => exact List.not_mem_nil
  | cons c rest ih =>
    rw [Scan.tokens, Option.bind_eq_some_iff] at h
    obtain ⟨⟨done, next⟩, hstep, hrest⟩ := h
    obtain ⟨others, hothers, -⟩ := Option.map_eq_some_iff.mp hrest
    refine List.not_mem_cons_of_ne_of_not_mem ?_ (ih hothers)
    rintro rfl
    have hafter : ∀ token, Scan.startAfter token '\n' = none := fun _ => rfl
    have hnone : scan.step '\n' = none := by
      cases scan with
      | number read => cases hnumber : number? read <;> simp [Scan.step, hnumber, hafter]
      | _ => rfl
    rw [hnone] at hstep
    exact absurd hstep (by simp)

theorem written_eq_self {d : FieldDefinition} (h : d.HasNoReturns) :
    d.written = { d with selection := none } := by
  have hpositional : ∀ v ∈ d.positional, v.withoutReturns = v := fun v hv =>
    Literal.withoutReturns_eq_self
      (h (none, v) (List.mem_append_left _ (List.mem_map.mpr ⟨v, hv, rfl⟩)))
  have hkwargs : ∀ keyword ∈ d.kwargs, (keyword.1, keyword.2.withoutReturns) = keyword :=
    fun keyword hkeyword => Prod.ext rfl (Literal.withoutReturns_eq_self
      (h (some keyword.1, keyword.2)
        (List.mem_append_right _ (List.mem_map.mpr ⟨keyword, hkeyword, rfl⟩))))
  rw [written, List.map_congr_left hpositional, List.map_id', List.map_congr_left hkwargs,
    List.map_id']

/-- A field takes up one line, and is read from it as it was but for carriage returns in its texts.
Without these two fields of one line differ in nothing that is written. -/
theorem read_from_line {d : FieldDefinition} (hd : d.IsWellNamed) :
    '\n' ∉ d.render.toList ∧ readLine d.render = some d.written ∧
      (d.HasNoReturns → readLine d.render = some { d with selection := none } ∧
        ∀ e : FieldDefinition, e.IsWellNamed → e.HasNoReturns → e.render = d.render →
          e = { d with selection := e.selection }) := by
  have hread : ∀ {e : FieldDefinition}, e.IsWellNamed → readLine e.render = some e.written := by
    intro e he
    rw [readLine, he.tokens]
    exact he.readDefinition
  refine ⟨newline_not_mem_of_tokens hd.tokens, hread hd, fun hreturns => ⟨?self, ?unique⟩⟩
  case self => rw [hread hd, written_eq_self hreturns]
  case unique =>
    intro e he hereturns hline
    have hsame : some d.written = some e.written := by rw [← hread hd, ← hline, hread he]
    have hfields := Option.some.inj hsame
    rw [written_eq_self hreturns, written_eq_self hereturns] at hfields
    obtain ⟨name, kind, positional, kwargs, selection⟩ := e
    cases hfields
    rfl

/-- A field with a tuple in a tuple and characters that are escaped or left out. -/
def sizeField : FieldDefinition where
  name := "size"
  kind := .selection
  positional := [.name "SIZES", .tuple [.tuple [.text "a\"b\\"], .int (-3), .bool true]]
  kwargs := [("string", .text "one\ntwo\tthree"), ("help", .text "a\r\nb")]
  selection := some 7

theorem sizeField_line :
    sizeField.render = "size = fields.Selection(SIZES, ((\"a\\\"b\\\\\",), -3, True), " ++
        "string=\"one\\ntwo\\tthree\", help=\"a\\nb\")" ∧
      '\n' ∉ sizeField.render.toList ∧
      readLine sizeField.render = some
        { name := "size"
          kind := .selection
          positional := [.name "SIZES", .tuple [.tuple [.text "a\"b\\"], .int (-3), .bool true]]
          kwargs := [("string", .text "one\ntwo\tthree"), ("help", .text "a\nb")] } := by
  have hnamed : sizeField.IsWellNamed := by
    refine ⟨by decide, fun argument hargument => ?_⟩
    simp only [arguments, sizeField, List.map_cons, List.map_nil, List.cons_append, List.nil_append,
      List.mem_cons, List.not_mem_nil, or_false] at hargument
    have hbare : isIdentifier "SIZES" = true ∧ isIdentifier "string" = true ∧
        isIdentifier "help" = true := by decide
    rcases hargument with rfl | rfl | rfl | rfl <;> constructor <;> simp [Literal.names, hbare]
  obtain ⟨hline, hread, -⟩ := read_from_line hnamed
  have htexts : LineReader.withoutReturns "a\"b\\" = "a\"b\\" ∧
      LineReader.withoutReturns "one\ntwo\tthree" = "one\ntwo\tthree" ∧
      LineReader.withoutReturns "a\r\nb" = "a\nb" := by decide +kernel
  refine ⟨by decide +kernel, hline, ?_⟩
  rw [hread]
  simp [written, sizeField, Literal.withoutReturns, htexts]

end FieldDefinition
end SchemaModels
