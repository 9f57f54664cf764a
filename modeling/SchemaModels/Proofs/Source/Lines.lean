/-
The lines on which the source of a module stands.

The text of a module is a list of rows, each closed with a line break (`ModuleSource.render_eq`).  A
row is one line unless a text in it that is written without quotes breaks it: then it is as many
lines as the text, and what is behind the break is no longer part of a field or a remark.
-/
import SchemaModels.Source.Module
import SchemaModels.Proofs.Source.Field
import SchemaModels.Proofs.Text.Words

namespace SchemaModels

open Text

/-! ## Lines -/

/-- What stands between the line breaks of a text, and before and behind them. -/
def sourceLines (s : String) : List String :=
  (pieces (· == '\n') s.toList).map String.ofList

theorem sourceLines_eq_singleton_iff {s : String} : sourceLines s = [s] ↔ '\n' ∉ s.toList := by
  constructor
  · intro h hbreak
    have hmem : s.toList ∈ pieces (· == '\n') s.toList := by
      have hs : s ∈ sourceLines s := h ▸ List.mem_singleton.mpr rfl
      obtain ⟨piece, hpiece, hsame⟩ := List.mem_map.mp hs
      have htext : piece = s.toList := by rw [← hsame, String.toList_ofList]
      rwa [htext] at hpiece
    exact absurd (not_separator_of_mem_pieces hmem '\n' hbreak) (by decide)
  · intro h
    have hpieces : pieces (· == '\n') s.toList = [s.toList] :=
      pieces_of_no_separator fun c hc => beq_false_of_ne (ne_of_mem_of_not_mem hc h)
    rw [sourceLines, hpieces, List.map_singleton, String.ofList_toList]

theorem sourceLines_append_break (s t : String) :
    sourceLines (s ++ "\n" ++ t) = sourceLines s ++ sourceLines t := by
  have hbreak : (s ++ "\n" ++ t).toList = s.toList ++ '\n' :: t.toList := by simp
  rw [sourceLines, hbreak, pieces_append (by rfl), List.map_append]
  rfl

theorem closedLines_cons (row : String) (rows : List String) :
    closedLines (row :: rows) = row ++ "\n" ++ closedLines rows := by
  rw [closedLines, List.map_cons, String.join_cons]
  rfl

theorem closedLines_append (rows more : List String) :
    closedLines (rows ++ more) = closedLines rows ++ closedLines more := by
  rw [closedLines, List.map_append, String.join_append]
  rfl

theorem sourceLines_closedLines (rows : List String) :
    sourceLines (closedLines rows) = rows.flatMap sourceLines ++ [""] := by
  induction rows with
  | nil => rfl
  | cons row rows ih =>
    rw [closedLines_cons, sourceLines_append_break, ih, List.flatMap_cons, List.append_assoc]

/-! ## What is written without quotes -/

/-- The texts of a field that are written as they are: its name, the keywords and the bare names. -/
def FieldDefinition.unquoted (d : FieldDefinition) : List String :=
  d.name :: d.arguments.flatMap fun argument => argument.1.toList ++ argument.2.names

def Mapping.unquoted : Mapping → List String
  | .field d => d.unquoted
  | .skipped => []
  | .diagnostic name message => [name, message]

theorem not_mem_intercalate_iff {c : Char} {separator : String} (hc : c ∉ separator.toList)
    (texts : List String) :
    c ∉ (separator.intercalate texts).toList ↔ ∀ text ∈ texts, c ∉ text.toList := by
  match texts with
  | [] => simp
  | [text] => simp [String.intercalate_singleton]
  | text :: next :: rest =>
    have hrest := not_mem_intercalate_iff hc (next :: rest)
    rw [String.intercalate_cons_cons, List.forall_mem_cons, ← hrest]
    simp [hc]

/-- What can be scanned stands on one line. -/
theorem newline_not_mem_of_scans {text : List Char} {tokens : List LineReader.Token}
    (h : LineReader.Scans text tokens) : '\n' ∉ text := by
  have htokens := h [] fun c hc => nomatch hc
  rw [List.append_nil] at htokens
  exact FieldDefinition.newline_not_mem_of_tokens htokens

theorem Literal.newline_not_mem_render_iff (v : Literal) :
    '\n' ∉ v.render.toList ↔ ∀ name ∈ v.names, '\n' ∉ name.toList := by
  have hclosed : ∀ {w : Literal}, w.names = [] →
      ('\n' ∉ w.render.toList ↔ ∀ name ∈ w.names, '\n' ∉ name.toList) := by
    intro w hnames
    have hscans := LineReader.scans_literal (v := w) (by simp [hnames])
    simp [hnames, newline_not_mem_of_scans hscans]
  induction v using Literal.nested_induction with
  | text value => exact hclosed (by rw [names])
  | bool value => exact hclosed (by rw [names])
  | int value => exact hclosed (by rw [names])
  | name value => simp [render, names]
  | tuple items ih =>
    have hbrackets : '\n' ∉ (Literal.tuple items).render.toList ↔
        '\n' ∉ (", ".intercalate (items.map render)).toList := by
      rw [render, renderItems_eq]
      split <;> simp
    rw [hbrackets, not_mem_intercalate_iff (by decide), List.forall_mem_map, names,
      List.forall_mem_flatMap]
    exact forall₂_congr ih

theorem LineReader.newline_not_mem_argumentText_iff (argument : Argument) :
    '\n' ∉ (argumentText argument).toList ↔
      ∀ text ∈ argument.1.toList ++ argument.2.names, '\n' ∉ text.toList := by
  obtain ⟨key, value⟩ := argument
  cases key <;> simp [argumentText, ← value.newline_not_mem_render_iff]

theorem FieldDefinition.newline_not_mem_render_iff (d : FieldDefinition) :
    '\n' ∉ d.render.toList ↔ ∀ text ∈ d.unquoted, '\n' ∉ text.toList := by
  have hkind : '\n' ∉ d.kind.sourceName.toList := by cases d.kind <;> decide
  have harguments : '\n' ∉ (", ".intercalate (d.arguments.map LineReader.argumentText)).toList ↔
      ∀ text ∈ d.arguments.flatMap fun argument => argument.1.toList ++ argument.2.names,
        '\n' ∉ text.toList := by
    rw [not_mem_intercalate_iff (by decide), List.forall_mem_map, List.forall_mem_flatMap]
    exact forall₂_congr fun argument _ => LineReader.newline_not_mem_argumentText_iff argument
  rw [render_eq, unquoted, List.forall_mem_cons, ← harguments]
  simp [hkind]

theorem sourceLines_indented_iff {line : String} :
    sourceLines ("    " ++ line) = ["    " ++ line] ↔ '\n' ∉ line.toList := by
  rw [sourceLines_eq_singleton_iff]
  simp

/-- What an attribute becomes stands on one line unless something in it that is written without
quotes is broken. -/
theorem Mapping.stands_on_one_line_iff {mapping : Mapping} {line : String}
    (h : mapping.line? = some line) :
    sourceLines ("    " ++ line) = ["    " ++ line] ↔
      ∀ text ∈ mapping.unquoted, '\n' ∉ text.toList := by
  rw [sourceLines_indented_iff]
  cases mapping with
  | field d =>
    cases h
    exact d.newline_not_mem_render_iff
  | skipped => cases h
  | diagnostic name message =>
    cases h
    simp [Mapping.unquoted]

theorem implicitMany2one_stands_on_one_line_iff {name parent : String} :
    sourceLines ("    " ++ (implicitMany2one name parent).render) =
        ["    " ++ (implicitMany2one name parent).render] ↔ '\n' ∉ name.toList := by
  rw [sourceLines_indented_iff, FieldDefinition.newline_not_mem_render_iff]
  simp [FieldDefinition.unquoted, FieldDefinition.arguments, implicitMany2one, Literal.names]

/-! ## Rows -/

def EnumBlock.rows (block : EnumBlock) : List String :=
  ["", "", block.constant ++ " = ["] ++ block.items.map itemLine ++ ["]"] ++
    (if block.docstring.isEmpty then [] else [block.docstring])

namespace ModelBlock

/-- The rows before those that name the model. -/
def headRows (baseClass : String) (block : ModelBlock) : List String :=
  ["", "", "class " ++ block.name ++ "(" ++ baseClass ++ "):"] ++
    (if block.docstring.isEmpty then [] else ["    " ++ block.docstring]) ++
    ["    _description = " ++ block.description]

/-- The rows of the keys and of what the attributes become, apart from those before them. -/
def fieldRows (block : ModelBlock) : List String :=
  if block.fieldLines.isEmpty then [] else "" :: block.fieldLines.map ("    " ++ ·)

def rows (baseClass inherited : String) (block : ModelBlock) : List String :=
  block.headRows baseClass ++
    ["    _name = \"" ++ block.registryName ++ "\"",
     "    _inherit = \"" ++ inherited ++ "\"",
     "    _binding_type = \"" ++ block.bindingType ++ "\""] ++
    block.fieldRows

end ModelBlock

/-- The rows before the models. -/
def ModuleSource.frontRows (source : ModuleSource) : List String :=
  ["import textwrap", "", "from odoo import fields, models"] ++
    (if source.imports.isEmpty then [] else "" :: source.imports.map ImportLine.render) ++
    source.enums.flatMap EnumBlock.rows

theorem closedLines_blank_blank (rows : List String) :
    closedLines ("" :: "" :: rows) = "\n\n" ++ closedLines rows := by
  rw [closedLines_cons, closedLines_cons, String.empty_append, ← String.append_assoc]
  rfl

theorem EnumBlock.render_eq (block : EnumBlock) : block.render = closedLines block.rows := by
  simp only [render, rows, closedLines_append, closedLines_blank_blank, optionalLine]
  split <;> simp [closedLines, String.join_cons, String.append_assoc]

theorem ModelBlock.render_eq (baseClass inherited : String) (block : ModelBlock) :
    block.render baseClass inherited = closedLines (block.rows baseClass inherited) := by
  have hhead : ∀ text : String, "\n\nclass " ++ text = "\n\n" ++ ("class " ++ text) := by
    intro text
    rw [← String.append_assoc]
    rfl
  simp only [render, rows, headRows, fieldRows, closedLines_append, closedLines_blank_blank,
    optionalLine]
  split <;> split <;> simp [closedLines, String.join_cons, String.append_assoc] <;>
    exact hhead _

theorem closedLines_flatMap {α : Type} (rows : α → List String) (items : List α) :
    closedLines (items.flatMap rows) = String.join (items.map fun a => closedLines (rows a)) := by
  induction items with
  | nil => rfl
  | cons a rest ih =>
    rw [List.flatMap_cons, closedLines_append, ih, List.map_cons, String.join_cons]

/-- The text of a module are the rows before the models and those of the models, each closed. -/
theorem ModuleSource.render_eq (source : ModuleSource) :
    source.render = closedLines (source.frontRows ++
      source.models.flatMap (ModelBlock.rows source.baseClass source.inherited)) := by
  have henums : EnumBlock.render = fun block => closedLines block.rows :=
    funext EnumBlock.render_eq
  have hmodels : ModelBlock.render source.baseClass source.inherited =
      fun block => closedLines (block.rows source.baseClass source.inherited) :=
    funext (ModelBlock.render_eq source.baseClass source.inherited)
  rw [closedLines_append, frontRows, closedLines_append, closedLines_append, closedLines_flatMap,
    closedLines_flatMap, render, henums, hmodels, importText]
  have hheader : header = closedLines ["import textwrap", "", "from odoo import fields, models"] := by
    decide
  have himports : closedLines ("" :: source.imports.map ImportLine.render) =
      "\n" ++ closedLines (source.imports.map ImportLine.render) := closedLines_cons _ _
  rw [hheader]
  split
  · rfl
  · rw [himports]

theorem ModuleSource.sourceLines_render (source : ModuleSource) :
    sourceLines source.render =
      source.frontRows.flatMap sourceLines ++
        source.models.flatMap (fun block =>
          (block.rows source.baseClass source.inherited).flatMap sourceLines) ++ [""] := by
  rw [source.render_eq, sourceLines_closedLines, List.flatMap_append, List.flatMap_assoc]

end SchemaModels
