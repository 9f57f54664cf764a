/-
What the values of an enumeration mean.

An enumeration that belongs to a single field is named after the class and the field, as in
`Type_field`, and its values are explained in the documentation of that field: `A - Active;
B - Closed`.  The label of a value is what follows it and a separator there, up to the end of the
line, a semicolon or the next such mark; a value that is not explained is its own label.  Without
such a field each value has its own documentation, or itself, as label.

The help of the enumeration is its documentation.  If the field begins its documentation with a text
before the first value, that text is the help.
-/
import SchemaModels.FirstMet
import SchemaModels.Selection

namespace SchemaModels

open Text

structure SelectionItem where
  value : String
  label : String
deriving Repr, DecidableEq

structure EnumDoc where
  items : List SelectionItem
  help : Option String
deriving Repr, DecidableEq

/-! ## The field of an enumeration -/

def headPart (s : List Char) : List Char := s.takeWhile (· ≠ '_')

/-- The field that the name of an enumeration names: what stands between its first two
underscores. -/
def enumField? (name : String) : Option String :=
  (splitFirst? ['_'] name.toList).map fun (_, rest) => String.ofList (headPart rest)

def Forest.fieldDoc? (f : Forest) (c : SchemaClass) : Option String := do
  let name ← enumField? c.name
  let owner ← (f.resolve (String.ofList (headPart c.qname.toList))).filter SchemaClass.isComplex
  let a ← owner.attributes.find? fun a => a.name == name
  a.documentation

/-! ## Explanations -/

def itemSeparators : List String := [" - ", "-", " – ", "–"]

def aroundToken? (token text : List Char) : Option (List Char × List Char) :=
  (splitFirst? token text).map fun (before, rest) =>
    match splitFirst? token rest with
    | some (segment, _) => (before, segment)
    | none => (before, rest)

def explanation? (text : List Char) (value : String) : Option (List Char × List Char) :=
  itemSeparators.findSome? fun separator => aroundToken? (value ++ separator).toList text

def explainedLabel? (after : List Char) : Option String :=
  let label := trim ((firstLine after).takeWhile (· ≠ ';'))
  if label.isEmpty then none else some (String.ofList label)

def labelIn (text : List Char) (value : String) : String :=
  (((explanation? text value).bind fun (_, after) => explainedLabel? after)).getD value

/-! ## Help -/

/-- The longest help that is taken from before the first value. -/
def maxHelpLength : Nat := 1024

def leadingHelp? (options : LabelOptions) (name : String) (text : List Char) (value : String) :
    Option String := do
  let (before, after) ← explanation? text value
  let _ ← explainedLabel? after
  if (trim before).isEmpty then none
  else
    return (Label.extract { options with maxLength := maxHelpLength } [] name
      (some (String.ofList before))).text

/-- The help of an enumeration whose field has a documentation: what stands before the first value,
else what is known, else the whole documentation unless it begins with that value. -/
def helpFrom (options : LabelOptions) (name : String) (text : List Char) (known : Option String) :
    List EnumValue → Option String
  | [] => known
  | first :: _ =>
    leadingHelp? options name text first.value <|> known <|>
      if beginsWith first.value.toList text then none else some (String.ofList text)

/-! ## Both -/

def EnumValue.item (v : EnumValue) : SelectionItem := ⟨v.value, v.documentation.getD v.value⟩

namespace Context

def enumDoc (ctx : Context) (id : Nat) (c : SchemaClass) : EnumDoc :=
  let known := ctx.facts.documentation id c
  match ctx.forest.fieldDoc? c with
  | none => ⟨c.values.map EnumValue.item, known⟩
  | some doc =>
    let text := doc.toList
    ⟨c.values.map fun v => ⟨v.value, labelIn text v.value⟩,
      helpFrom ctx.config.labels.options c.name text known c.values⟩

end Context

/-! ## Values that differ -/

def lowerText (s : String) : String := String.ofList (lowerAll s.toList)

/-- The values that differ in more than case from all before them: of values that differ in case
only, a database would refuse all but one. -/
def distinctValues (values : List String) : List String := FirstMet.unmet lowerText [] values

/-- The items of an enumeration whose values are kept, each value once. -/
def EnumDoc.distinct (doc : EnumDoc) : List SelectionItem :=
  let kept := distinctValues (doc.items.map (·.value))
  FirstMet.unmet SelectionItem.value [] (doc.items.filter fun item => kept.contains item.value)

end SchemaModels
