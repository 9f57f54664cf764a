/-
Tokens of YAML: the brackets, marks and scalars of a text, with the structure that indentation
shows made explicit.
-/

namespace SchemaModels
namespace Yaml

inductive Style where
  | plain
  | singleQuoted
  | doubleQuoted
  | literal
  | folded
deriving Repr, DecidableEq

inductive Token where
  | textEnd
  | version (major minor : Nat)
  /-- A handle for tags and what it stands for. -/
  | tagHandle (handle start : String)
  | documentStart
  | documentEnd
  | blockListStart
  | blockRecordStart
  | blockEnd
  | flowListStart
  | flowListEnd
  | flowRecordStart
  | flowRecordEnd
  | blockEntry
  | flowEntry
  | key
  | value
  | reference (name : String)
  | anchor (name : String)
  | tag (handle suffix : String)
  | scalar (text : String) (style : Style)
deriving Repr, DecidableEq

end Yaml
end SchemaModels
