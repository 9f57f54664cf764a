/-
Quoting a text for a message: double quotes around it, and an escape for every character that could
not be told apart on a page.
-/
import SchemaModels.Text.Class

namespace SchemaModels
namespace Text

def codeEscape (c : Char) : List Char :=
  ['\\', 'u', '\x7b'] ++ Nat.toDigits 16 c.toNat ++ ['\x7d']

def quotedChar (c : Char) : List Char :=
  if c = '\x00' then ['\\', '0']
  else if c = '\t' then ['\\', 't']
  else if c = '\r' then ['\\', 'r']
  else if c = '\n' then ['\\', 'n']
  else if c = '\\' then ['\\', '\\']
  else if c = '"' then ['\\', '"']
  else if isExtender c then codeEscape c
  else if isPrintable c then [c]
  else codeEscape c

def quoted (s : String) : String :=
  String.ofList (['"'] ++ s.toList.flatMap quotedChar ++ ['"'])

end Text
end SchemaModels
