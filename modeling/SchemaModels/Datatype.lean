/-
The builtin datatypes of schemas, by the kind of field they become.
-/

namespace SchemaModels

inductive DatatypeFamily where
  | integer
  | float
  | char
  | date
  | datetime
  | boolean
deriving Repr, DecidableEq

def integerTypes : List String :=
  ["integer", "positiveInteger", "nonNegativeInteger", "negativeInteger", "nonPositiveInteger",
   "int", "long", "short", "byte", "unsignedInt", "unsignedLong", "unsignedShort",
   "unsignedByte"]

def floatTypes : List String := ["float", "decimal", "double"]

def charTypes : List String :=
  ["string", "NMTOKEN", "ID", "IDREF", "IDREFS", "anyURI", "base64Binary", "normalizedString",
   "language", "token"]

/-- Datatypes and schema types of days. -/
def dateTypes : List String := ["date", "TData"]

def datetimeTypes : List String := ["dateTime", "TDateTimeUTC"]

def datatypeFamily (code : String) : Option DatatypeFamily :=
  if integerTypes.contains code then some .integer
  else if floatTypes.contains code then some .float
  else if charTypes.contains code then some .char
  else if dateTypes.contains code then some .date
  else if datetimeTypes.contains code then some .datetime
  else if code == "boolean" then some .boolean
  else none

end SchemaModels
