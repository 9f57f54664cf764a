/-
What can be wrong with a configuration or a bundle, and how it is said.
-/
import SchemaModels.Text.Quoted

namespace SchemaModels

inductive BundleFormat where
  | json
  | yaml
deriving Repr, DecidableEq

/-- A fault in what a bundle says, as opposed to how it is written. -/
inductive BundleFault where
  | invalidMaxOccurs (text : String)
  | twoTargets (datatype qname : String)
  | noTarget
deriving Repr, DecidableEq

inductive LoadError where
  /-- The text cannot be read; the fault is given if it is one of the bundle's own. -/
  | unreadable (format : BundleFormat) (fault : Option BundleFault)
  | duplicateClass (qname : String)
  | unknownClass (group qname : String)
deriving Repr, DecidableEq

inductive ConfigError where
  | unreadable
  | invalidSkipPattern (pattern : String)
  | invalidNumericConvention (text : String)
deriving Repr, DecidableEq

def BundleFault.message : BundleFault → String
  | invalidMaxOccurs text => "invalid max_occurs: " ++ text
  | twoTargets datatype qname =>
    "type reference names both datatype " ++ datatype ++ " and class " ++ qname
  | noTarget => "type reference needs a datatype or a class"

def LoadError.message? : LoadError → Option String
  | unreadable _ fault => fault.map BundleFault.message
  | duplicateClass qname => some ("duplicate class qualified name: " ++ qname)
  | unknownClass group qname => some ("group " ++ group ++ " references unknown class " ++ qname)

def ConfigError.message? : ConfigError → Option String
  | unreadable => none
  | invalidSkipPattern _ => none
  | invalidNumericConvention text =>
    some ("invalid numeric type convention " ++ Text.quoted text
      ++ ", expected Prefix[a:b.c:d]")

end SchemaModels
