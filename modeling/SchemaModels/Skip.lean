/-
Skip patterns: classes and fields that get no model.

A pattern is tried on the name itself.  One that spans several dotted segments is also tried on the
last enclosing classes, as many as it has segments, and on one class less with the name behind them,
so that `TNFe.infNFe.autXML` means a field of a nested class.  The classes of XML signatures are
always skipped.
-/
import SchemaModels.Error
import SchemaModels.Pattern.Reader

namespace SchemaModels

def signaturePatterns : List String :=
  ["^Signature$", "^SignatureType$", "^SignatureValueType$", "^SignedInfoType$",
   "^ReferenceType$", "^DigestMethodType$", "^TransformsType$", "^TransformType$",
   "^KeyInfoType$", "^X509DataType$", "^CanonicalizationMethodType$", "^SignatureMethodType$"]

/-- A pattern with the number of dotted segments it spans. -/
structure SkipPattern where
  pattern : Pattern
  segments : Nat

def lastNames (n : Nat) (names : List String) : List String := names.drop (names.length - n)

namespace SkipPattern

def read (source : String) : Except ConfigError SkipPattern :=
  match Pattern.read? source with
  | some pattern => .ok ⟨pattern, source.toList.count '.' + 1⟩
  | none => .error (.invalidSkipPattern source)

def isFor (skip : SkipPattern) (name : String) (parents : List String) : Bool :=
  skip.pattern.isMatch name
    || (skip.segments ≥ 2
      && (skip.pattern.isMatch (".".intercalate (lastNames skip.segments parents))
        || skip.pattern.isMatch
          (".".intercalate (lastNames (skip.segments - 1) parents ++ [name]))))

end SkipPattern

/-- The patterns that decide what is skipped. -/
structure SkipRules where
  patterns : List SkipPattern

namespace SkipRules

/-- The signature patterns and the given ones. -/
def read (sources : List String) : Except ConfigError SkipRules :=
  return ⟨← (signaturePatterns ++ sources).mapM SkipPattern.read⟩

def skips (rules : SkipRules) (name : String) (parents : List String) : Bool :=
  rules.patterns.any fun p => p.isFor name parents

def skipsAny (rules : SkipRules) (before : List String) : List String → Bool
  | [] => false
  | name :: rest => rules.skips name before || rules.skipsAny (before ++ [name]) rest

/-- Whether a class, or a class enclosing it, is skipped; the names run from the outermost class to
the class itself. -/
def skipsLineage (rules : SkipRules) (names : List String) : Bool := rules.skipsAny [] names

end SkipRules

end SchemaModels
