/-
Stopwords: words at which a label may be cut and with which it must not end.
-/

namespace SchemaModels

inductive LabelLanguage where
  | portuguese
  | english
deriving Repr, DecidableEq, Inhabited

def portugueseStopwords : List String :=
  ["a", "ao", "aos", "aquela", "aquelas", "aquele", "aqueles", "aquilo", "as", "até", "com",
   "como", "da", "das", "de", "dela", "delas", "dele", "deles", "depois", "do", "dos", "e",
   "ela", "elas", "ele", "eles", "em", "entre", "era", "essa", "essas", "esse", "esses", "esta",
   "estas", "este", "estes", "eu", "for", "foi", "há", "isso", "isto", "já", "lhe", "mais",
   "mas", "mesmo", "muito", "na", "nas", "nem", "no", "nos", "num", "numa", "não", "o", "os",
   "ou", "para", "pela", "pelas", "pelo", "pelos", "por", "quando", "que", "quem", "se", "sem",
   "ser", "seu", "seus", "sua", "suas", "só", "também", "te", "tem", "um", "uma", "à", "às",
   "é"]

def englishStopwords : List String :=
  ["a", "about", "above", "after", "again", "against", "all", "an", "and", "any", "are", "as",
   "at", "be", "because", "been", "before", "being", "below", "between", "both", "but", "by",
   "can", "did", "do", "does", "doing", "down", "during", "each", "few", "for", "from",
   "further", "had", "has", "have", "having", "if", "in", "into", "is", "it", "its", "more",
   "most", "no", "nor", "not", "of", "off", "on", "once", "only", "or", "other", "our", "out",
   "over", "own", "same", "should", "so", "some", "such", "than", "that", "the", "their",
   "then", "there", "these", "they", "this", "those", "through", "to", "too", "under", "until",
   "up", "very", "was", "were", "what", "when", "where", "which", "while", "who", "whom", "why",
   "will", "with"]

def LabelLanguage.stopwords : LabelLanguage → List String
  | .portuguese => portugueseStopwords
  | .english => englishStopwords

end SchemaModels
