import TaskCorpus.Decimal.Binary64
import TaskCorpus.Toml.Datetime

/-!
# TOML values

The entries of a table stand in the order in which the document completes them.
-/

namespace TaskCorpus.Toml

inductive Value where
  | string (s : String)
  | integer (n : Int)
  | float (x : Decimal.Binary64)
  | boolean (b : Bool)
  | datetime (d : Datetime)
  | array (items : List Value)
  | table (entries : List (String × Value))

abbrev Table := List (String × Value)

end TaskCorpus.Toml
