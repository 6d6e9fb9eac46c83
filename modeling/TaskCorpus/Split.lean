import TaskCorpus.Json.Reading

/-!
# Splits

A corpus has a training split and a test split. The name of a split is its tag in records and
the stem of its file.
-/

namespace TaskCorpus

inductive Split where
  | train
  | test
  deriving DecidableEq

namespace Split

/-- Every split, in the order of output. -/
def all : List Split := [.train, .test]

def name : Split → String
  | .train => "train"
  | .test => "test"

/-- The place of a split in `all`. -/
def position (s : Split) : Nat := all.idxOf s

/-- The file that a split is stored in. -/
def fileName (s : Split) : String := s.name ++ ".parquet"

def ofName? (name : String) : Option Split := all.find? fun s => s.name = name

def toJson (s : Split) : Json.Value := .string s.name

def reader : Json.Reader Split := Json.Reader.variant ofName? (all.map name)

theorem ofName?_name (s : Split) : ofName? s.name = some s := by
  cases s <;> decide

end Split

end TaskCorpus
