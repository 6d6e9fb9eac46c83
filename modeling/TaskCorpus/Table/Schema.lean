import Mathlib.Algebra.GroupWithZero.Nat
import TaskCorpus.Table.Column

/-!
# The schema of tables of records

The kind of a column names the fields of its groups and says what its lists hold, but not how many
values there are. `schema` gives the columns of a table of records with their kinds, in the order
in which they are written. `Column.Regular` is what holds of the lengths in every column that can
be put together.
-/

namespace TaskCorpus.Table

/-- What the values of a column are. -/
inductive Kind where
  | text
  | count
  | flag
  | group (fields : List (String × Kind))
  | list (item : Kind)
  | other

mutual

def Column.kind : Column → Kind
  | .text _ => .text
  | .count _ => .count
  | .flag _ => .flag
  | .group _ fields => .group (kinds fields)
  | .list _ item => .list item.kind
  | .other _ => .other

/-- Columns with their names and kinds. -/
def kinds : List (String × Column) → List (String × Kind)
  | [] => []
  | f :: fs => fieldKind f :: kinds fs

def fieldKind : String × Column → String × Kind
  | (name, c) => (name, c.kind)

end

/-- A column of `n` values: a group has as many of each of its values, and the items of a column
of lists are as many as its lists need. -/
inductive Column.Regular : Nat → Column → Prop
  | text {n : Nat} {values : List String} (h : values.length = n) : Regular n (.text values)
  | count {n : Nat} {values : List Nat} (h : values.length = n) : Regular n (.count values)
  | flag {n : Nat} {values : List Bool} (h : values.length = n) : Regular n (.flag values)
  | group {n rows : Nat} {fields : List (String × Column)} (h : rows = n)
      (hf : ∀ f ∈ fields, Regular n f.2) : Regular n (.group rows fields)
  | list {n : Nat} {lengths : List Nat} {item : Column} (h : lengths.length = n)
      (hi : Regular lengths.sum item) : Regular n (.list lengths item)
  | other {n rows : Nat} (h : rows = n) : Regular n (.other rows)

def messageKinds : List (String × Kind) := [("role", .text), ("content", .text)]

def callKinds : List (String × Kind) := [("name", .text), ("kwargs", .text)]

def scoringKinds : List (String × Kind) :=
  [("style", .text), ("ground_truth", .list (.group callKinds))]

def extraKinds : List (String × Kind) := [
  ("split", .text), ("index", .count), ("task_id", .text), ("user_id", .text),
  ("question", .text), ("need_tools_kwargs", .flag), ("tools_kwargs", .text),
  ("interaction_kwargs", .text)]

/-- The columns of a table of records. -/
def schema : List (String × Kind) := [
  ("data_source", .text), ("agent_name", .text), ("prompt", .list (.group messageKinds)),
  ("ability", .text), ("reward_model", .group scoringKinds), ("extra_info", .group extraKinds)]

/-- The texts in the column of splits. -/
def splitTexts (columns : Columns) : List String :=
  match findEntry "extra_info" columns with
  | some (.group _ fields) =>
    match findEntry "split" fields with
    | some (.text values) => values
    | _ => []
  | _ => []

/-- A table of `n` rows with exactly the columns of the schema, in order, that names no splits but
the two there are. -/
structure IsTable (n : Nat) (columns : Columns) : Prop where
  kinds : kinds columns = schema
  regular : ∀ c ∈ columns, c.2.Regular n
  splits : ∀ text ∈ splitTexts columns, text = "train" ∨ text = "test"

end TaskCorpus.Table
