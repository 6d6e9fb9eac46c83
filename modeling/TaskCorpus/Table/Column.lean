import TaskCorpus.Json.Value

/-!
# Columns

A table is a list of named columns of one length. A column holds one value for each row: a text, a
natural of 64 bits, a truth value, a group of named values, or a list. The items of all lists of a
column stand in one further column, and the column itself knows how many belong to each row.

Arrays of lists are kept with offsets into their items, and an array that has been cut out of
another one shares its items. `Column.ofOffsets` is the column of such an array: the list of a row
goes from its offset to the next one, and items outside all offsets are left out.
-/

namespace TaskCorpus.Table

inductive Column where
  | text (values : List String)
  | count (values : List Nat)
  | flag (values : List Bool)
  | group (rows : Nat) (fields : List (String × Column))
  | list (lengths : List Nat) (item : Column)
  /-- Values of a type that records do not have. -/
  | other (rows : Nat)

/-- Columns with their names. -/
abbrev Columns := List (String × Column)

/-- The number of values of a column. -/
def Column.rows : Column → Nat
  | .text values => values.length
  | .count values => values.length
  | .flag values => values.length
  | .group rows _ => rows
  | .list lengths _ => lengths.length
  | .other rows => rows

/-- The number of rows of a table is that of its first column. -/
def Columns.rows : Columns → Nat
  | [] => 0
  | (_, c) :: _ => c.rows

/-- The number of items in lists of the given lengths. -/
def itemCount : List Nat → Nat
  | [] => 0
  | n :: ns => n + itemCount ns

mutual

/-- The values of `n` rows from a row on. -/
def Column.slice (start n : Nat) : Column → Column
  | .text values => .text ((values.drop start).take n)
  | .count values => .count ((values.drop start).take n)
  | .flag values => .flag ((values.drop start).take n)
  | .group rows fields => .group (min n (rows - start)) (sliceFields start n fields)
  | .list lengths item =>
    let kept := (lengths.drop start).take n
    .list kept (item.slice (itemCount (lengths.take start)) (itemCount kept))
  | .other rows => .other (min n (rows - start))

def sliceFields (start n : Nat) : List (String × Column) → List (String × Column)
  | [] => []
  | f :: fs => sliceField start n f :: sliceFields start n fs

def sliceField (start n : Nat) : String × Column → String × Column
  | (name, c) => (name, c.slice start n)

end

/-- The rows of a table from one on, cut into batches of the given numbers of rows. -/
def Columns.batches (columns : Columns) : Nat → List Nat → List Columns
  | _, [] => []
  | start, n :: ns => sliceFields start n columns :: columns.batches (start + n) ns

/-- The lengths of the lists between successive offsets. -/
def lengthsOf (offsets : List Nat) : List Nat :=
  List.zipWith (fun start stop => stop - start) offsets offsets.tail

/-- The column of an array of lists that is kept with offsets into its items. -/
def Column.ofOffsets (offsets : List Nat) (items : Column) : Column :=
  let lengths := lengthsOf offsets
  .list lengths (items.slice (offsets.headD 0) (itemCount lengths))

/-- Cuts a list into pieces of the given lengths. -/
def cut {α : Type} : List Nat → List α → List (List α)
  | [], _ => []
  | n :: ns, as => as.take n :: cut ns (as.drop n)

theorem cut_flatten {α : Type} (ass : List (List α)) :
    cut (ass.map List.length) ass.flatten = ass := by
  induction ass with
  | nil => rfl
  | cons as ass ih => simp [cut, ih]

end TaskCorpus.Table
