import TaskCorpus.KeyMap
import TaskCorpus.Toml.Value

/-!
# Putting tables together

A table may be described in several places. A `Draft` is a table that is still growing; it knows
of each of its tables whether a header has named it or only keys and headers below it have, and
whether it comes from a key with dots. A name is given a value only once, a table has at most one
header, and keys with dots reach only tables that come from such keys.
-/

namespace TaskCorpus.Toml

/-- A part of a growing table. -/
inductive Draft where
  | value (v : Value)
  /-- A table: whether no header has named it, and whether it comes from a key with dots. -/
  | table (implied dotted : Bool) (entries : List (String × Draft))
  /-- A list of tables, each with a header. -/
  | tables (ts : List (List (String × Draft)))

/-- A line of a document. -/
inductive Statement where
  | entry (key : List String) (v : Value)
  | header (key : List String)
  | listHeader (key : List String)

namespace Draft

abbrev Entries := List (String × Draft)

/-- Puts a draft in the place of the one that has its name. -/
def replace (k : String) (d : Draft) (es : Entries) : Entries :=
  es.map fun e => if e.1 = k then (k, d) else e

/-- Changes the table that a path leads to, from a table on that comes from a key with dots or
not. Tables that are missing on the way come into being, and the last table of a list stands for
the list. -/
def change (byKey : Bool) (f : Bool → Entries → Option Entries) :
    List String → Bool → Entries → Option Entries
  | [], dotted, es => f dotted es
  | k :: ks, _, es =>
    match findEntry k es with
    | none => do
      let inner ← change byKey f ks byKey []
      some (es ++ [(k, .table true byKey inner)])
    | some (.value _) => none
    | some (.table implied dotted inner) =>
      if byKey && !implied then none
      else do
        let inner ← change byKey f ks dotted inner
        some (replace k (.table implied dotted inner) es)
    | some (.tables ts) =>
      match ts.reverse with
      | [] => none
      | t :: before => do
        let t ← change byKey f ks false t
        some (replace k (.tables (before.reverse ++ [t])) es)

/-- Gives a value to a name without one. Only a key with dots adds to a table from such a key. -/
def give (k : String) (v : Value) (byDots dotted : Bool) (es : Entries) : Option Entries :=
  if byDots != dotted || (findEntry k es).isSome then none else some (es ++ [(k, .value v)])

/-- Adds an entry to a table. -/
def add (key : List String) (v : Value) (es : Entries) : Option Entries :=
  match key.reverse with
  | [] => none
  | k :: path => change true (give k v !path.isEmpty) path.reverse false es

def addAll (pairs : List (List String × Value)) (es : Entries) : Option Entries :=
  pairs.foldlM (fun es p => add p.1 p.2 es) es

/-- The table that a header names, with the entries that follow the header. -/
def headed (pairs : List (List String × Value)) (k : String) (_ : Bool) (es : Entries) :
    Option Entries := do
  let start ←
    match findEntry k es with
    | none => some []
    | some (.table true false inner) => some inner
    | some _ => none
  let inner ← addAll pairs start
  some (dropEntry k es ++ [(k, .table false false inner)])

/-- A new table in a list of tables, with the entries that follow the header. -/
def listed (pairs : List (List String × Value)) (k : String) (_ : Bool) (es : Entries) :
    Option Entries := do
  let t ← addAll pairs []
  match findEntry k es with
  | none => some (es ++ [(k, .tables [t])])
  | some (.tables ts) => some (replace k (.tables (ts ++ [t])) es)
  | some _ => none

mutual

/-- The value of a draft. -/
def toValue : Draft → Value
  | .value v => v
  | .table _ _ es => .table (finish es)
  | .tables ts => .array (finishTables ts)

def finish : List (String × Draft) → List (String × Value)
  | [] => []
  | e :: es => finishEntry e :: finish es

def finishEntry : String × Draft → String × Value
  | (k, d) => (k, d.toValue)

def finishTables : List (List (String × Draft)) → List Value
  | [] => []
  | t :: ts => .table (finish t) :: finishTables ts

end

end Draft

/-- The entries up to the next header, and the statements from it on. -/
def leadingEntries : List Statement → List (List String × Value) × List Statement
  | .entry key v :: rest =>
    let (pairs, rest) := leadingEntries rest
    ((key, v) :: pairs, rest)
  | rest => ([], rest)

theorem leadingEntries_length (ss : List Statement) :
    (leadingEntries ss).2.length ≤ ss.length := by
  induction ss with
  | nil => simp [leadingEntries]
  | cons s ss ih =>
    cases s with
    | entry key v => exact Nat.le_succ_of_le ih
    | header key => exact Nat.le_refl _
    | listHeader key => exact Nat.le_refl _

/-- Adds the tables of the headers to the table of the document. -/
def addHeaders (es : Draft.Entries) : List Statement → Option Draft.Entries
  | [] => some es
  | .entry _ _ :: _ => none
  | .header key :: rest =>
    match key.reverse with
    | [] => none
    | k :: path => do
      let es ← Draft.change false (Draft.headed (leadingEntries rest).1 k) path.reverse false es
      addHeaders es (leadingEntries rest).2
  | .listHeader key :: rest =>
    match key.reverse with
    | [] => none
    | k :: path => do
      let es ← Draft.change false (Draft.listed (leadingEntries rest).1 k) path.reverse false es
      addHeaders es (leadingEntries rest).2
termination_by ss => ss.length
decreasing_by all_goals exact Nat.lt_succ_of_le (leadingEntries_length rest)

/-- The table that statements describe. -/
def tableOf (ss : List Statement) : Option Table := do
  let es ← Draft.addAll (leadingEntries ss).1 []
  let es ← addHeaders es (leadingEntries ss).2
  some (Draft.finish es)

end TaskCorpus.Toml
