import TaskCorpus.Decimal.Layout
import TaskCorpus.Toml.Decode

/-!
# Override values

An override sets a key of the trainer's configuration. Its value is written in a grammar of its
own, in which some characters are structure: a text with such a character stands between single
quotes, and so does every text inside a list or table.
-/

namespace TaskCorpus.Launch

inductive Value where
  | string (s : String)
  | integer (n : Int)
  | float (x : Decimal.Binary64)
  | boolean (b : Bool)
  | datetime (d : Toml.Datetime)
  | list (items : List Value)
  /-- Entries in increasing order of their keys. -/
  | table (entries : List (String × Value))

namespace Value

mutual

/-- The value that a TOML value stands for. A table whose first entry has the reserved name of
dates and times has to be one. -/
def ofToml? : Toml.Value → Option Value
  | .string s => some (.string s)
  | .integer n => some (.integer n)
  | .float x => some (.float x)
  | .boolean b => some (.boolean b)
  | .datetime d => some (.datetime d)
  | .array vs => (ofItems? vs).map .list
  | .table es =>
    match es.head? with
    | some (k, v) =>
      if k = Toml.datetimeKey then do
        let s ← v.string?
        (Toml.Datetime.read? s.toList).map .datetime
      else (ofEntries? [] es).map .table
    | none => some (.table [])

def ofItems? : List Toml.Value → Option (List Value)
  | [] => some []
  | v :: vs => do
    let w ← ofToml? v
    let ws ← ofItems? vs
    some (w :: ws)

def ofEntries? (done : List (String × Value)) :
    List (String × Toml.Value) → Option (List (String × Value))
  | [] => some done
  | e :: es => do ofEntries? (← ofEntry? done e) es

/-- Adds an entry in the place that the order gives it. -/
def ofEntry? (done : List (String × Value)) :
    String × Toml.Value → Option (List (String × Value))
  | (k, v) => do some (setEntry k (← ofToml? v) done)

end

/-- Characters that are structure outside quotes. -/
def structural : List Char :=
  ['\\', '(', ')', '[', ']', '{', '}', ':', '=', ',', '\'', '"', ' ', '\t', '\n']

/-- One character between single quotes. -/
def quotedChar (c : Char) : List Char := if c = '\'' then ['\\', '\''] else [c]

/-- A text between single quotes. -/
def quote (cs : List Char) : List Char := '\'' :: (cs.flatMap quotedChar ++ ['\''])

/-- A text, between quotes only if it is empty or has a structural character. -/
def bareOrQuoted (cs : List Char) : List Char :=
  if cs.isEmpty || cs.any structural.contains then quote cs else cs

/-- Floats are positional from `0.0001` to below `10 ^ 16`. -/
def floatLayout : Decimal.Layout := ⟨-3, 16, false, .up⟩

mutual

/-- A value as it is written; inside a list or table every text is quoted. -/
def chars (inside : Bool) : Value → List Char
  | .string s => if inside then quote s.toList else bareOrQuoted s.toList
  | .integer n => Decimal.Layout.integer n
  | .float x => floatLayout.render x
  | .boolean true => ['t', 'r', 'u', 'e']
  | .boolean false => ['f', 'a', 'l', 's', 'e']
  | .datetime d => bareOrQuoted d.chars
  | .list vs => '[' :: (itemsChars false vs ++ [']'])
  | .table es => '{' :: (entriesChars false es ++ ['}'])

/-- Items with commas between them, and before the first one if `follows`. -/
def itemsChars (follows : Bool) : List Value → List Char
  | [] => []
  | v :: vs => (if follows then [','] else []) ++ (v.chars true ++ itemsChars true vs)

/-- Entries with commas between them, and before the first one if `follows`. -/
def entriesChars (follows : Bool) : List (String × Value) → List Char
  | [] => []
  | e :: es => (if follows then [','] else []) ++ (entryChars e ++ entriesChars true es)

/-- A key as it is, a colon and a value. -/
def entryChars : String × Value → List Char
  | (k, v) => k.toList ++ ':' :: v.chars true

end

/-- The text of a value as the value of an override. -/
def render (v : Value) : String := String.ofList (v.chars false)

/-- The text of a value inside a list or table. -/
def renderItem (v : Value) : String := String.ofList (v.chars true)

end Value

/-- The argument that sets a key. -/
def override (key : String) (v : Value) : String := key ++ "=" ++ v.render

end TaskCorpus.Launch
