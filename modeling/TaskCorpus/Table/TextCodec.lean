import TaskCorpus.Table.Codec

/-!
# A codec of text

Where no library for a columnar format is at hand, a table is written as UTF-8 text: a line that
says what the file is, and a JSON array of the columns. Naturals stand as the text of their
digits, since JSON numbers are bounded. Bytes that are not such a text are refused. The rows are
read in batches of a fixed number.
-/

namespace TaskCorpus.Table

namespace Column

def naturalJson (n : Nat) : Json.Value := .string (String.ofList (Decimal.digitsOf n))

mutual

def toJson : Column → Json.Value
  | .text values => .object [("text", .array (values.map .string))]
  | .count values => .object [("count", .array (values.map naturalJson))]
  | .flag values => .object [("flag", .array (values.map .boolean))]
  | .group rows fields =>
    .object [("fields", .array (fieldsJson fields)), ("group", naturalJson rows)]
  | .list lengths item =>
    .object [("item", item.toJson), ("list", .array (lengths.map naturalJson))]
  | .other rows => .object [("other", naturalJson rows)]

def fieldsJson : List (String × Column) → List Json.Value
  | [] => []
  | f :: fs => fieldJson f :: fieldsJson fs

def fieldJson : String × Column → Json.Value
  | (name, c) => .array [.string name, c.toJson]

end

def string? : Json.Value → Option String
  | .string s => some s
  | _ => none

def natural? : Json.Value → Option Nat
  | .string s =>
    let n := Nat.ofDigitChars 10 s.toList 0
    if Decimal.digitsOf n = s.toList then some n else none
  | _ => none

def boolean? : Json.Value → Option Bool
  | .boolean b => some b
  | _ => none

mutual

def ofJson? : Json.Value → Option Column
  | .object [("text", .array vs)] => (vs.mapM string?).map .text
  | .object [("count", .array vs)] => (vs.mapM natural?).map .count
  | .object [("flag", .array vs)] => (vs.mapM boolean?).map .flag
  | .object [("fields", .array fs), ("group", n)] => do
    some (.group (← natural? n) (← fieldsOf? fs))
  | .object [("item", c), ("list", .array vs)] => do
    some (.list (← vs.mapM natural?) (← ofJson? c))
  | .object [("other", n)] => (natural? n).map .other
  | _ => none

def fieldsOf? : List Json.Value → Option (List (String × Column))
  | [] => some []
  | .array [.string name, c] :: vs => do
    let c ← ofJson? c
    let fs ← fieldsOf? vs
    some ((name, c) :: fs)
  | _ :: _ => none

end

end Column

namespace TextCodec

/-- The line that files start with. -/
def heading : List Char := "task corpus table 1\n".toList

/-- The text of a table. -/
def text (columns : Columns) : List Char :=
  heading ++ (Json.Value.array (Column.fieldsJson columns)).chars

def write (columns : Columns) : ByteArray := (String.ofList (text columns)).toUTF8

/-- What follows the heading, if a text has it. -/
def body? (cs : List Char) : Option (List Char) :=
  if cs.take heading.length = heading then some (cs.drop heading.length) else none

/-- The table in the bytes of a file. -/
def table? (bytes : ByteArray) : Option Columns := do
  let text ← String.fromUTF8? bytes
  let body ← body? text.toList
  match Json.readText Json.Reader.value (String.ofList body) with
  | .ok (.array vs) => Column.fieldsOf? vs
  | _ => none

/-- The number of rows in a batch. -/
def batchRows : Nat := 1024

/-- The numbers of rows in the batches of a table. The last batch may be smaller. -/
def batchSizes (rows : Nat) : List Nat :=
  List.replicate (rows / batchRows) batchRows ++
    (if rows % batchRows = 0 then [] else [rows % batchRows])

def batches? (bytes : ByteArray) : Option (List (Option Columns)) :=
  (table? bytes).map fun columns => (columns.batches 0 (batchSizes columns.rows)).map some

end TextCodec

def Codec.text : Codec := ⟨TextCodec.write, TextCodec.batches?⟩

end TaskCorpus.Table
