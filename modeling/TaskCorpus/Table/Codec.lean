import TaskCorpus.Table.Layout

/-!
# Codecs

Tables are kept in files of a columnar format. `Codec` is what a library for such a format does:
it writes a table, and it reads a file batch by batch.
-/

namespace TaskCorpus.Table

structure Codec where
  /-- The bytes of a table. That a writer gives up is not told here: it is a fault of writing. -/
  write : Columns → ByteArray
  /-- The batches of rows of a file, unless it is not of the format. A batch may turn out to be
  broken when its turn comes. -/
  batches? : ByteArray → Option (List (Option Columns))

/-- Reads batch after batch onto the records so far, up to the first that cannot be read. -/
def readBatches (rs : List Record) : List (Option Columns) → Except Error (List Record)
  | [] => .ok rs
  | none :: _ => .error .batch
  | some columns :: batches => do
    let more ← toRecords columns
    readBatches (rs ++ more) batches

namespace Codec

/-- The bytes of records. -/
def writeRecords (codec : Codec) (rs : List Record) : ByteArray := codec.write (ofRecords rs)

/-- The records in the bytes of a file. -/
def readRecords (codec : Codec) (bytes : ByteArray) : Except Error (List Record) :=
  match codec.batches? bytes with
  | none => .error .table
  | some batches => readBatches [] batches

end Codec

end TaskCorpus.Table
