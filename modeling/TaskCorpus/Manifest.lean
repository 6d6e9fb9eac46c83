import TaskCorpus.Sha256
import TaskCorpus.Store.Files

/-!
# Manifests

A manifest says which split files a run wrote, how many records they hold, and their digests. It
stands in the directory of the split files.
-/

namespace TaskCorpus

/-- A number of records, which has 64 bits. -/
abbrev Count := Fin UInt64.size

/-- The number of records in a list. -/
def Count.ofList {α : Type} (as : List α) : Count := Fin.ofNat UInt64.size as.length

structure Manifest.Entry where
  split : Split
  file : String
  records : Count
  digest : String
  deriving DecidableEq

structure Manifest where
  dataSource : String
  entries : List Manifest.Entry
  deriving DecidableEq

namespace Manifest

def fileName : String := "manifest.json"

/-- The name of a manifest file that is not complete. -/
def temporaryName : String := ".tmp000000"

namespace Entry

def toJson (e : Entry) : Json.Value :=
  .object [("split", e.split.toJson), ("file", .string e.file),
    ("records", .number (.integer e.records.val)), ("sha256", .string e.digest)]

def shape (n : Nat) : Json.Shape [Split, String, Nat, String] :=
  .cons (.required "split" (Split.reader n))
    (.cons (.required "file" (Json.Reader.text n))
      (.cons (.required "records" (Json.Reader.natural "usize" n))
        (.cons (.required "sha256" (Json.Reader.text n)) .nil)))

def reader : Json.Reader Entry := fun n d => do
  let (split, file, records, digest, ()) ← Json.Shape.reader shape "ManifestEntry" n d
  pure ⟨split, file, Fin.ofNat UInt64.size records, digest⟩

end Entry

def toJson (m : Manifest) : Json.Value :=
  .object [("data_source", .string m.dataSource), ("splits", .array (m.entries.map Entry.toJson))]

def shape (n : Nat) : Json.Shape [String, List Entry] :=
  .cons (.required "data_source" (Json.Reader.text n))
    (.cons (.required "splits" (Json.Reader.list Entry.reader n)) .nil)

def reader : Json.Reader Manifest := fun n d => do
  let (dataSource, entries, ()) ← Json.Shape.reader shape "Manifest" n d
  pure ⟨dataSource, entries⟩

/-- The text of a manifest file. -/
def text (m : Manifest) : String := m.toJson.pretty ++ "\n"

/-- Puts a manifest at a path all at once. -/
def write (m : Manifest) (p : Path) : Program Unit :=
  Store.replaceFile temporaryName (.writing p) p m.text.toUTF8

/-- The manifest that a text holds. -/
def parse (text : String) : Except Error Manifest :=
  match Json.readText reader text with
  | .error e => .error (.json e)
  | .ok m => .ok m

/-- Reads a manifest file. -/
def load (p : Path) : Program Manifest := do
  let text ← Store.readText p
  Program.ofExcept (parse text)

/-- The digest of a file. -/
def fileDigest (p : Path) : Program String := do
  let bytes ← Store.attempt fault (Store.Script.perform (.read p))
  pure (Sha256.digest bytes)
where
  /-- A directory can be opened but not read. -/
  fault : Store.Fault → Error
    | .isDirectory => .file .isDirectory
    | f => .reading p f

end Manifest

end TaskCorpus
