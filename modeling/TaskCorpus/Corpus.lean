import TaskCorpus.Manifest
import TaskCorpus.Settings
import TaskCorpus.Table.Codec
import TaskCorpus.TaskFile

/-!
# Making a corpus

A run loads, selects and checks the tasks of every split before it writes anything. Then it
removes the manifest of an earlier run, writes the split files, and last the manifest that
describes them; so there is no moment at which a manifest describes files that are not there yet.
A copy of all files may follow in another directory.
-/

namespace TaskCorpus.Corpus

/-- A split file that has been written. -/
structure SplitFile where
  split : Split
  path : Path
  records : Count
  digest : String
  deriving DecidableEq

structure Summary where
  files : List SplitFile
  manifest : Path
  /-- The first record of the first split. -/
  example? : Option Record
  mirroredTo : Option Path
  deriving DecidableEq

namespace Summary

/-- The file of a split. -/
def file? (s : Summary) (split : Split) : Option SplitFile := s.files.find? fun f => f.split = split

end Summary

/-- The name of a split file that is not complete. -/
def temporaryName : String := ".retail-rl-000000.parquet.tmp"

variable (codec : Table.Codec)

/-- Writes a table of records all at once. What stops the writer of the table is its own error. -/
def writeRecords (p : Path) (rs : List Record) : Program Unit :=
  Store.replaceFile temporaryName (fun _ => .table) p (codec.writeRecords rs)

/-- Reads a table of records. -/
def readRecords (p : Path) : Program (List Record) := do
  let bytes ← Store.attempt fault (Store.Script.perform (.read p))
  Program.ofExcept (codec.readRecords bytes)
where
  /-- A directory can be opened, but it is no table. -/
  fault : Store.Fault → Error
    | .isDirectory => .table
    | f => .reading p f

/-- Writes the file of a split into a directory. -/
def writeSplit (rs : List Record) (split : Split) (dir : Path) : Program SplitFile := do
  let p := dir.join ⟨split.fileName⟩
  writeRecords codec p rs
  let digest ← Manifest.fileDigest p
  pure ⟨split, p, .ofList rs, digest⟩

/-- Makes the file of one split from tasks. Nothing is written if a task cannot be used. -/
def buildSplit (ts : List Task) (split : Split) (ctx : Context) (dir : Path) :
    Program SplitFile := do
  let rs ← Program.ofExcept (Record.buildAll ts split ctx)
  writeSplit codec rs split dir

/-- The records of a source from the tasks of its file. -/
def recordsOf (ctx : Context) (s : Source) (ts : List Task) : Except Error (List Record) :=
  match s.select ts with
  | .error flaw => .error (.setting flaw)
  | .ok ts => Record.buildAll ts s.split ctx

/-- The records of a source. -/
def prepare (ctx : Context) (s : Source) : Program (Split × List Record) := do
  let ts ← TaskFile.load s.path
  let rs ← Program.ofExcept (recordsOf ctx s ts)
  pure (s.split, rs)

/-- The records of all sources, up to the first one that fails. -/
def prepareAll (ctx : Context) : List Source → Program (List (Split × List Record))
  | [] => pure []
  | s :: ss => do
    let p ← prepare ctx s
    let ps ← prepareAll ctx ss
    pure (p :: ps)

/-- Writes the files of all splits. -/
def writeSplits (dir : Path) : List (Split × List Record) → Program (List SplitFile)
  | [] => pure []
  | (split, rs) :: rest => do
    let f ← writeSplit codec rs split dir
    let fs ← writeSplits dir rest
    pure (f :: fs)

/-- The manifest of split files. -/
def manifestOf (dataSource : String) (files : List SplitFile) : Manifest :=
  ⟨dataSource, files.map fun f => ⟨f.split, f.split.fileName, f.records, f.digest⟩⟩

/-- Removes a file that need not be there. -/
def removeStale (p : Path) : Program Unit :=
  Store.attempt (.writing p) do
    match ← Store.Script.perform (.remove p) with
    | .error .notFound => pure (.ok ())
    | r => pure r

/-- Makes a directory with its ancestors. -/
def makeDirectories (p : Path) : Program Unit :=
  Store.attempt (.writing p) (Store.makeDirectories p)

/-- Copies files, under their names, into a directory that exists. -/
def copyAll (dir : Path) : List Path → Program Unit
  | [] => pure ()
  | p :: ps => do
    match p.fileName? with
    | none => copyAll dir ps
    | some name => do
      let target := dir.join ⟨name⟩
      Store.attempt (.writing target) (Store.copyFile p target)
      copyAll dir ps

/-- Copies files into a directory, which is made if need be. -/
def mirror (files : List Path) (dir : Path) : Program Unit := do
  makeDirectories dir
  copyAll dir files

/-- Writes prepared records, and the manifest that describes them, into a directory. -/
def writeFiles (dataSource : String) (dir : Path) (prepared : List (Split × List Record)) :
    Program (List SplitFile) := do
  let manifest := dir.join ⟨Manifest.fileName⟩
  makeDirectories dir
  removeStale manifest
  let files ← writeSplits codec dir prepared
  (manifestOf dataSource files).write manifest
  pure files

/-- Writes prepared records and their manifest, and mirrors them. -/
def write (dataSource : String) (dir : Path) (mirrorDir : Option Path)
    (prepared : List (Split × List Record)) : Program Summary := do
  let files ← writeFiles codec dataSource dir prepared
  let manifest := dir.join ⟨Manifest.fileName⟩
  match mirrorDir with
  | none => pure ()
  | some m => mirror (files.map (·.path) ++ [manifest]) m
  pure {
    files := files
    manifest := manifest
    example? := prepared.head?.bind fun p => p.2.head?
    mirroredTo := mirrorDir }

/-- Runs the settings: checks them, prepares the records of every split, and writes them. -/
def run (home : Path) (s : Settings) : Program Summary := do
  match s.check with
  | .error flaw => throw (.setting flaw)
  | .ok () => pure ()
  let prepared ← prepareAll s.context s.splits
  write codec s.dataSource (s.outputDir.expandHome home) (s.mirrorDir.map (·.expandHome home))
    prepared

end TaskCorpus.Corpus
