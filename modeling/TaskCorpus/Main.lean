import TaskCorpus.CommandLine.Run

/-!
# The program

Carries out the script of a command line on the files of the machine, starts what is to be started,
prints the report, and ends with its exit code. The format of record files and the way to start a
process belong to the machine too.
-/

namespace TaskCorpus.Main

def faultOf : IO.Error → Store.Fault
  | .alreadyExists .. => .alreadyExists
  | .resourceBusy .. => .busy
  | .permissionDenied .. => .permissionDenied
  | .inappropriateType _ code _ => if code = 21 then .isDirectory else .notDirectory
  | .invalidArgument _ code _ => if code = 36 then .nameTooLong else .nullCharacter
  | _ => .notFound

/-- Does something to a file, and says what was wrong if that fails. -/
def attempt {α : Type} (act : IO α) : IO (Except Store.Fault α) := do
  try
    return .ok (← act)
  catch e => return .error (faultOf e)

/-- A directory can be opened but not read. -/
def look (p : Path) : IO (Option Store.Kind) := do
  match ← attempt do (← IO.FS.Handle.mk p.text .read).read 1 with
  | .ok _ => return some .file
  | .error .isDirectory => return some .directory
  | .error _ => return none

/-- Carries out an operation. The reference holds the path of the temporary file. -/
def perform (temporary : IO.Ref Path) : (op : Store.Operation) → IO op.Result
  | .look p => look p
  | .read p => attempt do (← IO.FS.Handle.mk p.text .read).readBinToEnd
  | .makeDirectory p => attempt (IO.FS.createDir p.text)
  | .remove p => attempt (IO.FS.removeFile p.text)
  | .truncate p => attempt do discard (IO.FS.Handle.mk p.text .write)
  | .fill p bytes => attempt (IO.FS.writeBinFile p.text bytes)
  | .stage dir name => attempt do
    let p := dir.join ⟨name⟩
    discard (IO.FS.Handle.mk p.text .write)
    temporary.set p
  | .write bytes => attempt do IO.FS.writeBinFile (← temporary.get).text bytes
  | .commit p => attempt do IO.FS.rename (← temporary.get).text p.text
  | .discard => do discard (attempt do IO.FS.removeFile (← temporary.get).text)

/-- Carries out a script. -/
def carryOut {α : Type} (temporary : IO.Ref Path) : Store.Script α → IO α
  | .done a => return a
  | .step op next => do carryOut temporary (next (← perform temporary op))

/-- Runs a command line. -/
def run (codec : Table.Codec) (start : Launch.Plan → IO Launch.Outcome) (arguments : List String) :
    IO UInt32 := do
  let home : Path := ⟨(← IO.getEnv "HOME").getD "~"⟩
  let temporary ← IO.mkRef (⟨""⟩ : Path)
  let report ← carryOut temporary (CommandLine.run codec home arguments)
  let report ← report.started start
  (← IO.getStdout).putStr report.output
  match report.errorText? with
  | some text => (← IO.getStderr).putStrLn text
  | none => (← IO.getStderr).putStr report.errors
  return report.exitCode.toUInt32

end TaskCorpus.Main
