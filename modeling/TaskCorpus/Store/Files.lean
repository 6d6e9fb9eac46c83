import TaskCorpus.Error
import TaskCorpus.Store.Script

/-!
# Scripts for whole files

Scripts that read, write and copy files, with faults turned into errors that name the file.
-/

namespace TaskCorpus

/-- A script that may end in an error. -/
abbrev Program := ExceptT Error Store.Script

/-- The program without operations that has the given end. -/
def Program.ofExcept {α : Type} (r : Except Error α) : Program α := ExceptT.mk (pure r)

namespace Store

/-- Runs a script, with an error for its fault. -/
def attempt {α : Type} (error : Fault → Error) (s : Script (Except Fault α)) : Program α :=
  ExceptT.mk do
    match ← s with
    | .ok a => pure (.ok a)
    | .error f => pure (.error (error f))

/-- A path, its parent, and so on to the first path without one. The first argument bounds their
number. -/
def ancestors : Nat → Path → List Path
  | 0, _ => []
  | n + 1, p =>
    p :: match p.parent? with
      | some q => ancestors n q
      | none => []

/-- Makes the first directory of a list of paths, after the ones that follow it if it needs them.
A directory that is there already will do. -/
def makeFirst : List Path → Script (Except Fault Unit)
  | [] => pure (.error .notFound)
  | p :: above =>
    if p.text = "" then pure (.ok ())
    else do
      match ← Script.perform (.makeDirectory p) with
      | .ok () => pure (.ok ())
      | .error .notFound =>
        match ← makeFirst above with
        | .error f => pure (.error f)
        | .ok () =>
          match ← Script.perform (.makeDirectory p) with
          | .ok () => pure (.ok ())
          | .error f => settle p f
      | .error f => settle p f
where
  /-- A fault counts only if there is no directory. -/
  settle (p : Path) (f : Fault) : Script (Except Fault Unit) := do
    if (← Script.perform (.look p)) = some .directory then pure (.ok ()) else pure (.error f)

/-- Makes a directory with its ancestors. -/
def makeDirectories (p : Path) : Script (Except Fault Unit) :=
  makeFirst (ancestors (p.text.length + 1) p)

/-- Reads a file that has to be text. -/
def readText (p : Path) : Program String := do
  let bytes ← attempt (.reading p) (Script.perform (.read p))
  match String.fromUTF8? bytes with
  | some s => pure s
  | none => throw (.reading p .notText)

/-- Puts bytes at a path all at once: what was there stays until the new file is complete. Until
then the new file has a temporary name. `unwritten` is the error if the bytes cannot be written. -/
def replaceFile (temporaryName : String) (unwritten : Fault → Error) (p : Path)
    (bytes : ByteArray) : Program Unit := ExceptT.mk do
  match ← Script.perform (.stage p.directory temporaryName) with
  | .error f => pure (.error (.writing p f))
  | .ok () =>
    match ← Script.perform (.write bytes) with
    | .error f => giveUp (unwritten f)
    | .ok () =>
      match ← Script.perform (.commit p) with
      | .error f => giveUp (.writing p f)
      | .ok () => pure (.ok ())
where
  /-- Drops the temporary file. -/
  giveUp (error : Error) : Script (Except Error Unit) := do
    Script.perform .discard
    pure (.error error)

/-- Writes bytes over a file, or into a new one. -/
def writeFile (p : Path) (bytes : ByteArray) : Script (Except Fault Unit) := do
  match ← Script.perform (.truncate p) with
  | .error f => pure (.error f)
  | .ok () => Script.perform (.fill p bytes)

/-- Copies a file: finds it, empties the target, and then writes what the file holds. -/
def copyFile (source target : Path) : Script (Except Fault Unit) := do
  match ← Script.perform (.read source) with
  | .error f => pure (.error f)
  | .ok _ =>
    match ← Script.perform (.truncate target) with
    | .error f => pure (.error f)
    | .ok () =>
      match ← Script.perform (.read source) with
      | .error f => pure (.error f)
      | .ok bytes => Script.perform (.fill target bytes)

end Store

end TaskCorpus
