import TaskCorpus.Store.Files
import TaskCorpus.Task

/-!
# Task files

A file whose name ends in `.jsonl` holds a task on each line, apart from blank lines; any other
file holds a JSON list of tasks.
-/

namespace TaskCorpus.TaskFile

/-- The tasks of lines with their numbers, up to the first line that holds none. -/
def tasksOf (p : Path) : Nat → List String → Except Error (List Task)
  | _, [] => .ok []
  | number, line :: rest =>
    if Text.isBlank line then tasksOf p (number + 1) rest
    else
      match Json.readText Task.reader line with
      | .error e => .error (.parsing (p.text ++ ":" ++ toString number) e)
      | .ok t => do
        let ts ← tasksOf p (number + 1) rest
        pure (t :: ts)

def isByLine (p : Path) : Bool := p.extension? == some "jsonl"

/-- The tasks that the text of a file holds. -/
def parse (p : Path) (text : String) : Except Error (List Task) :=
  if isByLine p then tasksOf p 1 (Text.lines text)
  else
    match Json.readText (Json.Reader.list Task.reader) text with
    | .error e => .error (.parsing p.text e)
    | .ok ts => .ok ts

/-- Reads a task file. -/
def load (p : Path) : Program (List Task) := do
  let text ← Store.readText p
  Program.ofExcept (parse p text)

end TaskCorpus.TaskFile
