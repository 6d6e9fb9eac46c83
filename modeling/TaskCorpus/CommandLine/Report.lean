import TaskCorpus.Configuration
import TaskCorpus.Launch.Process

/-!
# Reports

What a command says when it is over: its output, and the failure if there was one. A failure is
told with its causes, one below the other.
-/

namespace TaskCorpus.CommandLine

structure Failure where
  message : String
  /-- The causes, each of the one before. -/
  causes : List String
  /-- Whether there are further causes that are not told. -/
  more : Bool
  deriving DecidableEq

namespace Failure

/-- The further lines of a cause are indented like the first one. -/
def indented (indent : String) (cause : String) : String :=
  String.ofList (cause.toList.flatMap fun c =>
    if c = '\n' then '\n' :: indent.toList else [c])

/-- A cause with its number, right-aligned. -/
def numbered (n : Nat) (cause : String) : String :=
  let digits := toString n
  String.ofList (List.replicate (5 - digits.length) ' ') ++ digits ++ ": " ++
    indented "       " cause

def causeLines (n : Nat) : List String → List String
  | [] => []
  | c :: cs => numbered n c :: causeLines (n + 1) cs

/-- The text of a failure. Several causes are numbered. -/
def text (f : Failure) : String :=
  let lines :=
    match f.causes, f.more with
    | [], _ => []
    | [c], false => ["    " ++ indented "    " c]
    | cs, _ => causeLines 0 cs
  "Error: " ++ f.message ++
    (if lines.isEmpty then "" else "\n\nCaused by:\n" ++ String.intercalate "\n" lines)

/-- An error, and what it wraps. -/
def ofError (e : Error) : Failure := ⟨e.message, e.cause?.toList, false⟩

/-- An error behind a message that says what could not be done. -/
def behind (message : String) (e : Error) : Failure :=
  ⟨message, e.message :: e.cause?.toList, e = .table ∨ e = .batch⟩

def ofConfiguration (f : ConfigurationFlaw) : Failure := ⟨f.message, f.cause?.toList, false⟩

def ofLaunch (f : Launch.Flaw) : Failure := ⟨f.message, f.cause?.toList, false⟩

end Failure

/-- How a command ends. -/
inductive Ending where
  | success
  | failure (f : Failure)
  /-- The command line was not understood. -/
  | misuse
  /-- A program is still to be started. -/
  | start (plan : Launch.Plan)

/-- The output of a command, what a program that it started wrote to its errors, and its end. -/
structure Report where
  output : String
  errors : String
  ending : Ending

namespace Report

def success (output : String) : Report := ⟨output, "", .success⟩

def failure (f : Failure) : Report := ⟨"", "", .failure f⟩

/-- The report after the outcome of a program that was started. -/
def afterOutcome (program : String) (o : Launch.Outcome) (r : Report) : Report :=
  ⟨r.output ++ o.output, r.errors ++ o.errors,
    match o.flaw? program with
    | none => .success
    | some flaw => .failure (.ofLaunch flaw)⟩

/-- Starts the program that is still to be started, if there is one. -/
def started {m : Type → Type} [Monad m] (start : Launch.Plan → m Launch.Outcome) (r : Report) :
    m Report :=
  match r.ending with
  | .start plan => return r.afterOutcome plan.program (← start plan)
  | _ => return r

/-- Success is 0, a failure 1, and a command line that is not understood 2. -/
def exitCode (r : Report) : Nat :=
  match r.ending with
  | .misuse => 2
  | .failure _ => 1
  | _ => 0

/-- The errors with the text of the failure, if there was one. -/
def errorText? (r : Report) : Option String :=
  match r.ending with
  | .failure f => some (r.errors ++ f.text)
  | _ => none

end Report

end TaskCorpus.CommandLine
