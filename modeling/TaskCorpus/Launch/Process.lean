import TaskCorpus.Launch.Plan
import TaskCorpus.Store.Fault

/-!
# Processes

What becomes of a launched program: it may not start, it may be ended by a signal, or it ends with
a status, of which only zero is a success.
-/

namespace TaskCorpus.Launch

inductive Ending where
  | status (code : Nat)
  | signal (number : Nat)
  deriving DecidableEq

/-- Why a program could not be started. -/
inductive Hindrance where
  | fault (f : Store.Fault)
  /-- The name, an argument or the environment has a null character. -/
  | nullCharacter
  /-- An argument or a variable of the environment is too long. -/
  | tooLong
  deriving DecidableEq

def Hindrance.message : Hindrance → String
  | .fault f => f.message
  | .nullCharacter => "nul byte found in provided data"
  | .tooLong => "Argument list too long (os error 7)"

inductive Outcome where
  | notStarted (h : Hindrance)
  /-- The program wrote `output` and `errors` and came to an end. -/
  | ended (output errors : String) (ending : Ending)
  deriving DecidableEq

/-- The names of the signals, from the first one on. -/
def signalNames : List String := [
  "SIGHUP", "SIGINT", "SIGQUIT", "SIGILL", "SIGTRAP", "SIGABRT", "SIGBUS", "SIGFPE", "SIGKILL",
  "SIGUSR1", "SIGSEGV", "SIGUSR2", "SIGPIPE", "SIGALRM", "SIGTERM", "SIGSTKFLT", "SIGCHLD",
  "SIGCONT", "SIGSTOP", "SIGTSTP", "SIGTTIN", "SIGTTOU", "SIGURG", "SIGXCPU", "SIGXFSZ",
  "SIGVTALRM", "SIGPROF", "SIGWINCH", "SIGIO", "SIGPWR", "SIGSYS"]

/-- The name of a signal in parentheses, if it has one. -/
def signalName (number : Nat) : String :=
  match signalNames[number - 1]? with
  | some name => if number = 0 then "" else " (" ++ name ++ ")"
  | none => ""

def Ending.message : Ending → String
  | .status code => "exit status: " ++ toString code
  | .signal number => "signal: " ++ toString number ++ signalName number

/-- Why a launch does not succeed. -/
inductive Flaw where
  | noProgram
  | missingInputs (paths : List Path)
  | notStarted (program : String) (hindrance : Hindrance)
  | failed (ending : Ending)
  deriving DecidableEq

namespace Flaw

def message : Flaw → String
  | .noProgram => "launch program is empty"
  | .missingInputs paths =>
    "Trainer inputs not found: " ++ String.intercalate ", " (paths.map (·.text)) ++
      ". Run `retailctl preprocess` and `retailctl tool-config` first"
  | .notStarted program _ => "Failed to start trainer `" ++ program ++ "`"
  | .failed ending => "Trainer exited with " ++ ending.message

/-- The text of the error behind a flaw. -/
def cause? : Flaw → Option String
  | .notStarted _ hindrance => some hindrance.message
  | _ => none

end Flaw

/-- Why a launch with an outcome failed, if it did. -/
def Outcome.flaw? (program : String) : Outcome → Option Flaw
  | .notStarted hindrance => some (.notStarted program hindrance)
  | .ended _ _ (.status 0) => none
  | .ended _ _ ending => some (.failed ending)

def Outcome.output : Outcome → String
  | .notStarted _ => ""
  | .ended output _ _ => output

def Outcome.errors : Outcome → String
  | .notStarted _ => ""
  | .ended _ errors _ => errors

end TaskCorpus.Launch
