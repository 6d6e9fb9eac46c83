import TaskCorpus.Json.Failure
import TaskCorpus.Path
import TaskCorpus.Split
import TaskCorpus.Store.Fault
import TaskCorpus.Tool.Catalog

/-!
# Errors

What can go wrong between a task file and a stored corpus, as causes. `Error.message` is the one
place for their wording; `Error.cause?` is the text of the cause inside an error, if it is an
error of its own.
-/

namespace TaskCorpus

/-- Why a task cannot be used. -/
inductive TaskFlaw where
  | noUser
  | noInstruction
  | noActions
  | action (position : Nat) (flaw : ActionFlaw)
  deriving DecidableEq

/-- Why a stored record cannot be used. -/
inductive RecordFlaw where
  /-- The arguments of a call are JSON, but not an object. -/
  | notObject (call : String) (arguments : Json.Value)
  /-- A column is missing or has another type. -/
  | column (name : String)
  deriving DecidableEq

/-- Why a configuration cannot be used. -/
inductive SettingFlaw where
  | unknownSplit (name : String)
  | noSplits
  | repeatedSplit (split : Split)
  | repeatedId (id : String) (path : Path)
  | rangeAndIds (split : Split)
  | rangeOutside (split : Split) (start stop total : Nat) (path : Path)
  | unknownIds (split : Split) (ids : List String)
  deriving DecidableEq

inductive Error where
  | task (id : String) (flaw : TaskFlaw)
  | action (flaw : ActionFlaw)
  | emptySplit (split : Split)
  | record (flaw : RecordFlaw)
  | setting (flaw : SettingFlaw)
  | json (failure : Json.Failure)
  | file (fault : Store.Fault)
  | reading (path : Path) (fault : Store.Fault)
  | parsing (place : String) (failure : Json.Failure)
  | writing (path : Path) (fault : Store.Fault)
  /-- A table that cannot be written, or a file that is none. -/
  | table
  /-- A batch of rows that cannot be read. -/
  | batch
  | toml
  deriving DecidableEq

def Tool.Expectation.message : Tool.Expectation → String
  | .kind name => name
  | .oneOf values => "one of " ++ Text.quotedList values

def ActionFlaw.message : ActionFlaw → String
  | .unknown action => "Unknown action: " ++ action
  | .forbidden action => "Action `" ++ action ++ "` is not a permitted ground-truth action"
  | .missingArgument action argument =>
    "Action `" ++ action ++ "` is missing argument `" ++ argument ++ "`"
  | .wrongArgument action argument fault =>
    "Action `" ++ action ++ "` argument `" ++ argument ++ "`: expected " ++
      fault.expected.message ++ ", got " ++ fault.actual

def TaskFlaw.message : TaskFlaw → String
  | .noUser => "empty user_id"
  | .noInstruction => "empty instruction"
  | .noActions => "no expected actions"
  | .action position flaw => "action " ++ toString position ++ ": " ++ flaw.message

def RecordFlaw.message : RecordFlaw → String
  | .notObject call arguments =>
    "kwargs of `" ++ call ++ "` is not a JSON object: " ++ arguments.compact
  | .column name => "column `" ++ name ++ "` is missing or mistyped"

def SettingFlaw.message : SettingFlaw → String
  | .unknownSplit name => "unknown split `" ++ name ++ "`"
  | .noSplits => "no splits configured"
  | .repeatedSplit split => "split `" ++ split.name ++ "` is configured more than once"
  | .repeatedId id path => "task id `" ++ id ++ "` appears more than once in " ++ path.text
  | .rangeAndIds split => "split `" ++ split.name ++ "` sets both `range` and `ids`"
  | .rangeOutside split start stop total path =>
    "split `" ++ split.name ++ "` range [" ++ toString start ++ ", " ++ toString stop ++
      ") is outside the " ++ toString total ++ " tasks of " ++ path.text
  | .unknownIds split ids =>
    "split `" ++ split.name ++ "` selects unknown task ids: " ++ String.intercalate ", " ids

namespace Error

def message : Error → String
  | .task id flaw => "Invalid task " ++ id ++ ": " ++ flaw.message
  | .action flaw => flaw.message
  | .emptySplit split => "Split `" ++ split.name ++ "` has no tasks"
  | .record flaw => "Corrupt record: " ++ flaw.message
  | .setting flaw => "Configuration error: " ++ flaw.message
  | .json failure => "Serialization error: " ++ failure.message
  | .file fault => "IO error: " ++ fault.message
  | .reading path fault => "Failed to read " ++ path.text ++ ": " ++ fault.message
  | .parsing place failure => "Failed to parse " ++ place ++ ": " ++ failure.message
  | .writing path fault => "Failed to write " ++ path.text ++ ": " ++ fault.message
  | .table => "Parquet error"
  | .batch => "Arrow error"
  | .toml => "TOML parse error"

/-- The text of the error that an error wraps. -/
def cause? : Error → Option String
  | .json failure => some failure.message
  | .file fault => some fault.message
  | .reading _ fault => some fault.message
  | .parsing _ failure => some failure.message
  | .writing _ fault => some fault.message
  | _ => none

def ofCall : CallFlaw → Error
  | .unreadable failure => .json failure
  | .notObject name arguments => .record (.notObject name arguments)

end Error

end TaskCorpus
