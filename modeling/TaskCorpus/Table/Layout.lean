import TaskCorpus.Record
import TaskCorpus.Table.Column

/-!
# Records in columns

`ofRecords` lays records out in columns, `toRecords` reads them back. A reader finds columns by
name, so their order and further columns do not matter. It first checks all columns, and what the
items of a list are made of only if there is a row.
-/

namespace TaskCorpus.Table

/-! ### Writing -/

/-- One group for each item. -/
def messageItems (ms : List Message) : Column :=
  .group ms.length [("role", .text (ms.map (·.role))), ("content", .text (ms.map (·.content)))]

def callItems (cs : List Call) : Column :=
  .group cs.length [("name", .text (cs.map (·.name))), ("kwargs", .text (cs.map (·.arguments)))]

def scoringColumn (ss : List Scoring) : Column :=
  .group ss.length [
    ("style", .text (ss.map (·.style))),
    ("ground_truth",
      .list (ss.map fun s => s.groundTruth.length) (callItems (ss.flatMap (·.groundTruth))))]

def extraColumn (es : List Extra) : Column :=
  .group es.length [
    ("split", .text (es.map fun e => e.split.name)),
    ("index", .count (es.map (·.index))),
    ("task_id", .text (es.map (·.taskId))),
    ("user_id", .text (es.map (·.userId))),
    ("question", .text (es.map (·.question))),
    ("need_tools_kwargs", .flag (es.map (·.needsTools))),
    ("tools_kwargs", .text (es.map (·.toolArguments))),
    ("interaction_kwargs", .text (es.map (·.interactionArguments)))]

/-- The table of records, one row for each. -/
def ofRecords (rs : List Record) : Columns := [
  ("data_source", .text (rs.map (·.dataSource))),
  ("agent_name", .text (rs.map (·.agentName))),
  ("prompt", .list (rs.map fun r => r.prompt.length) (messageItems (rs.flatMap (·.prompt)))),
  ("ability", .text (rs.map (·.ability))),
  ("reward_model", scoringColumn (rs.map (·.scoring))),
  ("extra_info", extraColumn (rs.map (·.extra)))]

/-! ### Reading -/

/-- Finds a column that `take?` accepts. `place` names the column inside the table. -/
def column {α : Type} (take? : Column → Option α) (columns : Columns) (name place : String) :
    Except RecordFlaw α :=
  match findEntry name columns with
  | none => .error (.column name)
  | some c =>
    match take? c with
    | some a => .ok a
    | none => .error (.column place)

def texts? : Column → Option (List String)
  | .text values => some values
  | _ => none

def counts? : Column → Option (List Nat)
  | .count values => some values
  | _ => none

def flags? : Column → Option (List Bool)
  | .flag values => some values
  | _ => none

def fields? : Column → Option Columns
  | .group _ fields => some fields
  | _ => none

def lists? : Column → Option (List Nat × Column)
  | .list lengths item => some (lengths, item)
  | _ => none

/-- The fields of the items of a list column. -/
def itemFields (item : Column) (place : String) : Except RecordFlaw Columns :=
  match fields? item with
  | some fields => .ok fields
  | none => .error (.column place)

/-- The messages of each row. -/
def messageRows (lengths : List Nat) (item : Column) : Except RecordFlaw (List (List Message)) := do
  let fields ← itemFields item "prompt"
  let roles ← column texts? fields "role" "prompt.role"
  let contents ← column texts? fields "content" "prompt.content"
  pure (cut lengths (List.zipWith Message.mk roles contents))

/-- The calls of each row. -/
def callRows (lengths : List Nat) (item : Column) : Except RecordFlaw (List (List Call)) := do
  let fields ← itemFields item "ground_truth"
  let names ← column texts? fields "name" "ground_truth.name"
  let arguments ← column texts? fields "kwargs" "ground_truth.kwargs"
  pure (cut lengths (List.zipWith Call.mk names arguments))

/-- The columns of a table of records, with the right types. -/
structure Checked where
  dataSource : List String
  agentName : List String
  promptLengths : List Nat
  promptItem : Column
  ability : List String
  style : List String
  truthLengths : List Nat
  truthItem : Column
  split : List String
  index : List Nat
  taskId : List String
  userId : List String
  question : List String
  needsTools : List Bool
  toolArguments : List String
  interactionArguments : List String

/-- Checks all columns, in the order in which they are written. -/
def check (columns : Columns) : Except RecordFlaw Checked := do
  let dataSource ← column texts? columns "data_source" "data_source"
  let agentName ← column texts? columns "agent_name" "agent_name"
  let (promptLengths, promptItem) ← column lists? columns "prompt" "prompt"
  let ability ← column texts? columns "ability" "ability"
  let scoring ← column fields? columns "reward_model" "reward_model"
  let style ← column texts? scoring "style" "reward_model.style"
  let (truthLengths, truthItem) ← column lists? scoring "ground_truth" "reward_model.ground_truth"
  let extra ← column fields? columns "extra_info" "extra_info"
  let split ← column texts? extra "split" "extra_info.split"
  let index ← column counts? extra "index" "extra_info.index"
  let taskId ← column texts? extra "task_id" "extra_info.task_id"
  let userId ← column texts? extra "user_id" "extra_info.user_id"
  let question ← column texts? extra "question" "extra_info.question"
  let needsTools ← column flags? extra "need_tools_kwargs" "extra_info.need_tools_kwargs"
  let toolArguments ← column texts? extra "tools_kwargs" "extra_info.tools_kwargs"
  let interactionArguments ←
    column texts? extra "interaction_kwargs" "extra_info.interaction_kwargs"
  pure {
    dataSource, agentName, promptLengths, promptItem, ability, style, truthLengths, truthItem,
    split, index, taskId, userId, question, needsTools, toolArguments, interactionArguments }

/-- The record of a row. -/
def Checked.record (c : Checked) (messages : List (List Message)) (calls : List (List Call))
    (row : Nat) : Except SettingFlaw Record :=
  let name := c.split.getD row ""
  match Split.ofName? name with
  | none => .error (.unknownSplit name)
  | some split =>
    .ok {
      dataSource := c.dataSource.getD row ""
      agentName := c.agentName.getD row ""
      prompt := messages.getD row []
      ability := c.ability.getD row ""
      scoring := ⟨c.style.getD row "", calls.getD row []⟩
      extra := {
        split := split
        index := c.index.getD row 0
        taskId := c.taskId.getD row ""
        userId := c.userId.getD row ""
        question := c.question.getD row ""
        needsTools := c.needsTools.getD row false
        toolArguments := c.toolArguments.getD row ""
        interactionArguments := c.interactionArguments.getD row "" } }

/-- The records of the given rows, up to the first row without one. -/
def Checked.recordsOf (c : Checked) (messages : List (List Message)) (calls : List (List Call)) :
    List Nat → Except SettingFlaw (List Record)
  | [] => .ok []
  | row :: rows => do
    let r ← c.record messages calls row
    let rs ← c.recordsOf messages calls rows
    pure (r :: rs)

/-- The records of a table. -/
def toRecords (columns : Columns) : Except Error (List Record) :=
  match check columns with
  | .error flaw => .error (.record flaw)
  | .ok c =>
    if columns.rows = 0 then .ok []
    else
      match messageRows c.promptLengths c.promptItem with
      | .error flaw => .error (.record flaw)
      | .ok messages =>
        match callRows c.truthLengths c.truthItem with
        | .error flaw => .error (.record flaw)
        | .ok calls =>
          match c.recordsOf messages calls (List.range columns.rows) with
          | .error flaw => .error (.setting flaw)
          | .ok rs => .ok rs

end TaskCorpus.Table
