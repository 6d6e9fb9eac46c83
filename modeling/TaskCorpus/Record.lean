import TaskCorpus.Prompt
import TaskCorpus.Tool.Retail

/-!
# Records

A record is one training example as the trainer consumes it. The expected actions stand in it
three times: as calls for scoring, inside the arguments of every tool, and inside the arguments of
the simulated customer.
-/

namespace TaskCorpus

/-- How a rollout is scored. -/
structure Scoring where
  /-- The way of scoring, `rule` in every record that is made here. -/
  style : String
  groundTruth : List Call
  deriving DecidableEq

/-- Where a record comes from and what the rollout is started with. -/
structure Extra where
  split : Split
  index : Nat
  taskId : String
  userId : String
  question : String
  /-- Whether the rollout has to create tools. -/
  needsTools : Bool
  /-- The text of a JSON object: the arguments that each tool is created with. -/
  toolArguments : String
  /-- The text of a JSON object: the arguments of the simulated customer. -/
  interactionArguments : String
  deriving DecidableEq

structure Record where
  dataSource : String
  agentName : String
  prompt : List Message
  ability : String
  scoring : Scoring
  extra : Extra
  deriving DecidableEq

/-- What all records of a corpus share. -/
structure Context where
  dataSource : String
  agentName : String
  ability : String
  interactionName : String
  prompt : Prompt
  /-- The tools that actions are checked against. -/
  catalog : Tool.Catalog
  /-- Whether only actions that change the database are accepted. -/
  strict : Bool

def Context.standard : Context where
  dataSource := "tau_retail"
  agentName := "retail_agent"
  ability := "tau_retail"
  interactionName := "tau_retail"
  prompt := .standard
  catalog := Tool.Retail.catalog
  strict := false

namespace Scoring

def toJson (s : Scoring) : Json.Value :=
  .object [("style", .string s.style), ("ground_truth", .array (s.groundTruth.map Call.toJson))]

def shape (n : Nat) : Json.Shape [String, List Call] :=
  .cons (.required "style" (Json.Reader.text n))
    (.cons (.required "ground_truth" (Json.Reader.list Call.reader n)) .nil)

def reader : Json.Reader Scoring := fun n d => do
  let (style, groundTruth, ()) ← Json.Shape.reader shape "RewardModel" n d
  pure ⟨style, groundTruth⟩

end Scoring

namespace Extra

def toJson (e : Extra) : Json.Value :=
  .object [
    ("split", e.split.toJson), ("index", .number (.integer e.index)),
    ("task_id", .string e.taskId), ("user_id", .string e.userId),
    ("question", .string e.question), ("need_tools_kwargs", .boolean e.needsTools),
    ("tools_kwargs", .string e.toolArguments),
    ("interaction_kwargs", .string e.interactionArguments)]

def shape (n : Nat) :
    Json.Shape [Split, Nat, String, String, String, Bool, String, String] :=
  .cons (.required "split" (Split.reader n))
    (.cons (.required "index" (Json.Reader.natural "u64" n))
      (.cons (.required "task_id" (Json.Reader.text n))
        (.cons (.required "user_id" (Json.Reader.text n))
          (.cons (.required "question" (Json.Reader.text n))
            (.cons (.required "need_tools_kwargs" (Json.Reader.boolean n))
              (.cons (.required "tools_kwargs" (Json.Reader.text n))
                (.cons (.required "interaction_kwargs" (Json.Reader.text n)) .nil)))))))

def reader : Json.Reader Extra := fun n d => do
  let (split, index, taskId, userId, question, needsTools, toolArguments, interactionArguments, ())
    ← Json.Shape.reader shape "ExtraInfo" n d
  pure ⟨split, index, taskId, userId, question, needsTools, toolArguments, interactionArguments⟩

end Extra

namespace Record

/-- The text that every tool is created with: the list of the expected calls. -/
def groundTruthText (calls : List Call) : String :=
  (Json.Value.array (calls.map Call.toJson)).compact

/-- The arguments that each tool of a catalog is created with. -/
def toolArguments (catalog : Tool.Catalog) (calls : List Call) : KeyMap String Json.Value :=
  let text := Json.Value.string (groundTruthText calls)
  .ofList (catalog.schemas.map fun s =>
    (s.name, .object [("create_kwargs", .object [("ground_truth", text)])]))

/-- An action with its fields in increasing order of their names. -/
def sortedAction (a : Action) : Json.Value :=
  .object [("kwargs", .object a.arguments), ("name", .string a.name)]

/-- The arguments of the simulated customer. -/
def interactionArguments (interactionName : String) (t : Task) : Json.Value :=
  .object [
    ("ground_truth", .array (t.actions.map sortedAction)), ("name", .string interactionName),
    ("query", .string t.instruction), ("user_id", .string t.userId)]

/-- The record of a task that has been found usable. -/
def build (t : Task) (split : Split) (index : Nat) (ctx : Context) : Record :=
  let calls := t.actions.map Action.toCall
  let toolArguments := toolArguments ctx.catalog calls
  { dataSource := ctx.dataSource
    agentName := ctx.agentName
    prompt := ctx.prompt.render t
    ability := ctx.ability
    scoring := ⟨"rule", calls⟩
    extra :=
      { split := split
        index := index
        taskId := t.resolvedId split index
        userId := t.userId
        question := t.instruction
        needsTools := decide (0 < toolArguments.size)
        toolArguments := (Json.Value.object toolArguments.entries).compact
        interactionArguments := (interactionArguments ctx.interactionName t).compact } }

/-- The record of a task, which is checked first. -/
def ofTask (t : Task) (split : Split) (index : Nat) (ctx : Context) : Except Error Record :=
  match t.check ctx.catalog ctx.strict with
  | .error flaw => .error (.task (t.resolvedId split index) flaw)
  | .ok () => .ok (build t split index ctx)

/-- The actions of the calls, up to the first call without one. -/
def actionsOf : List Call → Except CallFlaw (List Action)
  | [] => .ok []
  | c :: cs => do
    let a ← c.toAction
    let as ← actionsOf cs
    pure (a :: as)

/-- The expected actions. -/
def expectedActions (r : Record) : Except CallFlaw (List Action) := actionsOf r.scoring.groundTruth

/-- Records of tasks from the given index on, up to the first task that cannot be used. -/
def buildFrom (split : Split) (ctx : Context) : Nat → List Task → Except Error (List Record)
  | _, [] => .ok []
  | index, t :: ts => do
    let r ← ofTask t split index ctx
    let rs ← buildFrom split ctx (index + 1) ts
    pure (r :: rs)

/-- The records of a split, in the order of its tasks. A split must have tasks. -/
def buildAll (tasks : List Task) (split : Split) (ctx : Context) : Except Error (List Record) :=
  if tasks.isEmpty then .error (.emptySplit split) else buildFrom split ctx 0 tasks

def toJson (r : Record) : Json.Value :=
  .object [
    ("data_source", .string r.dataSource), ("agent_name", .string r.agentName),
    ("prompt", .array (r.prompt.map Message.toJson)), ("ability", .string r.ability),
    ("reward_model", r.scoring.toJson), ("extra_info", r.extra.toJson)]

def shape (n : Nat) : Json.Shape [String, String, List Message, String, Scoring, Extra] :=
  .cons (.required "data_source" (Json.Reader.text n))
    (.cons (.required "agent_name" (Json.Reader.text n))
      (.cons (.required "prompt" (Json.Reader.list Message.reader n))
        (.cons (.required "ability" (Json.Reader.text n))
          (.cons (.required "reward_model" (Scoring.reader n))
            (.cons (.required "extra_info" (Extra.reader n)) .nil)))))

def reader : Json.Reader Record := fun n d => do
  let (dataSource, agentName, prompt, ability, scoring, extra, ()) ←
    Json.Shape.reader shape "Record" n d
  pure ⟨dataSource, agentName, prompt, ability, scoring, extra⟩

end Record

end TaskCorpus
