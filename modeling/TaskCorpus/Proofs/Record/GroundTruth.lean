import TaskCorpus.Proofs.Json.Fields
import TaskCorpus.Proofs.Record.Built
import TaskCorpus.Proofs.Tool.Registered

/-!
The ground truth of a record, wherever it stands.

A record holds the expected actions as calls, as a text inside the arguments of every tool, and
inside the arguments of the simulated customer. `Agrees` says that all of them can be read, and
that they say the same. The arguments of an action that has been decoded within a task are nested
at most 124 levels: the three levels around them in the task are those that they stand in again
among the arguments of the customer.
-/

namespace TaskCorpus

open Json (Reader Value)

/-! ### Calls -/

namespace Call

/-- A call as it is read when nobody asks for a type. -/
def sortedJson (c : Call) : Value :=
  .object [("kwargs", .string c.arguments), ("name", .string c.name)]

lemma exact_toJson (c : Call) : c.toJson.Exact := .pair (.string _) (.string _)

lemma reader_document (n : Nat) (c : Call) : reader (n + 1) c.toJson.document = .ok c := by
  have hrecord : Json.Shape.reader shape "ActionCall" (n + 1) c.toJson.document =
      .ok (c.name, c.arguments, ()) :=
    Json.Shape.reader_document _ (by decide : ["name", "kwargs"].Nodup)
      (.required (Reader.text_document n c.name)
        (.required (Reader.text_document n c.arguments) .nil))
  rw [reader, hrecord]
  rfl

lemma value_document (n : Nat) (c : Call) :
    Reader.value (n + 1) c.toJson.document = .ok c.sortedJson := by
  have hlt : "kwargs" < "name" := by decide
  simp [toJson, Value.document, Value.fieldsDocuments, Reader.value, Reader.entries, setEntry,
    sortedJson, bind, Except.bind, Functor.map, Except.map, hlt]

end Call

namespace Record

/-! ### The arguments of the tools -/

lemma exact_calls (calls : List Call) : (Value.array (calls.map Call.toJson)).Exact :=
  .map fun c _ => c.exact_toJson

lemma value_groundTruthText (calls : List Call) :
    Json.readText Reader.value (groundTruthText calls) =
      .ok (.array (calls.map Call.sortedJson)) := by
  have hitems :
      Reader.items (Reader.value 126) (Value.itemsDocuments (calls.map Call.toJson)) none =
      .ok (calls.map Call.sortedJson) :=
    Value.items_itemsDocuments fun c _ => Call.value_document 125 c
  refine Json.readText_of_document (exact_calls calls) ?_
  simp only [Value.document, Json.levels, Reader.value, hitems]
  rfl

lemma calls_groundTruthText (calls : List Call) :
    Json.readText (Reader.list Call.reader) (groundTruthText calls) = .ok calls :=
  Json.readText_of_document (exact_calls calls)
    (Reader.list_document fun c _ => Call.reader_document 125 c)

lemma increasing_keys {ν α : Type} (m : KeyMap String ν) (f : String → α) :
    Increasing (m.keys.map fun name => (name, f name)) := by
  rw [KeyMap.keys, List.map_map]
  exact List.pairwise_map.2 m.increasing

lemma entries_toolArguments (catalog : Tool.Catalog) (calls : List Call) :
    (toolArguments catalog calls).entries = catalog.tools.keys.map fun name =>
      (name, .object [("create_kwargs",
        .object [("ground_truth", .string (groundTruthText calls))])]) := by
  have hmap : catalog.schemas.map (fun s => (s.name, Value.object [("create_kwargs",
      .object [("ground_truth", .string (groundTruthText calls))])])) =
        catalog.tools.keys.map fun name => (name, .object [("create_kwargs",
          .object [("ground_truth", .string (groundTruthText calls))])]) := by
    rw [← catalog.names_eq, List.map_map]
    rfl
  rw [toolArguments, hmap]
  exact KeyMap.entries_ofList (increasing_keys _ _)

lemma exact_toolArguments (catalog : Tool.Catalog) (calls : List Call) :
    (Value.object (toolArguments catalog calls).entries).Exact := by
  rw [entries_toolArguments]
  refine .object _ fun f hf => ?_
  obtain ⟨name, -, rfl⟩ := List.mem_map.1 hf
  exact .single (.single (.string _))

lemma tidy_toolArguments (catalog : Tool.Catalog) (calls : List Call) (n : Nat) :
    (Value.object (toolArguments catalog calls).entries).Tidy (n + 3) := by
  refine .object _ _ (toolArguments catalog calls).increasing fun f hf => ?_
  rw [entries_toolArguments] at hf
  obtain ⟨name, -, rfl⟩ := List.mem_map.1 hf
  exact .single (.single (.string _ _))

/-! ### The arguments of the customer -/

variable {t : Task} {name : String}

lemma exact_interactionArguments (h : ∀ a ∈ t.actions, (Value.object a.arguments).Exact) :
    (interactionArguments name t).Exact := by
  have hactions : (Value.array (t.actions.map sortedAction)).Exact :=
    .map fun a ha => .pair (h a ha) (.string _)
  refine .object _ ?_
  simp only [List.forall_mem_cons]
  exact ⟨hactions, .string _, .string _, .string _, by simp⟩

/-- Three levels belong to the arguments, the list of the actions and an action. -/
lemma tidy_interactionArguments {n : Nat}
    (h : ∀ a ∈ t.actions, (Value.object a.arguments).Tidy n) :
    (interactionArguments name t).Tidy (n + 3) := by
  have hactions : (Value.array (t.actions.map sortedAction)).Tidy (n + 2) :=
    .map fun a ha => .pair (by decide) (h a ha) (.string _ _)
  refine .object _ _ ?_ ?_
  · simp only [Increasing, List.pairwise_cons, List.forall_mem_cons]
    exact ⟨by decide, by decide, by decide, by simp⟩
  · simp only [List.forall_mem_cons]
    exact ⟨hactions, .string _ _, .string _ _, .string _ _, by simp⟩

/-! ### All forms of the ground truth -/

/-- All forms of the ground truth in a record of the task can be read, and say the same. -/
structure Agrees (t : Task) (ctx : Context) (r : Record) : Prop where
  /-- Every tool of the catalog, and nothing else, is created with one text, which holds the calls
  that the rollout is scored by. -/
  tools : ∃ text,
    Json.readText Reader.value r.extra.toolArguments =
      .ok (.object (ctx.catalog.tools.keys.map fun name =>
        (name, .object [("create_kwargs", .object [("ground_truth", .string text)])]))) ∧
    Json.readText Reader.value text = .ok (.array (r.scoring.groundTruth.map Call.sortedJson)) ∧
    Json.readText (Reader.list Call.reader) text = .ok r.scoring.groundTruth
  interaction : Json.readText Reader.value r.extra.interactionArguments =
    .ok (.object [
      ("ground_truth", .array (t.actions.map fun a =>
        .object [("kwargs", .object a.arguments), ("name", .string a.name)])),
      ("name", .string ctx.interactionName), ("query", .string t.instruction),
      ("user_id", .string t.userId)])
  expected : r.expectedActions = .ok t.actions
  needsTools : r.extra.needsTools = true ↔ ctx.catalog.tools.keys ≠ []

variable {split : Split} {index : Nat} {ctx : Context} {r : Record}

/-- **The ground truth agrees**: in the record of a task that has been decoded from a text and
whose arguments hold no binary64 number, the arguments of the tools, the arguments of the customer
and the calls for scoring can all be read, and hold the actions of the task. -/
theorem groundTruth_agrees (ht : t.Decoded) (hi : ∀ a ∈ t.actions, a.Integral)
    (h : ofTask t split index ctx = .ok r) : r.Agrees t ctx := by
  have hdelivered : ∀ a ∈ t.actions, (Value.object a.arguments).Delivered 124 :=
    fun _ ha => ht.delivered ha
  obtain ⟨-, rfl⟩ := ofTask_eq_ok.1 h
  constructor
  case tools =>
    -- the embedded text is read in two steps: out of the arguments, and then as a list of calls
    have hread := Json.readText_compact
      (exact_toolArguments ctx.catalog (t.actions.map Action.toCall))
      (tidy_toolArguments ctx.catalog (t.actions.map Action.toCall) 124)
    refine ⟨groundTruthText (t.actions.map Action.toCall), hread.trans ?_,
      value_groundTruthText _, calls_groundTruthText _⟩
    rw [entries_toolArguments]
  case interaction =>
    exact Json.readText_compact
      (exact_interactionArguments fun a ha => (hdelivered a ha).2 (hi a ha))
      (tidy_interactionArguments fun a ha => (hdelivered a ha).1)
  case expected => exact expectedActions_build ht.loaded hi index
  case needsTools =>
    simp [build, KeyMap.size, entries_toolArguments, List.length_pos_iff]

/-! ### A task with a text that has to be escaped -/

/-- A task as the list of its fields. The argument of its one action holds a quote, a backslash and
a line break. -/
def quotingText : String :=
  "[null,\"ann\",\"hello\",[[\"respond\",\x7b\"text\":[\"\\\"\\\\\\n\",-1]\x7d]]]"

def quotingTask : Task :=
  ⟨none, "ann", "hello",
    [⟨"respond", [("text", .array [.string "\"\\\n", .number (.integer (-1))])]⟩], []⟩

theorem groundTruth_agrees_sample :
    quotingTask.Decoded ∧ (∀ a ∈ quotingTask.actions, a.Integral) ∧
    ofTask quotingTask .train 0 .standard = .ok (build quotingTask .train 0 .standard) ∧
    (build quotingTask .train 0 .standard).Agrees quotingTask .standard := by
  have hread : Json.readText Task.reader quotingText = .ok quotingTask := by decide +kernel
  have hdecoded : quotingTask.Decoded := ⟨quotingText, .inl hread⟩
  have hi : ∀ a ∈ quotingTask.actions, a.Integral := by
    simp only [quotingTask, List.forall_mem_singleton]
    refine .object _ ?_
    rw [List.forall_mem_singleton]
    refine .array _ ?_
    simp only [List.forall_mem_cons]
    exact ⟨.string _, .integer _, by simp⟩
  have hcheck : quotingTask.check Tool.Retail.catalog false = .ok () := by decide +kernel
  have hok : ofTask quotingTask .train 0 .standard = .ok (build quotingTask .train 0 .standard) :=
    ofTask_eq_ok.2 ⟨hcheck, rfl⟩
  exact ⟨hdecoded, hi, hok, groundTruth_agrees hdecoded hi hok⟩

end Record

end TaskCorpus
