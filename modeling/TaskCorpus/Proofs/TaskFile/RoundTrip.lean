import TaskCorpus.Proofs.Json.Fields
import TaskCorpus.Proofs.Json.OneLine
import TaskCorpus.Proofs.TaskFile.ByLine

/-!
Tasks are loaded as they have been written.

A task leaves its id out if it has none, and its outputs if there are none, and so they are absent
when it is read. A list of tasks takes one level more around the arguments of an action than a task
on its own line.
-/

namespace TaskCorpus

open Json (Reader Value)

lemma Json.map_value_document {n : Nat} {es : List (String × Value)}
    (h : (Value.object es).Tidy n) :
    Reader.map Reader.value n (Value.object es).document = .ok es := by
  cases h with
  | object n _ hi h => exact entries_fieldsDocuments_id hi fun f hf => value_document (h f hf)

/-! ### Actions -/

namespace Action

variable {a : Action} {n : Nat}

lemma exact_toJson (h : (Value.object a.arguments).Exact) : a.toJson.Exact := .pair (.string _) h

lemma reader_document (h : (Value.object a.arguments).Tidy n) :
    reader (n + 1) a.toJson.document = .ok a := by
  have hrecord : Json.Shape.reader shape "Action" (n + 1) a.toJson.document = .ok _ :=
    Json.Shape.reader_document _ (by decide : ["name", "kwargs"].Nodup)
      (.required (Reader.text_document n a.name) (.defaulted (Json.map_value_document h) .nil))
  rw [reader, hrecord]
  rfl

end Action

/-! ### Tasks -/

namespace Task

variable {t : Task} {n : Nat}

/-- The arguments of the actions are maps, nested at most that many levels, and all numbers in them
are integers of 64 bits. -/
def Plain (n : Nat) (t : Task) : Prop :=
  ∀ a ∈ t.actions, (Value.object a.arguments).Tidy n ∧ (Value.object a.arguments).Exact

lemma Plain.mono {m : Nat} (hmn : m ≤ n) (h : t.Plain m) : t.Plain n :=
  fun a ha => ⟨(h a ha).1.mono hmn, (h a ha).2⟩

lemma exact_toJson (h : t.Plain n) : t.toJson.Exact := by
  have hactions : (Value.array (t.actions.map Action.toJson)).Exact :=
    .map fun a ha => Action.exact_toJson (h a ha).2
  have houtputs : (Value.array (t.outputs.map .string)).Exact := .map fun s _ => .string s
  refine .object _ ?_
  simp only [List.forall_mem_append, List.forall_mem_cons]
  refine ⟨⟨?_, .string _, .string _, hactions, by simp⟩, ?_⟩
  · cases t.id with
    | none => simp
    | some id => simpa using .string id
  · split
    · simp
    · simpa using houtputs

lemma states_id (n : Nat) (id : Option String) :
    (Json.Shape.cons (.defaulted "id" none (Reader.optional Reader.text n)) .nil).States
      (match id with
        | some id => [("id", .string id)]
        | none => []) (id, ()) := by
  cases id with
  | none => exact .absent rfl .nil
  | some id =>
    exact .defaulted (Reader.optional_document (by simp) (Reader.text_document n id)) .nil

lemma states_outputs (n : Nat) (outputs : List String) :
    (Json.Shape.cons (.defaulted "outputs" [] (Reader.list Reader.text (n + 1))) .nil).States
      (if outputs.isEmpty then [] else [("outputs", .array (outputs.map .string))])
      (outputs, ()) := by
  cases outputs with
  | nil => exact .absent rfl .nil
  | cons s ss => exact .defaulted (Reader.texts_document n (s :: ss)) .nil

lemma reader_document (h : t.Plain n) : reader (n + 3) t.toJson.document = .ok t := by
  have hactions : Reader.list Action.reader (n + 2)
      (Value.array (t.actions.map Action.toJson)).document = .ok t.actions :=
    Reader.list_document fun a ha => Action.reader_document (h a ha).1
  have hrecord : Json.Shape.reader shape "Task" (n + 3) t.toJson.document =
      .ok (t.id, t.userId, t.instruction, t.actions, t.outputs, ()) := by
    rw [toJson, List.append_assoc]
    exact Json.Shape.reader_document _
      (by decide : ["id", "user_id", "instruction", "actions", "outputs"].Nodup)
      ((states_id _ t.id).append (.required (Reader.text_document _ t.userId)
        (.required (Reader.text_document _ t.instruction)
          (.required hactions (states_outputs _ t.outputs)))))
  rw [reader, hrecord]
  rfl

end Task

/-! ### Files -/

namespace TaskFile

variable {p : Path} {text : String} {ts : List Task}

lemma readText_task {t : Task} (h : t.Plain 124) :
    Json.readText Task.reader t.toJson.compact = .ok t :=
  Json.readText_of_document (Task.exact_toJson h) (Task.reader_document h)

lemma not_blank_task (t : Task) : ¬ Text.Blank t.toJson.compact := by
  intro h
  have hbrace : '{' ∈ t.toJson.compact.toList := by
    simp [Value.compact, Task.toJson, Value.chars]
  exact absurd (h _ hbrace) (by decide)

lemma tasks_compact (h : ∀ t ∈ ts, t.Plain 124) :
    Tasks (ts.map fun t => t.toJson.compact) ts := by
  have hfilter : ((ts.map fun t => t.toJson.compact).filter fun line => ¬ Text.Blank line) =
      ts.map fun t => t.toJson.compact := by
    rw [List.filter_eq_self, List.forall_mem_map]
    exact fun t _ => decide_eq_true (not_blank_task t)
  rw [Tasks, hfilter, List.forall₂_map_left_iff, List.forall₂_same]
  exact fun t ht => readText_task (h t ht)

lemma parse_lines (hp : p.extension? = some "jsonl") (h : ∀ t ∈ ts, t.Plain 124)
    (htext : Text.Listing (ts.map fun t => t.toJson.compact) text) : parse p text = .ok ts := by
  have hlines : Text.Lines text (ts.map fun t => t.toJson.compact) := by
    refine Text.lines_of_listing htext ?_ ?_ ?_ <;> rw [List.forall_mem_map] <;> intro t ht
    · intro hempty
      refine not_blank_task t ?_
      rw [hempty]
      decide
    · exact Value.notMem_compact (Task.exact_toJson (h t ht)) (by decide)
    · exact Value.notMem_compact (Task.exact_toJson (h t ht)) (by decide)
  exact (parse_eq_ok_iff hp hlines).2 (tasks_compact h)

lemma parse_list (hp : p.extension? ≠ some "jsonl") (h : ∀ t ∈ ts, t.Plain 123) :
    parse p (Value.array (ts.map Task.toJson)).compact = .ok ts := by
  have hexact : (Value.array (ts.map Task.toJson)).Exact :=
    .map fun t ht => Task.exact_toJson (h t ht)
  have hread : Json.readText (Reader.list Task.reader)
      (Value.array (ts.map Task.toJson)).compact = .ok ts :=
    Json.readText_of_document hexact
      (Reader.list_document fun t ht => Task.reader_document (h t ht))
  have hbyLine : isByLine p = false := beq_false_of_ne hp
  rw [parse, hbyLine, hread]
  rfl

/-- **Round trip**: tasks whose actions have arguments without binary64 numbers, nested at most 123
levels, are loaded as they are from a file with the list of them, and from a file by line with the
text of each of them on its own line. -/
theorem load_serialized (h : ∀ t ∈ ts, t.Plain 123) :
    (∀ (here : Location) (st : Store here) (p : Path), p.extension? ≠ some "jsonl" →
      st.read p = .ok (Value.array (ts.map Task.toJson)).compact.toUTF8 →
      (load p).run.run (.ofStore st) = (.ok ts, .ofStore st)) ∧
    ∀ (here : Location) (st : Store here) (p : Path) (text : String),
      p.extension? = some "jsonl" →
      Text.Listing (ts.map fun t => t.toJson.compact) text → st.read p = .ok text.toUTF8 →
      (load p).run.run (.ofStore st) = (.ok ts, .ofStore st) := by
  refine ⟨fun here st p hp hst => ?_, fun here st p text hp htext hst => ?_⟩
  · rw [run_load hst, parse_list hp h]
  · have hline : ∀ t ∈ ts, t.Plain 124 := fun t ht => (h t ht).mono (by decide)
    rw [run_load hst, parse_lines hp hline htext]

def bareTask : Task := ⟨none, "a\nn", "\r\n \"hi\" ", [⟨"respond", []⟩], []⟩

/-- All that a task can have, with line breaks in it, and the smallest integer. -/
def fullTask : Task :=
  ⟨some "", "\u2028", "\\n", [⟨"f\r", [("\n", .array [.null, .string "\r"]),
    ("a", .object [("", .number (.integer (-9223372036854775808)))])]⟩], ["\n", ""]⟩

lemma plain_samples : ∀ t ∈ [bareTask, fullTask], t.Plain 123 := by
  simp only [List.forall_mem_cons, Task.Plain, bareTask, fullTask]
  refine ⟨⟨⟨?_, ?_⟩, by simp⟩, ⟨⟨?_, ?_⟩, by simp⟩, by simp⟩
  · exact .object 122 _ .nil (by simp)
  · exact .object _ (by simp)
  · have hlt : "\n" < "a" := by decide
    exact .pair hlt (.array 121 _ (by simp [Value.Tidy.null, Value.Tidy.string]))
      (.single (.number 121 _))
  · exact .pair (.array _ (by simp [Value.Exact.null, Value.Exact.string]))
      (.single (.integer _ ⟨by decide, by decide⟩))

def listStore : Store ["work"] :=
  Store.empty.set ["work", "tasks.json"]
    (.file (Value.array ([bareTask, fullTask].map Task.toJson)).compact.toUTF8)

/-- The two tasks on two lines, of which the last has no end. -/
def lineStore : Store ["work"] :=
  Store.empty.set ["work", "tasks.jsonl"]
    (.file (bareTask.toJson.compact ++ "\r\n" ++ fullTask.toJson.compact).toUTF8)

theorem load_serialized_sample : (∀ t ∈ [bareTask, fullTask], t.Plain 123) ∧
    (load ⟨"tasks.json"⟩).run.run (.ofStore listStore) =
      (.ok [bareTask, fullTask], .ofStore listStore) ∧
    (load ⟨"tasks.jsonl"⟩).run.run (.ofStore lineStore) =
      (.ok [bareTask, fullTask], .ofStore lineStore) := by
  have hlist : listStore.read ⟨"tasks.json"⟩ =
      .ok (Value.array ([bareTask, fullTask].map Task.toJson)).compact.toUTF8 := rfl
  have hline : lineStore.read ⟨"tasks.jsonl"⟩ =
      .ok (bareTask.toJson.compact ++ "\r\n" ++ fullTask.toJson.compact).toUTF8 := rfl
  obtain ⟨hjson, hjsonl⟩ := load_serialized plain_samples
  exact ⟨plain_samples, hjson _ _ _ (by decide +kernel) hlist,
    hjsonl _ _ _ _ (by decide +kernel) (.returnFeed _ (.last _)) hline⟩

end TaskFile

end TaskCorpus
