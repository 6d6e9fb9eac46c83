import TaskCorpus.Proofs.Json.Records
import TaskCorpus.TaskFile

/-!
Tasks that have been loaded.

The arguments of their actions are values that have been read from JSON, so without binary64
numbers they are read again from the text of a call. Where a task has been decoded from a text,
they leave room for the three levels that stand around them in a task.
-/

namespace TaskCorpus

open Json (Document Reader Value)

namespace Action

/-- The arguments stand in order, with integers of 64 bits, and are nested at most 127 levels. -/
def Loaded (a : Action) : Prop := (Value.object a.arguments).Delivered Json.levels

/-- No argument holds a binary64 number. -/
def Integral (a : Action) : Prop := (Value.object a.arguments).Integral

lemma delivered_of_reader {n m : Nat} {d : Document} {a : Action} (hn : n ≤ m + 2) (hd : d.Sized)
    (h : reader n d = .ok a) : (Value.object a.arguments).Delivered (m + 1) := by
  obtain ⟨⟨name, arguments, ⟨⟩⟩, ht, h⟩ := Json.bind_eq_ok h
  cases h
  obtain ⟨k, hk, -, hy, -⟩ := Json.Shape.reader_yields hd ht
  have hnone : (Value.object []).Delivered (m + 1) :=
    Json.delivered_object List.Pairwise.nil (by simp)
  rcases hy with ⟨d, hd, hread⟩ | h | h
  · exact (Json.map_value_delivers hd hread).mono (by omega)
  · cases h
    exact hnone
  · cases h
    exact hnone

/-- The call of a loaded action without binary64 numbers gives the action back. -/
theorem toAction_toCall {a : Action} (h : a.Loaded) (hi : a.Integral) :
    a.toCall.toAction = .ok a := by
  have hread := Json.readText_compact (h.2 hi) h.1
  simp only [toCall, Call.toAction, hread]

end Action

namespace Task

/-- All actions have been read from JSON. -/
def Loaded (t : Task) : Prop := ∀ a ∈ t.actions, a.Loaded

lemma delivered_of_reader {n m : Nat} {d : Document} {t : Task} (hn : n ≤ m + 4) (hd : d.Sized)
    (h : reader n d = .ok t) {a : Action} (ha : a ∈ t.actions) :
    (Value.object a.arguments).Delivered (m + 1) := by
  obtain ⟨⟨id, userId, instruction, actions, outputs, ⟨⟩⟩, ht, h⟩ := Json.bind_eq_ok h
  cases h
  obtain ⟨k, hk, -, -, -, hy, -⟩ := Json.Shape.reader_yields hd ht
  rcases hy with ⟨d, hd, hread⟩ | h | h
  · obtain ⟨l, hl, d', hd', hread⟩ := Json.list_delivers hd hread ha
    exact Action.delivered_of_reader (by omega) hd' hread
  · cases h
  · cases h

/-- The task has been decoded from a text, alone or as an item of a list. -/
def Decoded (t : Task) : Prop :=
  ∃ text, Json.readText reader text = .ok t ∨
    ∃ ts, Json.readText (Reader.list reader) text = .ok ts ∧ t ∈ ts

variable {t : Task}

/-- The arguments stand in a task, which takes three of the levels of its text. -/
lemma Decoded.delivered (h : t.Decoded) {a : Action} (ha : a ∈ t.actions) :
    (Value.object a.arguments).Delivered 124 := by
  obtain ⟨text, h | ⟨ts, h, ht⟩⟩ := h
  · obtain ⟨d, -, hd, hread⟩ := Json.readText_eq_ok h
    exact delivered_of_reader (m := 123) (Nat.le_refl _) hd hread ha
  · obtain ⟨d, -, hd, hread⟩ := Json.readText_eq_ok h
    obtain ⟨n, hn, d', hd', hread⟩ := Json.list_delivers hd hread ht
    exact delivered_of_reader (m := 123) (Nat.le_of_lt hn) hd' hread ha

lemma Decoded.loaded (h : t.Decoded) : t.Loaded :=
  fun _ ha => (h.delivered ha).mono (by decide)

end Task

namespace TaskFile

lemma decoded_of_tasksOf {p : Path} {number : Nat} {lines : List String} {ts : List Task}
    (h : tasksOf p number lines = .ok ts) : ∀ t ∈ ts, t.Decoded := by
  induction lines generalizing number ts with
  | nil => cases h; simp
  | cons line rest ih =>
    unfold tasksOf at h
    split at h
    · exact ih h
    · split at h
      · cases h
      · rename_i t ht
        obtain ⟨ts', hts, h⟩ := Json.bind_eq_ok h
        cases h
        exact List.forall_mem_cons.2 ⟨⟨line, .inl ht⟩, ih hts⟩

theorem decoded_of_parse {p : Path} {text : String} {ts : List Task} (h : parse p text = .ok ts) :
    ∀ t ∈ ts, t.Decoded := by
  unfold parse at h
  split at h
  · exact decoded_of_tasksOf h
  · split at h
    · cases h
    · rename_i ts' hts
      cases h
      exact fun t ht => ⟨text, .inr ⟨_, hts, ht⟩⟩

theorem loaded_of_parse {p : Path} {text : String} {ts : List Task} (h : parse p text = .ok ts) :
    ∀ t ∈ ts, t.Loaded := fun t ht => (decoded_of_parse h t ht).loaded

end TaskFile

end TaskCorpus
