import TaskCorpus.Json.Shape
import TaskCorpus.Proofs.Json.Printed

/-!
Records that are read from their fields.

`Shape.States` relates the fields of an object to the values of a record: the fields stand in the
order of the shape, and a field is left out only where its default is meant. From such an object the
record is read.
-/

namespace TaskCorpus.Json.Shape

open Value (fieldsDocuments)

def names {αs : List Type} : Shape αs → List String
  | nil => []
  | cons f rest => f.name :: rest.names

/-- The fields state the values, each in its turn or, where it is the default, by being left out. -/
inductive States : {αs : List Type} → Shape αs → List (String × Value) → Tuple αs → Prop
  | nil : States .nil [] ()
  | given {α : Type} {αs : List Type} {f : Field α} {rest : Shape αs} {v : Value}
      {fs : List (String × Value)} {a : α} {as : Tuple αs} (read : f.read v.document = .ok a)
      (later : States rest fs as) : States (.cons f rest) ((f.name, v) :: fs) (a, as)
  | absent {α : Type} {αs : List Type} {f : Field α} {rest : Shape αs} {fs : List (String × Value)}
      {a : α} {as : Tuple αs} (default : f.absent = some a) (later : States rest fs as) :
      States (.cons f rest) fs (a, as)

variable {α : Type} {αs : List Type} {shape : Shape αs} {fs : List (String × Value)} {as : Tuple αs}

lemma States.required {name : String} {read : Document → Except Failure α} {v : Value} {a : α}
    (hread : read v.document = .ok a) (later : shape.States fs as) :
    (cons (.required name read) shape).States ((name, v) :: fs) (a, as) := .given hread later

lemma States.defaulted {name : String} {value : α} {read : Document → Except Failure α} {v : Value}
    {a : α} (hread : read v.document = .ok a) (later : shape.States fs as) :
    (cons (.defaulted name value read) shape).States ((name, v) :: fs) (a, as) := .given hread later

lemma States.append {f : Field α} {a : α} {fields : List (String × Value)}
    (h : (cons f .nil).States fields (a, ())) (later : shape.States fs as) :
    (cons f shape).States (fields ++ fs) (a, as) := by
  cases h with
  | given read hnil =>
    cases hnil
    exact .given read later
  | absent default hnil =>
    cases hnil
    exact .absent default later

lemma States.name_mem (h : shape.States fs as) {e : String × Value} (he : e ∈ fs) :
    e.1 ∈ shape.names := by
  induction h with
  | nil => cases he
  | given read later ih =>
    rcases List.mem_cons.1 he with rfl | he
    · exact List.mem_cons_self
    · exact List.mem_cons_of_mem _ (ih he)
  | absent default later ih => exact List.mem_cons_of_mem _ (ih he)

lemma fromFields_of_offer {k : String} {v : Value} {s s' : Slots αs}
    (h : shape.offer k v.document s = .ok s') :
    shape.fromFields s (fieldsDocuments ((k, v) :: fs)) none =
      shape.fromFields s' (fieldsDocuments fs) none := by
  rw [fieldsDocuments, fromFields, h]
  rfl

/-- Fields of other names pass by the first field of a shape, which keeps the value that it has or
gets its default at the end. -/
lemma fromFields_cons {f : Field α} {slot : Option α} {slots : Slots αs} {a : α}
    (hnames : ∀ e ∈ fs, f.name ≠ e.1) (hslot : slot = some a ∨ slot = none ∧ f.absent = some a)
    (h : shape.fromFields slots (fieldsDocuments fs) none = .ok as) :
    (cons f shape).fromFields (slot, slots) (fieldsDocuments fs) none = .ok (a, as) := by
  induction fs generalizing slots with
  | nil =>
    have hfill : shape.fill slots = .ok as := h
    rcases hslot with rfl | ⟨rfl, habsent⟩
    · simp [fieldsDocuments, fromFields, fill, hfill, bind, Except.bind, pure, Except.pure]
    · simp [fieldsDocuments, fromFields, fill, hfill, habsent, bind, Except.bind, pure, Except.pure]
  | cons e fs ih =>
    obtain ⟨k, v⟩ := e
    obtain ⟨hk, hnames⟩ := List.forall_mem_cons.1 hnames
    obtain ⟨slots', hoffer, h⟩ := bind_eq_ok h
    have hpass : (cons f shape).offer k v.document (slot, slots) = .ok (slot, slots') := by
      simp [offer, if_neg hk, hoffer, bind, Except.bind, pure, Except.pure]
    exact (fromFields_of_offer hpass).trans (ih hnames h)

lemma States.fromFields (h : shape.States fs as) (hnames : shape.names.Nodup) :
    shape.fromFields shape.blank (fieldsDocuments fs) none = .ok as := by
  induction h with
  | nil => rfl
  | @given α αs f rest v fs a as read later ih =>
    obtain ⟨hf, hrest⟩ := List.nodup_cons.1 hnames
    have hother : ∀ e ∈ fs, f.name ≠ e.1 := fun e he heq => hf (heq ▸ later.name_mem he)
    have hoffer : (cons f rest).offer f.name v.document (cons f rest).blank =
        .ok (some a, rest.blank) := by
      simp [offer, blank, read, bind, Except.bind, pure, Except.pure]
    exact (fromFields_of_offer hoffer).trans (fromFields_cons hother (.inl rfl) (ih hrest))
  | @absent α αs f rest fs a as default later ih =>
    obtain ⟨hf, hrest⟩ := List.nodup_cons.1 hnames
    have hother : ∀ e ∈ fs, f.name ≠ e.1 := fun e he heq => hf (heq ▸ later.name_mem he)
    exact fromFields_cons hother (.inr ⟨rfl, default⟩) (ih hrest)

/-- **Records**: an object whose fields state the values of a record is read as that record. -/
theorem inner_document (name : String) (hnames : shape.names.Nodup) (h : shape.States fs as) :
    shape.inner name (Value.object fs).document = .ok as := h.fromFields hnames

lemma reader_document {shape : Nat → Shape αs} (name : String) {n : Nat}
    (hnames : (shape n).names.Nodup) (h : (shape n).States fs as) :
    Shape.reader shape name (n + 1) (Value.object fs).document = .ok as :=
  inner_document name hnames h

end TaskCorpus.Json.Shape
