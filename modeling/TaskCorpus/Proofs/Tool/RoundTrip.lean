import TaskCorpus.Proofs.Json.Delivered
import TaskCorpus.Proofs.Json.Fields
import TaskCorpus.Proofs.Tool.Conformance

/-!
Schemas are read back from their text.

A parameter leaves out what it does not say, and a field that is left out means just that, so
nothing is lost at any level of the parameters that stand for elements. `Value.Shallow` counts the
levels of a text: a reader enters no more of them than it may.
-/

namespace TaskCorpus

open Json (Reader Value)

/-! ### Levels -/

namespace Json.Value

inductive Shallow : Nat → Value → Prop
  | null (n : Nat) : Shallow n .null
  | boolean (n : Nat) (b : Bool) : Shallow n (.boolean b)
  | number (n : Nat) (x : Number) : Shallow n (.number x)
  | string (n : Nat) (s : String) : Shallow n (.string s)
  | array (n : Nat) (items : List Value) (h : ∀ v ∈ items, Shallow n v) :
      Shallow (n + 1) (.array items)
  | object (n : Nat) (fields : List (String × Value)) (h : ∀ f ∈ fields, Shallow n f.2) :
      Shallow (n + 1) (.object fields)

variable {n : Nat}

lemma Shallow.exists_items {items : List Value} (h : (Value.array items).Shallow n) :
    ∃ m, n = m + 1 ∧ ∀ v ∈ items, v.Shallow m := by
  cases h with
  | array m _ h => exact ⟨m, rfl, h⟩

lemma Shallow.exists_fields {fields : List (String × Value)} (h : (Value.object fields).Shallow n) :
    ∃ m, n = m + 1 ∧ ∀ f ∈ fields, f.2.Shallow m := by
  cases h with
  | object m _ h => exact ⟨m, rfl, h⟩

@[simp] lemma shallow_string (s : String) : (Value.string s).Shallow n := .string n s

@[simp] lemma shallow_array {items : List Value} :
    (Value.array items).Shallow (n + 1) ↔ ∀ v ∈ items, v.Shallow n := by
  refine ⟨fun h => ?_, .array n items⟩
  obtain ⟨m, hm, h⟩ := h.exists_items
  exact Nat.succ.inj hm ▸ h

@[simp] lemma shallow_object {fields : List (String × Value)} :
    (Value.object fields).Shallow (n + 1) ↔ ∀ f ∈ fields, f.2.Shallow n := by
  refine ⟨fun h => ?_, .object n fields⟩
  obtain ⟨m, hm, h⟩ := h.exists_fields
  exact Nat.succ.inj hm ▸ h

end Json.Value

namespace Tool

/-! ### Parameters -/

namespace Parameter

variable {p : Parameter} {n : Nat}

lemma toJson_mk (kind : String) (items : Option Parameter) (allowed : Option (List String))
    (description : Option String) : (mk kind items allowed description).toJson =
      .object (("type", .string kind) :: (given "items" (items.map toJson) ++
        (given "enum" (allowed.map fun ss => .array (ss.map .string)) ++
          given "description" (description.map .string)))) := by
  cases items <;> simp [toJson]

lemma toJson_ne_null (p : Parameter) : p.toJson ≠ .null := by
  cases p
  rw [toJson_mk]
  nofun

lemma forall_mem_given {α : Type} {name : String} {write : α → Value} {o : Option α}
    {P : String × Value → Prop} :
    (∀ e ∈ given name (o.map write), P e) ↔ ∀ a, o = some a → P (name, write a) := by
  cases o <;> simp [given]

lemma states_given {α : Type} {name : String}
    {read : Json.Document → Except Json.Failure (Option α)} {write : α → Value} {o : Option α}
    (h : ∀ a, o = some a → read (write a).document = .ok (some a)) :
    (Json.Shape.cons (.optional name read) .nil).States (given name (o.map write)) (o, ()) := by
  cases o with
  | none => exact .absent rfl .nil
  | some a => exact .given (h a rfl) .nil

lemma exact_toJson (p : Parameter) : p.toJson.Exact := by
  induction p using induction with
  | mk kind items allowed description ih =>
    rw [toJson_mk]
    refine .object _ ?_
    simp only [List.forall_mem_cons, List.forall_mem_append, forall_mem_given]
    exact ⟨.string _, ih, fun ss _ => .map fun s _ => .string s, fun s _ => .string s⟩

lemma reader_document (h : p.toJson.Shallow n) : reader n p.toJson.document = .ok p := by
  induction p using induction generalizing n with
  | mk kind items allowed description ih =>
    rw [toJson_mk] at h ⊢
    obtain ⟨m, rfl, hfields⟩ := h.exists_fields
    simp only [List.forall_mem_cons, List.forall_mem_append, forall_mem_given] at hfields
    obtain ⟨-, hitems, hallowed, -⟩ := hfields
    have hitem : ∀ item, items = some item →
        Reader.optional (fun _ => reader m) m item.toJson.document = .ok (some item) := by
      rintro item rfl
      exact Reader.optional_document item.toJson_ne_null (ih item rfl (hitems item rfl))
    have htexts : ∀ ss, allowed = some ss → Reader.optional (Reader.list Reader.text) m
        (Value.array (ss.map .string)).document = .ok (some ss) := by
      rintro ss rfl
      -- an empty list is a level too
      obtain ⟨k, rfl, -⟩ := (hallowed ss rfl).exists_items
      exact Reader.optional_document (by simp) (Reader.texts_document k ss)
    have htext : ∀ s, description = some s →
        Reader.optional Reader.text m (Value.string s).document = .ok (some s) :=
      fun s _ => Reader.optional_document (by simp) (Reader.text_document m s)
    have hstates : (shape (reader m) m).States _ (kind, items, allowed, description, ()) :=
      .required (Reader.text_document m kind)
        ((states_given hitem).append ((states_given htexts).append (states_given htext)))
    have hinner : (shape (reader m) m).inner "ParameterSchema" _ = .ok _ :=
      Json.Shape.inner_document _ (by decide : ["type", "items", "enum", "description"].Nodup)
        hstates
    rw [reader, hinner]
    rfl

end Parameter

/-! ### Schemas -/

namespace Schema

variable {s : Schema} {n : Nat}

lemma exact_toJson (s : Schema) : s.toJson.Exact := by
  have hproperties :
      (Value.object (s.parameters.map fun p => (p.1, p.2.toJson))).Exact :=
    .object _ (List.forall_mem_map.2 fun p _ => p.2.exact_toJson)
  have hrequired : (Value.array (s.required.map .string)).Exact := .map fun r _ => .string r
  refine .pair (.string _) (.object _ ?_)
  simp only [List.forall_mem_cons]
  refine ⟨.string _, .string _, .object _ ?_, by simp⟩
  simp only [List.forall_mem_cons]
  exact ⟨.string _, hproperties, hrequired, by simp⟩

/-- Three levels belong to the schema and one to the map of its parameters. -/
lemma exists_levels (h : s.toJson.Shallow n) :
    ∃ m, n = m + 4 ∧ ∀ p ∈ s.parameters, p.2.toJson.Shallow m := by
  obtain ⟨i, rfl, hs⟩ := h.exists_fields
  obtain ⟨j, rfl, hfunction⟩ := (hs _ (.tail _ (.head _))).exists_fields
  obtain ⟨k, rfl, hparameters⟩ := (hfunction _ (.tail _ (.tail _ (.head _)))).exists_fields
  obtain ⟨m, rfl, hproperties⟩ := (hparameters _ (.tail _ (.head _))).exists_fields
  exact ⟨m, rfl, fun p hp => hproperties _ (List.mem_map_of_mem hp)⟩

lemma reader_document (hi : Increasing s.parameters) (h : s.toJson.Shallow n) :
    reader n s.toJson.document = .ok s := by
  obtain ⟨m, rfl, hlevels⟩ := exists_levels h
  have hproperties := Reader.map_document hi fun p hp =>
    Parameter.reader_document (hlevels p hp)
  have hparameters : Json.Shape.reader parametersShape "ParametersSchema" (m + 2) _ = .ok _ :=
    Json.Shape.reader_document _ (by decide : ["type", "properties", "required"].Nodup)
      (.required (Reader.text_document _ s.argumentsKind)
        (.required hproperties (.required (Reader.texts_document m s.required) .nil)))
  have hfunction : Json.Shape.reader functionShape "FunctionSchema" (m + 3) _ = .ok _ :=
    Json.Shape.reader_document _ (by decide : ["name", "description", "parameters"].Nodup)
      (.required (Reader.text_document _ s.name) (.required (Reader.text_document _ s.description)
        (.required hparameters .nil)))
  have hschema : Json.Shape.reader shape "ToolSchema" (m + 4) s.toJson.document = .ok _ :=
    Json.Shape.reader_document _ (by decide : ["type", "function"].Nodup)
      (.required (Reader.text_document _ s.kind) (.required hfunction .nil))
  rw [reader, hschema]
  rfl

/-- **Round trip**: a schema is read back from its text, whatever its parameters and their elements
say or leave out, if the text has at most 127 levels. -/
theorem readText_toJson (hi : Increasing s.parameters) (h : s.toJson.Shallow 127) :
    Json.readText reader s.toJson.compact = .ok s :=
  Json.readText_of_document (exact_toJson s) (reader_document hi h)

def nested : Nat → Parameter
  | 0 => .mk "string" none (some []) none
  | n + 1 => .mk "array" (some (nested n)) none none

/-- The innermost elements have two levels, since an empty list of texts is written. -/
lemma shallow_nested (n : Nat) : (nested n).toJson.Shallow (n + 2) := by
  induction n with
  | zero => simp [nested, Parameter.toJson, Parameter.given]
  | succ n ih => simpa [nested, Parameter.toJson, Parameter.given] using ih

/-- One parameter reaches the last level that is entered, the other one says all that it can. -/
def deepSchema : Schema :=
  ⟨"\"", "\n", "", "", [("", nested 121),
    ("\u2028", .mk "" (some (.mk "string" none none none)) (some ["", "\r"]) (some ""))], ["", ""]⟩

theorem readText_toJson_deepSchema : Increasing deepSchema.parameters ∧
    deepSchema.toJson.Shallow 127 ∧
    Json.readText reader deepSchema.toJson.compact = .ok deepSchema := by
  have hlt : "" < "\u2028" := by decide
  have hi : Increasing deepSchema.parameters := List.pairwise_pair.2 hlt
  have hnested : (nested 121).toJson.Shallow 123 := shallow_nested 121
  have hshallow : deepSchema.toJson.Shallow 127 := by
    simpa [deepSchema, toJson, Parameter.toJson, Parameter.given] using hnested
  exact ⟨hi, hshallow, readText_toJson hi hshallow⟩

end Schema

end Tool

end TaskCorpus
