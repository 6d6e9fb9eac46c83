import TaskCorpus.Error
import TaskCorpus.Proofs.List.Split

/-!
Values that conform to the schema of a parameter.

`Conforms` says which values a schema allows, by recursion on the schema. `places` lists the places
of a value with the schema of each, in the order of reading, and `Fits` looks at one place alone. A
value conforms exactly if all its places fit, and the fault that is found is that of the first
place which does not.
-/

namespace TaskCorpus.Tool.Parameter

open Json (Value)

variable {p : Parameter} {v : Value} {fault : Fault}

/-- Induction on schemas: a property that a schema has if the schema of its elements has it, where
there is one, holds of all schemas. -/
@[elab_as_elim]
theorem induction {motive : Parameter → Prop}
    (mk : ∀ kind items allowed description, (∀ item, items = some item → motive item) →
      motive (.mk kind items allowed description)) : ∀ p, motive p
  | .mk kind none allowed description => mk kind none allowed description nofun
  | .mk kind (some item) allowed description =>
    mk kind (some item) allowed description fun _ h => Option.some.inj h ▸ induction mk item

/-! ### What a schema allows -/

/-- The kind `string` takes texts, only those of the allowed ones if any are given; the kind
`array` takes lists, whose elements conform to the schema of the elements if there is one; no other
kind takes any value. -/
def Conforms : Parameter → Value → Prop
  | .mk kind items allowed _, v =>
    (kind = "string" ∧ ∃ s, v = .string s ∧ ∀ values, allowed = some values → s ∈ values) ∨
    (kind = "array" ∧ ∃ vs, v = .array vs ∧
      match items with
      | some item => ∀ w ∈ vs, item.Conforms w
      | none => True)

section Faults

variable {kind : String} {items : Option Parameter} {allowed : Option (List String)}
  {description : Option String}

lemma fault?_string (s : String) : (mk kind items allowed description).fault? (.string s) =
    if kind = "string" then choiceFault? allowed s else some ⟨.kind kind, "string"⟩ := rfl

lemma fault?_array (vs : List Value) : (mk kind items allowed description).fault? (.array vs) =
    if kind = "array" then
      match items with
      | some item => vs.findSome? item.fault?
      | none => none
    else some ⟨.kind kind, "array"⟩ := by
  cases items <;> rfl

lemma fault?_other (hs : ∀ s, v ≠ .string s) (ha : ∀ vs, v ≠ .array vs) :
    (mk kind items allowed description).fault? v = some ⟨.kind kind, v.typeName⟩ := by
  cases v with
  | string s => exact absurd rfl (hs s)
  | array vs => exact absurd rfl (ha vs)
  | _ => rfl

end Faults

lemma choiceFault?_eq_none_iff {allowed : Option (List String)} {s : String} :
    choiceFault? allowed s = none ↔ ∀ values, allowed = some values → s ∈ values := by
  cases allowed <;> simp [choiceFault?]

/-- **Conformance**: no fault is found exactly in the values that conform. -/
theorem fault?_eq_none_iff : p.fault? v = none ↔ p.Conforms v := by
  induction p using induction generalizing v with
  | mk kind items allowed description ih =>
    rw [Conforms]
    cases v with
    | string s =>
      by_cases hk : kind = "string"
      · simp [fault?_string, hk, choiceFault?_eq_none_iff]
      · simp [fault?_string, hk]
    | array vs =>
      by_cases hk : kind = "array"
      · cases items with
        | none => simp [fault?_array, hk]
        | some item => simp [fault?_array, hk, ih item rfl]
      · simp [fault?_array, hk]
    | _ => simp [fault?_other]

/-! ### The places of a value -/

def elements : Value → List Value
  | .array vs => vs
  | _ => []

/-- The places of a value with their schemas, in the order of reading: the value itself, and then
the places of its elements, one element after the other. -/
def places : Parameter → Value → List (Parameter × Value)
  | .mk kind items allowed description, v =>
    (.mk kind items allowed description, v) ::
      match items with
      | some item => (elements v).flatMap item.places
      | none => []

/-- The schema of a place alone, whatever the elements are. -/
def alone : Parameter → Parameter
  | .mk kind _ allowed description => .mk kind none allowed description

/-- The value at a place, whatever its elements are, is as the schema wants it. -/
def Fits (p : Parameter) (v : Value) : Prop := p.alone.Conforms v

/-- What is said to be wanted at a place that does not fit: for a text one of the allowed ones, and
otherwise a value of the kind of the schema. -/
def expectation : Parameter → Value → Expectation
  | .mk kind _ allowed _, v =>
    match v, allowed with
    | .string _, some values => if kind = "string" then .oneOf values else .kind kind
    | _, _ => .kind kind

def wanted : Parameter → Value → String
  | .mk "string" _ (some values) _, .string _ => "one of " ++ Text.quotedList values
  | .mk kind _ _ _, _ => kind

inductive FirstFault (p : Parameter) (v : Value) : Fault → Prop
  | mk {before after : List (Parameter × Value)} {q : Parameter} {w : Value}
      (split : p.places v = before ++ (q, w) :: after) (fits : ∀ x ∈ before, x.1.Fits x.2)
      (misfit : ¬ q.Fits w) : FirstFault p v ⟨q.expectation w, w.typeName⟩

lemma message_expectation (p : Parameter) (v : Value) : (p.expectation v).message = p.wanted v := by
  unfold expectation wanted
  grind [Expectation.message]

lemma fault?_alone (h : ¬ p.Fits v) : p.alone.fault? v = some ⟨p.expectation v, v.typeName⟩ := by
  obtain ⟨kind, items, allowed, description⟩ := p
  rw [Fits, ← fault?_eq_none_iff, alone] at h
  rw [alone]
  cases v with
  | string s =>
    rw [fault?_string] at h ⊢
    by_cases hk : kind = "string"
    · cases allowed with
      | none => simp [hk, choiceFault?] at h
      | some values =>
        have hs : s ∉ values := by simpa [hk, choiceFault?] using h
        simp [hk, choiceFault?, hs, expectation, Value.typeName]
    · cases allowed <;> simp [hk, expectation, Value.typeName]
  | array vs =>
    rw [fault?_array] at h ⊢
    by_cases hk : kind = "array"
    · simp [hk] at h
    · simp [hk, expectation, Value.typeName]
  | _ => rfl

/-- The fault of a value is the first one among those of its places. -/
lemma fault?_eq_findSome? (p : Parameter) (v : Value) :
    p.fault? v = (p.places v).findSome? fun x => x.1.alone.fault? x.2 := by
  induction p using induction generalizing v with
  | mk kind items allowed description ih =>
    cases items with
    | none => simp [places, alone]
    | some item =>
      rw [places, List.findSome?_cons, alone]
      cases v with
      | string s =>
        simp only [fault?_string, elements, List.flatMap_nil, List.findSome?_nil]
        split
        · cases choiceFault? allowed s <;> rfl
        · rfl
      | array vs =>
        have hvs : (vs.flatMap item.places).findSome? (fun x => x.1.alone.fault? x.2) =
            vs.findSome? item.fault? := by
          simp only [findSome?_flatMap, ← ih item rfl]
        simp only [fault?_array, elements, hvs]
        by_cases hk : kind = "array" <;> simp [hk]
      | _ => rfl

/-- **The first fault**: the fault that is found is that of the first place which does not fit. -/
theorem fault?_eq_some_iff : p.fault? v = some fault ↔ p.FirstFault v fault := by
  rw [fault?_eq_findSome?, List.findSome?_eq_some_iff]
  constructor
  · rintro ⟨before, ⟨q, w⟩, after, hsplit, hfault, hbefore⟩
    have hmisfit : ¬ q.Fits w := by
      rw [Fits, ← fault?_eq_none_iff, hfault]
      exact Option.some_ne_none fault
    rw [fault?_alone hmisfit] at hfault
    cases hfault
    exact .mk hsplit (fun x hx => fault?_eq_none_iff.1 (hbefore x hx)) hmisfit
  · rintro ⟨hsplit, hfits, hmisfit⟩
    exact ⟨_, _, _, hsplit, fault?_alone hmisfit, fun x hx => fault?_eq_none_iff.2 (hfits x hx)⟩

end TaskCorpus.Tool.Parameter
