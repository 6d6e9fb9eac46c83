import TaskCorpus.Proofs.KeyMap.Entries
import TaskCorpus.Proofs.Tool.Conformance

/-!
Actions that a catalog accepts.

`Allows` says when a schema allows the arguments of a call. An action is accepted exactly if it is
the plain reply, or a call of a tool that is there, that changes the database where only such tools
are wanted, and whose schema allows the arguments. In a catalog that has been made by registering
tools one after the other, the tool of a name is the last one that was registered under it.
-/

namespace TaskCorpus.Tool

open Json (Value)

/-- Every required argument is given, and every argument that is a parameter of the schema conforms
to it. Other arguments do not matter. -/
structure Schema.Allows (s : Schema) (arguments : List (String × Value)) : Prop where
  required : ∀ name ∈ s.required, ∃ v, (name, v) ∈ arguments
  conforming : ∀ name v p, (name, v) ∈ arguments → findEntry name s.parameters = some p →
    p.Conforms v

/-- The last one of some tools with a name. -/
def IsLast (es : List Entry) (name : String) (e : Entry) : Prop :=
  ∃ before after, es = before ++ e :: after ∧ e.schema.name = name ∧
    ∀ x ∈ after, x.schema.name ≠ name

namespace Catalog

variable {c : Catalog} {s : Schema} {arguments : List (String × Value)} {a : Action}
  {strict : Bool} {name : String} {e x : Entry} {es : List Entry}

/-! ### Registering -/

/-- Registers tools one after the other. -/
def registerAll (c : Catalog) (es : List Entry) : Catalog :=
  es.foldl (fun c e => c.register e.schema e.mutating) c

lemma registerAll_cons (c : Catalog) (e : Entry) (es : List Entry) :
    c.registerAll (e :: es) = (c.register e.schema e.mutating).registerAll es := rfl

lemma find?_register (c : Catalog) (e : Entry) (name : String) :
    (c.register e.schema e.mutating).tools.find? name =
      if e.schema.name = name then some e else c.tools.find? name :=
  KeyMap.find?_insert _ _ _ _

lemma isLast_nil : ¬ IsLast [] name e := by
  rintro ⟨before, after, hsplit, -⟩
  simp at hsplit

lemma isLast_cons : IsLast (x :: es) name e ↔
    IsLast es name e ∨ (∀ y ∈ es, y.schema.name ≠ name) ∧ x.schema.name = name ∧ x = e := by
  constructor
  · rintro ⟨before, after, hsplit, hname, hafter⟩
    cases before with
    | nil =>
      cases hsplit
      exact .inr ⟨hafter, hname, rfl⟩
    | cons y before =>
      cases hsplit
      exact .inl ⟨before, after, rfl, hname, hafter⟩
  · rintro (⟨before, after, rfl, hname, hafter⟩ | ⟨hafter, hname, rfl⟩)
    · exact ⟨x :: before, after, rfl, hname, hafter⟩
    · exact ⟨[], es, rfl, hname, hafter⟩

lemma find?_registerAll : (c.registerAll es).tools.find? name = some e ↔
    IsLast es name e ∨ (∀ x ∈ es, x.schema.name ≠ name) ∧ c.tools.find? name = some e := by
  induction es generalizing c with
  | nil => simp [registerAll, isLast_nil]
  | cons x es ih =>
    rw [registerAll_cons, ih, find?_register, isLast_cons, List.forall_mem_cons, or_assoc]
    by_cases hx : x.schema.name = name <;> simp [hx]

/-! ### Accepting -/

lemma firstMissing?_eq_none_iff :
    firstMissing? s arguments = none ↔ ∀ name ∈ s.required, ∃ v, (name, v) ∈ arguments := by
  simp [firstMissing?, findEntry_eq_none_iff]

def argumentFault? (s : Schema) (x : String × Value) : Option (String × Fault) :=
  match findEntry x.1 s.parameters with
  | some p => (p.fault? x.2).map fun f => (x.1, f)
  | none => none

lemma firstFault?_eq (s : Schema) (arguments : List (String × Value)) :
    firstFault? s arguments = arguments.findSome? (argumentFault? s) := rfl

lemma argumentFault?_eq_none_iff {v : Value} : argumentFault? s (name, v) = none ↔
    ∀ p, findEntry name s.parameters = some p → p.Conforms v := by
  unfold argumentFault?
  cases findEntry name s.parameters with
  | none => simp
  | some p => simp [Parameter.fault?_eq_none_iff]

lemma firstFault?_eq_none_iff : firstFault? s arguments = none ↔
    ∀ name v p, (name, v) ∈ arguments → findEntry name s.parameters = some p → p.Conforms v := by
  simp only [firstFault?_eq, List.findSome?_eq_none_iff, Prod.forall, argumentFault?_eq_none_iff]
  exact ⟨fun h name v p hv => h name v hv p, fun h name v hv p => h name v p hv⟩

lemma allows_iff :
    s.Allows arguments ↔ firstMissing? s arguments = none ∧ firstFault? s arguments = none := by
  rw [firstMissing?_eq_none_iff, firstFault?_eq_none_iff]
  exact ⟨fun h => ⟨h.required, h.conforming⟩, fun h => ⟨h.1, h.2⟩⟩

lemma check_of_respond (h : a.name = "respond") : c.check strict a = .ok () := by
  have hrespond : a.isRespond = true := beq_iff_eq.2 h
  rw [check, if_pos hrespond]

lemma not_isRespond (h : a.name ≠ "respond") : ¬ a.isRespond = true :=
  fun hrespond => h (beq_iff_eq.1 hrespond)

lemma check_of_unknown (h : a.name ≠ "respond") (hfind : c.tools.find? a.name = none) :
    c.check strict a = .error (.unknown a.name) := by
  rw [check, if_neg (not_isRespond h), hfind]

lemma check_of_lookup (h : a.name ≠ "respond") (hfind : c.tools.find? a.name = some e)
    (hstrict : strict = true) (hlookup : e.mutating = false) :
    c.check strict a = .error (.forbidden a.name) := by
  have hforbidden : (strict && !e.mutating) = true := by simp [hstrict, hlookup]
  simp only [check, if_neg (not_isRespond h), hfind, if_pos hforbidden]

lemma check_of_wanted (h : a.name ≠ "respond") (hfind : c.tools.find? a.name = some e)
    (hwanted : strict = true → e.mutating = true) : c.check strict a =
      match firstMissing? e.schema a.arguments with
      | some argument => .error (.missingArgument a.name argument)
      | none =>
        match firstFault? e.schema a.arguments with
        | some (argument, fault) => .error (.wrongArgument a.name argument fault)
        | none => .ok () := by
  have hpermitted : ¬ (strict && !e.mutating) = true := by simpa using hwanted
  rw [check, if_neg (not_isRespond h), hfind]
  exact if_neg hpermitted

lemma check_eq_ok_iff : c.check strict a = .ok () ↔ a.name = "respond" ∨
    ∃ e, c.tools.find? a.name = some e ∧ (strict = true → e.mutating = true) ∧
      e.schema.Allows a.arguments := by
  by_cases hname : a.name = "respond"
  · simp [check_of_respond hname, hname]
  · rw [or_iff_right hname]
    cases hfind : c.tools.find? a.name with
    | none => simp [check_of_unknown hname hfind]
    | some e =>
      simp only [Option.some.injEq, exists_eq_left', allows_iff]
      by_cases hwanted : strict = true → e.mutating = true
      · rw [check_of_wanted hname hfind hwanted, and_iff_right hwanted]
        cases firstMissing? e.schema a.arguments with
        | some argument => simp
        | none => cases firstFault? e.schema a.arguments <;> simp
      · obtain ⟨hstrict, hlookup⟩ : strict = true ∧ e.mutating = false := by simpa using hwanted
        rw [check_of_lookup hname hfind hstrict hlookup]
        simp [hstrict, hlookup]

/-- **Acceptance**: a catalog that has been made by registering tools accepts an action exactly if
it is the plain reply, or if the last tool registered under its name allows the arguments and, where
only changes are wanted, changes the database. -/
theorem check_registerAll_iff (es : List Entry) (strict : Bool) (a : Action) :
    (Catalog.empty.registerAll es).check strict a = .ok () ↔
      a.name = "respond" ∨ ∃ e, IsLast es a.name e ∧ (strict = true → e.mutating = true) ∧
        e.schema.Allows a.arguments := by
  have hempty : ∀ name, Catalog.empty.tools.find? name = none := fun _ => rfl
  simp only [check_eq_ok_iff, find?_registerAll, hempty, reduceCtorEq, and_false, or_false]

end Catalog

end TaskCorpus.Tool
