import TaskCorpus.Proofs.Tool.Accepted

/-!
What a catalog says of an action that it does not accept.

`FirstFlaw` describes the flaw that has to be reported, in the order of importance: there is no
tool, only other tools are wanted, a required argument is missing, an argument does not conform. Of
several missing arguments it is the first in the order of the schema, of several arguments that do
not conform the first in the order of their names, and within its value the first place that does
not fit.
-/

namespace TaskCorpus.Tool.Catalog

open Json (Value)

inductive FirstFlaw (c : Catalog) (strict : Bool) (a : Action) : ActionFlaw → Prop
  | unknown (missing : c.tools.find? a.name = none) : FirstFlaw c strict a (.unknown a.name)
  | forbidden {e : Entry} (found : c.tools.find? a.name = some e) (wanted : strict = true)
      (lookup : e.mutating = false) : FirstFlaw c strict a (.forbidden a.name)
  | missingArgument {e : Entry} {before after : List String} {name : String}
      (found : c.tools.find? a.name = some e) (permitted : strict = true → e.mutating = true)
      (split : e.schema.required = before ++ name :: after)
      (given : ∀ x ∈ before, ∃ v, (x, v) ∈ a.arguments)
      (missing : ∀ v, (name, v) ∉ a.arguments) :
      FirstFlaw c strict a (.missingArgument a.name name)
  | wrongArgument {e : Entry} {name : String} {v : Value} {p : Parameter} {fault : Fault}
      (found : c.tools.find? a.name = some e) (permitted : strict = true → e.mutating = true)
      (given : ∀ x ∈ e.schema.required, ∃ v, (x, v) ∈ a.arguments)
      (argument : (name, v) ∈ a.arguments)
      (parameter : findEntry name e.schema.parameters = some p) (first : p.FirstFault v fault)
      (smaller : ∀ x w q, (x, w) ∈ a.arguments → x < name →
        findEntry x e.schema.parameters = some q → q.Conforms w) :
      FirstFlaw c strict a (.wrongArgument a.name name fault)

variable {c : Catalog} {s : Schema} {arguments : List (String × Value)} {a : Action}
  {strict : Bool} {name : String} {flaw : ActionFlaw} {fault : Fault}

lemma firstMissing?_eq_some_iff : firstMissing? s arguments = some name ↔
    ∃ before after, s.required = before ++ name :: after ∧
      (∀ x ∈ before, ∃ v, (x, v) ∈ arguments) ∧ ∀ v, (name, v) ∉ arguments := by
  have hmissing : ∀ x, (findEntry x arguments).isNone = true ↔ ∀ v, (x, v) ∉ arguments := by
    intro x
    rw [Option.isNone_iff_eq_none, findEntry_eq_none_iff]
  have hgiven : ∀ x, (!(findEntry x arguments).isNone) = true ↔ ∃ v, (x, v) ∈ arguments := by
    intro x
    rw [Bool.not_eq_true', ← Bool.not_eq_true, hmissing]
    simp
  rw [firstMissing?, List.find?_eq_some_iff_append]
  simp only [hmissing, hgiven]
  constructor
  · rintro ⟨hname, before, after, hsplit, hbefore⟩
    exact ⟨before, after, hsplit, hbefore, hname⟩
  · rintro ⟨before, after, hsplit, hbefore, hname⟩
    exact ⟨hname, before, after, hsplit, hbefore⟩

lemma argumentFault?_eq_some_iff {x : String × Value} :
    argumentFault? s x = some (name, fault) ↔
      x.1 = name ∧ ∃ p, findEntry name s.parameters = some p ∧ p.FirstFault x.2 fault := by
  unfold argumentFault?
  by_cases hx : x.1 = name
  · subst hx
    cases findEntry x.1 s.parameters with
    | none => simp
    | some p => simp [← Parameter.fault?_eq_some_iff]
  · split <;> simp [hx]

/-- Where the arguments stand in the order of their names, the first one at fault is the one of the
smallest name. -/
lemma firstFault?_eq_some_iff (h : Increasing arguments) :
    firstFault? s arguments = some (name, fault) ↔
      ∃ v p, (name, v) ∈ arguments ∧ findEntry name s.parameters = some p ∧ p.FirstFault v fault ∧
        ∀ x w q, (x, w) ∈ arguments → x < name → findEntry x s.parameters = some q →
          q.Conforms w := by
  rw [firstFault?_eq, List.findSome?_eq_some_iff]
  constructor
  · rintro ⟨before, ⟨x, v⟩, after, rfl, hfault, hbefore⟩
    obtain ⟨rfl, p, hp, hfirst⟩ := argumentFault?_eq_some_iff.1 hfault
    refine ⟨v, p, by simp, hp, hfirst, fun y w q hy hlt hq => ?_⟩
    have hmem : (y, w) ∈ before := (h.mem_before_iff hy).2 hlt
    exact argumentFault?_eq_none_iff.1 (hbefore (y, w) hmem) q hq
  · rintro ⟨v, p, hv, hp, hfirst, hsmaller⟩
    obtain ⟨before, after, rfl⟩ := List.append_of_mem hv
    refine ⟨before, (name, v), after, rfl, argumentFault?_eq_some_iff.2 ⟨rfl, p, hp, hfirst⟩, ?_⟩
    rintro ⟨y, w⟩ hy
    have hmem : (y, w) ∈ before ++ (name, v) :: after := List.mem_append_left _ hy
    exact argumentFault?_eq_none_iff.2 fun q hq =>
      hsmaller y w q hmem ((h.mem_before_iff hmem).1 hy) hq

lemma check_of_firstFlaw (h : Increasing a.arguments) (hname : a.name ≠ "respond")
    (hflaw : FirstFlaw c strict a flaw) : c.check strict a = .error flaw := by
  cases hflaw with
  | unknown missing => exact check_of_unknown hname missing
  | forbidden found wanted lookup => exact check_of_lookup hname found wanted lookup
  | missingArgument found permitted split given missing =>
    rw [check_of_wanted hname found permitted,
      firstMissing?_eq_some_iff.2 ⟨_, _, split, given, missing⟩]
  | wrongArgument found permitted given argument parameter first smaller =>
    rw [check_of_wanted hname found permitted, firstMissing?_eq_none_iff.2 given,
      (firstFault?_eq_some_iff h).2 ⟨_, _, argument, parameter, first, smaller⟩]

lemma firstFlaw_of_check (h : Increasing a.arguments) (hname : a.name ≠ "respond")
    (hcheck : c.check strict a = .error flaw) : FirstFlaw c strict a flaw := by
  cases hfind : c.tools.find? a.name with
  | none =>
    rw [check_of_unknown hname hfind] at hcheck
    cases hcheck
    exact .unknown hfind
  | some e =>
    by_cases hwanted : strict = true → e.mutating = true
    · rw [check_of_wanted hname hfind hwanted] at hcheck
      split at hcheck
      · rename_i name hmissing
        cases hcheck
        obtain ⟨before, after, hsplit, hgiven, habsent⟩ := firstMissing?_eq_some_iff.1 hmissing
        exact .missingArgument hfind hwanted hsplit hgiven habsent
      · rename_i hmissing
        have hgiven := firstMissing?_eq_none_iff.1 hmissing
        split at hcheck
        · rename_i name fault hfault
          cases hcheck
          obtain ⟨v, p, hv, hp, hfirst, hsmaller⟩ := (firstFault?_eq_some_iff h).1 hfault
          exact .wrongArgument hfind hwanted hgiven hv hp hfirst hsmaller
        · cases hcheck
    · -- a tool that changes nothing, where only changes are wanted
      obtain ⟨hstrict, hlookup⟩ : strict = true ∧ e.mutating = false := by simpa using hwanted
      rw [check_of_lookup hname hfind hstrict hlookup] at hcheck
      cases hcheck
      exact .forbidden hfind hstrict hlookup

/-- **The first flaw**: an action that is not accepted has one flaw reported, which is the first
one, and what is wanted at the place where a value goes wrong is told as the kind of the schema or
as the allowed texts. -/
theorem check_error_iff_firstFlaw (h : Increasing a.arguments) :
    (c.check strict a = .error flaw ↔ a.name ≠ "respond" ∧ FirstFlaw c strict a flaw) ∧
      ∀ (q : Parameter) (w : Value), (q.expectation w).message = q.wanted w := by
  refine ⟨⟨fun hcheck => ?_, fun hflaw => check_of_firstFlaw h hflaw.1 hflaw.2⟩,
    Parameter.message_expectation⟩
  have hname : a.name ≠ "respond" := by
    intro hname
    rw [check_of_respond hname] at hcheck
    cases hcheck
  exact ⟨hname, firstFlaw_of_check h hname hcheck⟩

/-! ### A call that is wrong at several places -/

/-- A tool that packs boxes, each a list of colours, and may be given a note. -/
def packing : Schema where
  kind := "function"
  name := "pack"
  description := "Packs boxes."
  argumentsKind := "object"
  parameters :=
    [("boxes", .mk "array" (some (.mk "array" (some ((Parameter.string "A colour.").oneOf
      ["red", "blue"])) none none)) none none), ("note", .string "A note.")]
  required := ["boxes"]

/-- In the second box stands a colour that is not allowed and after it a number, the third box is
none, and neither is the note a text. -/
def wrongPacking : Action :=
  ⟨"pack", [("address", .null),
    ("boxes", .array [.array [.string "red"],
      .array [.string "blue", .string "green", .number (.integer 3)], .null]),
    ("note", .array [])]⟩

def packingFlaw : ActionFlaw := .wrongArgument "pack" "boxes" ⟨.oneOf ["red", "blue"], "string"⟩

theorem check_error_iff_firstFlaw_sample :
    Increasing wrongPacking.arguments ∧
    (Catalog.empty.register packing true).check true wrongPacking = .error packingFlaw ∧
    FirstFlaw (Catalog.empty.register packing true) true wrongPacking packingFlaw ∧
    packingFlaw.message =
      "Action `pack` argument `boxes`: expected one of [\"red\", \"blue\"], got string" := by
  have hincreasing : Increasing wrongPacking.arguments := by
    simp only [Increasing, wrongPacking, List.pairwise_cons, List.forall_mem_cons]
    exact ⟨⟨by decide, by decide, by simp⟩, ⟨by decide, by simp⟩, by simp⟩
  have hcheck : (Catalog.empty.register packing true).check true wrongPacking =
      .error packingFlaw := by decide +kernel
  exact ⟨hincreasing, hcheck, ((check_error_iff_firstFlaw hincreasing).1.1 hcheck).2,
    by decide +kernel⟩

end TaskCorpus.Tool.Catalog
