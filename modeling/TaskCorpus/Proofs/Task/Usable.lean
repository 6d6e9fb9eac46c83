import TaskCorpus.Proofs.List.Split
import TaskCorpus.Proofs.Text.Blank
import TaskCorpus.Task

/-!
Tasks that can be used, and what is wrong with the others.

`Usable` says what a task needs. `FirstFlaw` describes the flaw that has to be reported of a task
that lacks something: the first one in the order customer, instruction, actions, and of several
actions that are not accepted the one that comes first.
-/

namespace TaskCorpus.Task

open Text (Blank)

variable {catalog : Tool.Catalog} {strict : Bool} {t : Task} {flaw : TaskFlaw} {as : List Action}
  {n : Nat}

structure Usable (catalog : Tool.Catalog) (strict : Bool) (t : Task) : Prop where
  user : ¬ Blank t.userId
  instruction : ¬ Blank t.instruction
  nonempty : t.actions ≠ []
  accepted : ∀ a ∈ t.actions, catalog.check strict a = .ok ()

inductive FirstFlaw (catalog : Tool.Catalog) (strict : Bool) (t : Task) : TaskFlaw → Prop
  | noUser (user : Blank t.userId) : FirstFlaw catalog strict t .noUser
  | noInstruction (user : ¬ Blank t.userId) (instruction : Blank t.instruction) :
      FirstFlaw catalog strict t .noInstruction
  | noActions (user : ¬ Blank t.userId) (instruction : ¬ Blank t.instruction)
      (empty : t.actions = []) : FirstFlaw catalog strict t .noActions
  | action {before after : List Action} {a : Action} {flaw : ActionFlaw}
      (user : ¬ Blank t.userId) (instruction : ¬ Blank t.instruction)
      (cut : t.actions = before ++ a :: after)
      (accepted : ∀ b ∈ before, catalog.check strict b = .ok ())
      (refused : catalog.check strict a = .error flaw) :
      FirstFlaw catalog strict t (.action before.length flaw)

lemma checkActions_eq_ok_iff :
    checkActions catalog strict n as = .ok () ↔ ∀ a ∈ as, catalog.check strict a = .ok () := by
  induction as generalizing n with
  | nil => simp [checkActions]
  | cons a as ih =>
    rw [checkActions, List.forall_mem_cons]
    rcases catalog.check strict a with flaw | ⟨⟩
    · simp
    · simp [ih]

lemma checkActions_eq_error_iff : checkActions catalog strict n as = .error flaw ↔
    First (fun a => catalog.check strict a = .ok ())
      (fun i a => ∃ f, catalog.check strict a = .error f ∧ flaw = .action (n + i) f) as := by
  induction as generalizing n with
  | nil => simp [checkActions, not_first_nil]
  | cons a as ih =>
    rw [checkActions, first_cons]
    rcases catalog.check strict a with f | ⟨⟩
    · simp [eq_comm]
    · simp [ih, Nat.add_assoc, Nat.add_comm 1]

lemma check_eq : t.check catalog strict =
    if Blank t.userId then .error .noUser
    else if Blank t.instruction then .error .noInstruction
    else if t.actions = [] then .error .noActions
    else checkActions catalog strict 0 t.actions := by
  simp only [check, Text.isBlank_iff, List.isEmpty_iff]

lemma check_eq_ok_iff : t.check catalog strict = .ok () ↔ t.Usable catalog strict := by
  rw [check_eq]
  constructor
  · intro h
    split_ifs at h with huser hinstruction hempty
    exact ⟨huser, hinstruction, hempty, checkActions_eq_ok_iff.1 h⟩
  · rintro ⟨huser, hinstruction, hempty, haccepted⟩
    rw [if_neg huser, if_neg hinstruction, if_neg hempty, checkActions_eq_ok_iff]
    exact haccepted

/-- **The first flaw of a task**: a task that is not accepted has its first flaw reported. -/
theorem check_eq_error_iff :
    t.check catalog strict = .error flaw ↔ t.FirstFlaw catalog strict flaw := by
  rw [check_eq]
  constructor
  · intro h
    split_ifs at h with huser hinstruction hempty
    · cases h
      exact .noUser huser
    · cases h
      exact .noInstruction huser hinstruction
    · cases h
      exact .noActions huser hinstruction hempty
    · obtain ⟨before, a, after, hcut, haccepted, f, hrefused, rfl⟩ := checkActions_eq_error_iff.1 h
      rw [Nat.zero_add]
      exact .action huser hinstruction hcut haccepted hrefused
  · intro h
    cases h with
    | noUser user => rw [if_pos user]
    | noInstruction user instruction => rw [if_neg user, if_pos instruction]
    | noActions user instruction empty => rw [if_neg user, if_neg instruction, if_pos empty]
    | @action before after a flaw user instruction cut accepted refused =>
      have hempty : t.actions ≠ [] := by simp [cut]
      rw [if_neg user, if_neg instruction, if_neg hempty, checkActions_eq_error_iff]
      exact ⟨before, a, after, cut, accepted, flaw, refused, by rw [Nat.zero_add]⟩

end TaskCorpus.Task
