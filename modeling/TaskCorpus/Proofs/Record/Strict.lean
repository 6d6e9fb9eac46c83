import TaskCorpus.Proofs.Record.Outcome
import TaskCorpus.Proofs.Tool.Accepted

/-!
Records with and without lookups.

With `strict`, actions that only look things up are refused. That is all it does: what is accepted
then is what is accepted otherwise and whose actions are all plain replies or permitted ones, and
the records are the same.
-/

namespace TaskCorpus

/-! ### Actions -/

namespace Tool.Catalog

variable {c : Catalog} {name : String} {a : Action}

lemma mem_permitted_iff :
    name ∈ c.permitted ↔ ∃ e, c.tools.find? name = some e ∧ e.mutating = true := by
  simp [permitted, KeyMap.mem_entries_iff]

lemma check_strict_iff : c.check true a = .ok () ↔
    c.check false a = .ok () ∧ (a.name = "respond" ∨ a.name ∈ c.permitted) := by
  rw [check_eq_ok_iff, check_eq_ok_iff, mem_permitted_iff]
  constructor
  · rintro (h | ⟨e, hfind, hmutating, hallows⟩)
    · exact ⟨.inl h, .inl h⟩
    · exact ⟨.inr ⟨e, hfind, by simp, hallows⟩, .inr ⟨e, hfind, hmutating rfl⟩⟩
  · rintro ⟨h | ⟨e, hfind, -, hallows⟩, h' | ⟨e', hfind', hmutating⟩⟩
    · exact .inl h
    · exact .inl h
    · exact .inl h'
    · cases hfind.symm.trans hfind'
      exact .inr ⟨e, hfind, fun _ => hmutating, hallows⟩

end Tool.Catalog

/-! ### Tasks -/

/-- All actions are plain replies or calls of tools that change the database. -/
def Task.Permitted (catalog : Tool.Catalog) (t : Task) : Prop :=
  ∀ a ∈ t.actions, a.name = "respond" ∨ a.name ∈ catalog.permitted

lemma Task.check_strict_iff {catalog : Tool.Catalog} {t : Task} : t.check catalog true = .ok () ↔
    t.check catalog false = .ok () ∧ t.Permitted catalog := by
  rw [check_eq_ok_iff, check_eq_ok_iff]
  constructor
  · rintro ⟨huser, hinstruction, hempty, haccepted⟩
    have h : ∀ a ∈ t.actions, catalog.check false a = .ok () ∧
        (a.name = "respond" ∨ a.name ∈ catalog.permitted) :=
      fun a ha => Tool.Catalog.check_strict_iff.1 (haccepted a ha)
    exact ⟨⟨huser, hinstruction, hempty, fun a ha => (h a ha).1⟩, fun a ha => (h a ha).2⟩
  · rintro ⟨⟨huser, hinstruction, hempty, haccepted⟩, hpermitted⟩
    exact ⟨huser, hinstruction, hempty, fun a ha =>
      Tool.Catalog.check_strict_iff.2 ⟨haccepted a ha, hpermitted a ha⟩⟩

/-! ### Records -/

namespace Record

/-- **Lookups are only filtered out**: with `strict` records are built exactly where the same
records are built without it and no action is a call that only looks something up. -/
theorem buildAll_strict_iff (ts : List Task) (split : Split) (ctx : Context) (rs : List Record) :
    buildAll ts split { ctx with strict := true } = .ok rs ↔
      buildAll ts split { ctx with strict := false } = .ok rs ∧
      ∀ t ∈ ts, t.Permitted ctx.catalog := by
  -- a record holds nothing that depends on `strict`
  have hbuild : (fun i t => build t split i { ctx with strict := true }) =
      fun i t => build t split i { ctx with strict := false } := rfl
  rw [buildAll_eq_ok_iff, buildAll_eq_ok_iff, hbuild]
  simp only [Task.check_strict_iff]
  constructor
  · rintro ⟨hne, haccepted, hrs⟩
    exact ⟨⟨hne, fun t ht => (haccepted t ht).1, hrs⟩, fun t ht => (haccepted t ht).2⟩
  · rintro ⟨⟨hne, haccepted, hrs⟩, hpermitted⟩
    exact ⟨hne, fun t ht => ⟨haccepted t ht, hpermitted t ht⟩, hrs⟩

end Record

end TaskCorpus
