import TaskCorpus.Proofs.Task.Loaded
import TaskCorpus.Record

/-!
The records of a split.

`buildAll` gives one record for each task, each under the position of its task; and the expected
actions of a record are those of its task as long as their arguments can be read back.
-/

namespace TaskCorpus.Record

variable {split : Split} {ctx : Context} {ts : List Task} {rs : List Record}

lemma ofTask_eq_ok {t : Task} {n : Nat} {r : Record} : ofTask t split n ctx = .ok r ↔
    t.check ctx.catalog ctx.strict = .ok () ∧ r = build t split n ctx := by
  unfold ofTask
  split
  · rename_i flaw hcheck
    simp [hcheck]
  · rename_i hcheck
    simp [hcheck, eq_comm]

lemma buildFrom_eq_ok {n : Nat} (h : buildFrom split ctx n ts = .ok rs) :
    rs = ts.mapIdx fun i t => build t split (n + i) ctx := by
  induction ts generalizing n rs with
  | nil => cases h; rfl
  | cons t ts ih =>
    unfold buildFrom at h
    obtain ⟨r, hr, h⟩ := Json.bind_eq_ok h
    obtain ⟨rs', hrs, h⟩ := Json.bind_eq_ok h
    cases h
    rw [(ofTask_eq_ok.1 hr).2, ih hrs, List.mapIdx_cons]
    simp only [Nat.add_zero, List.cons.injEq, true_and]
    congr
    funext i u
    rw [Nat.add_assoc, Nat.add_comm 1 i]

theorem buildAll_eq_ok (h : buildAll ts split ctx = .ok rs) :
    ts ≠ [] ∧ rs = ts.mapIdx fun i t => build t split i ctx := by
  unfold buildAll at h
  split at h
  · cases h
  · rename_i hne
    refine ⟨fun he => hne (by simp [he]), ?_⟩
    simpa using buildFrom_eq_ok h

lemma length_buildAll (h : buildAll ts split ctx = .ok rs) : rs.length = ts.length := by
  rw [(buildAll_eq_ok h).2, List.length_mapIdx]

lemma getElem_buildAll (h : buildAll ts split ctx = .ok rs) {i : Nat} {r : Record} {t : Task}
    (hr : rs[i]? = some r) (ht : ts[i]? = some t) : r = build t split i ctx := by
  rw [(buildAll_eq_ok h).2, List.getElem?_mapIdx, ht] at hr
  exact (Option.some.inj hr).symm

lemma actionsOf_map_toCall {as : List Action} (h : ∀ a ∈ as, a.Loaded ∧ a.Integral) :
    actionsOf (as.map Action.toCall) = .ok as := by
  induction as with
  | nil => rfl
  | cons a as ih =>
    have ha := Action.toAction_toCall (h a (by simp)).1 (h a (by simp)).2
    rw [List.map_cons, actionsOf, ha, ih fun x hx => h x (by simp [hx])]
    rfl

theorem expectedActions_build {t : Task} (hl : t.Loaded) (hi : ∀ a ∈ t.actions, a.Integral)
    (n : Nat) : (build t split n ctx).expectedActions = .ok t.actions :=
  actionsOf_map_toCall fun a ha => ⟨hl a ha, hi a ha⟩

end TaskCorpus.Record
