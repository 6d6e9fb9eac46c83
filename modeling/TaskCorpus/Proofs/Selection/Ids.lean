import Mathlib.Data.List.Nodup
import TaskCorpus.Proofs.Task.Loaded
import TaskCorpus.Selection

/-!
The ids of selected tasks.

Every task has got its id before anything is selected, ids that repeat are refused, and a
selection is a sublist; so selected tasks have ids, and no two of them the same one. `FirstAgain`
says which id is found to repeat.
-/

namespace TaskCorpus.Source

lemma mem_identify {split : Split} {n : Nat} {ts : List Task} {t : Task}
    (h : t ∈ identify split n ts) :
    ∃ u ∈ ts, ∃ id, t = { u with id := some id } := by
  induction ts generalizing n with
  | nil => cases h
  | cons u us ih =>
    rcases List.mem_cons.1 h with rfl | h
    · exact ⟨u, by simp, _, rfl⟩
    · obtain ⟨v, hv, hid⟩ := ih h
      exact ⟨v, by simp [hv], hid⟩

/-! ### The scan -/

lemma firstRepeated?_eq_none_iff {seen : List String} {ts : List Task} :
    firstRepeated? seen ts = none ↔
      (ts.filterMap (·.id)).Nodup ∧ ∀ id ∈ ts.filterMap (·.id), id ∉ seen := by
  induction ts generalizing seen with
  | nil => simp [firstRepeated?]
  | cons t ts ih =>
    unfold firstRepeated?
    split
    · rename_i id hid
      rw [List.filterMap_cons_some hid, List.nodup_cons, List.forall_mem_cons]
      split
      · rename_i hseen
        have hmem : id ∈ seen := by simpa using hseen
        simp [hmem]
      · rename_i hseen
        have hmem : id ∉ seen := by simpa using hseen
        have hcons : (∀ x ∈ ts.filterMap (·.id), x ∉ id :: seen) ↔
            id ∉ ts.filterMap (·.id) ∧ ∀ x ∈ ts.filterMap (·.id), x ∉ seen := by
          simp only [List.mem_cons, not_or]
          constructor
          · exact fun h => ⟨fun hx => (h id hx).1 rfl, fun x hx => (h x hx).2⟩
          · exact fun h x hx => ⟨fun hxid => h.1 (hxid ▸ hx), h.2 x hx⟩
        rw [ih, hcons]
        exact ⟨fun h => ⟨⟨h.2.1, h.1⟩, hmem, h.2.2⟩, fun h => ⟨h.1.2, h.1.1, h.2.2⟩⟩
    · rename_i hid
      rw [List.filterMap_cons_none hid]
      exact ih

/-- The id has been seen or stands in front of itself, and nothing in front of it repeats. -/
def FirstAgain (seen ids : List String) (id : String) : Prop :=
  ∃ before after, ids = before ++ id :: after ∧
    (before.Nodup ∧ ∀ x ∈ before, x ∉ seen) ∧ (id ∈ seen ∨ id ∈ before)

section FirstAgain

variable {seen ids : List String} {x id : String} {ts : List Task}

lemma firstAgain_cons_of_mem (h : x ∈ seen) : FirstAgain seen (x :: ids) id ↔ x = id := by
  constructor
  · rintro ⟨before, after, hsplit, ⟨-, hnew⟩, -⟩
    rcases List.cons_eq_append_iff.1 hsplit with ⟨-, hid⟩ | ⟨before, rfl, -⟩
    · exact (List.cons.inj hid).1.symm
    · exact absurd h (hnew x (by simp))
  · rintro rfl
    exact ⟨[], ids, rfl, by simp, .inl h⟩

lemma firstAgain_cons_of_not_mem (h : x ∉ seen) :
    FirstAgain seen (x :: ids) id ↔ FirstAgain (x :: seen) ids id := by
  constructor
  · rintro ⟨before, after, hsplit, ⟨hnodup, hnew⟩, hid⟩
    rcases List.cons_eq_append_iff.1 hsplit with ⟨rfl, hx⟩ | ⟨before, rfl, hids⟩
    · obtain rfl := (List.cons.inj hx).1
      simp [h] at hid
    · obtain ⟨hfresh, hnodup⟩ := List.nodup_cons.1 hnodup
      refine ⟨before, after, hids, ⟨hnodup, fun y hy => ?_⟩, ?_⟩
      · rw [List.mem_cons, not_or]
        exact ⟨fun hyx => hfresh (hyx ▸ hy), hnew y (by simp [hy])⟩
      · rw [List.mem_cons] at hid ⊢
        exact or_assoc.2 (or_left_comm.1 hid)
  · rintro ⟨before, after, rfl, ⟨hnodup, hnew⟩, hid⟩
    simp only [List.mem_cons, not_or] at hnew hid
    refine ⟨x :: before, after, rfl, ⟨?_, ?_⟩, ?_⟩
    · exact List.nodup_cons.2 ⟨fun hx => (hnew x hx).1 rfl, hnodup⟩
    · exact List.forall_mem_cons.2 ⟨h, fun y hy => (hnew y hy).2⟩
    · rw [List.mem_cons]
      exact or_left_comm.1 (or_assoc.1 hid)

lemma firstRepeated?_eq_some_iff :
    firstRepeated? seen ts = some id ↔ FirstAgain seen (ts.filterMap (·.id)) id := by
  induction ts generalizing seen with
  | nil => simp [firstRepeated?, FirstAgain]
  | cons t ts ih =>
    unfold firstRepeated?
    split
    · rename_i x hx
      rw [List.filterMap_cons_some hx]
      split
      · rename_i hseen
        have hmem : x ∈ seen := by simpa using hseen
        rw [firstAgain_cons_of_mem hmem, Option.some.injEq]
      · rename_i hseen
        have hmem : x ∉ seen := by simpa using hseen
        rw [firstAgain_cons_of_not_mem hmem, ih]
    · rename_i hx
      rw [List.filterMap_cons_none hx, ih]

end FirstAgain

/-! ### Selections -/

lemma sublist_of_pick {s : Source} {ts picked : List Task} (h : s.pick ts = .ok picked) :
    picked.Sublist ts := by
  unfold pick at h
  split at h
  · cases h
  · split at h
    · cases h
    · cases h
      exact (List.take_sublist _ _).trans (List.drop_sublist _ _)
  · dsimp only at h
    split at h
    · cases h
      exact List.filter_sublist
    · cases h
  · cases h
    exact .refl _

lemma select_eq_ok {s : Source} {ts picked : List Task} (h : s.select ts = .ok picked) :
    ((identify s.split 0 ts).filterMap (·.id)).Nodup ∧ picked.Sublist (identify s.split 0 ts) := by
  unfold select at h
  dsimp only at h
  split at h
  · cases h
  · rename_i hrep
    exact ⟨(firstRepeated?_eq_none_iff.1 hrep).1, sublist_of_pick h⟩

lemma map_id_eq {ts : List Task} (h : ∀ t ∈ ts, t.id.isSome) :
    ts.map (·.id) = (ts.filterMap (·.id)).map some := by
  induction ts with
  | nil => rfl
  | cons t ts ih =>
    obtain ⟨id, hid⟩ := Option.isSome_iff_exists.1 (h t (by simp))
    rw [List.filterMap_cons_some hid, List.map_cons, List.map_cons, hid]
    rw [ih fun u hu => h u (by simp [hu])]

lemma isSome_of_mem_identify {split : Split} {n : Nat} {ts : List Task} {t : Task}
    (h : t ∈ identify split n ts) : t.id.isSome := by
  obtain ⟨u, -, id, rfl⟩ := mem_identify h
  rfl

/-- Selected tasks have pairwise distinct ids. -/
theorem ids_of_select {s : Source} {ts picked : List Task} (h : s.select ts = .ok picked) :
    ∃ ids : List String, picked.map (·.id) = ids.map some ∧ ids.Nodup := by
  obtain ⟨hnodup, hsub⟩ := select_eq_ok h
  exact ⟨picked.filterMap (·.id),
    map_id_eq fun t ht => isSome_of_mem_identify (hsub.subset ht),
    (hsub.filterMap _).nodup hnodup⟩

lemma mem_of_select {s : Source} {ts picked : List Task} (h : s.select ts = .ok picked)
    {t : Task} (ht : t ∈ picked) : ∃ u ∈ ts, t.actions = u.actions := by
  obtain ⟨u, hu, id, rfl⟩ := mem_identify ((select_eq_ok h).2.subset ht)
  exact ⟨u, hu, rfl⟩

end TaskCorpus.Source
