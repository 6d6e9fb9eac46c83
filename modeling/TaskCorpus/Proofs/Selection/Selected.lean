import Mathlib.Data.List.Duplicate
import TaskCorpus.Proofs.KeyMap.Entries
import TaskCorpus.Proofs.Selection.Ids

/-!
What a source selects, and when.

`Selectable` says of the tasks of a file, once they have their ids, that a selection makes sense,
`IsSelection` which tasks are then selected, and `Refused` what is wrong otherwise. That no wanted
id is missing is found out by counting, which is right because the ids differ.
-/

namespace TaskCorpus.Source

variable {s : Source} {ts picked : List Task} {flaw : SettingFlaw}

/-- The tasks of a file with their ids: a task without one is named after its split and its
position in the file. -/
def identified (split : Split) (ts : List Task) : List Task :=
  ts.mapIdx fun i t =>
    match t.id with
    | some _ => t
    | none => { t with id := some (split.name ++ "-" ++ toString i) }

structure Selectable (s : Source) (ts : List Task) : Prop where
  distinct : (ts.map (·.id)).Nodup
  single : s.range = none ∨ s.ids = none
  inside : ∀ start stop, s.range = some (start, stop) → start ≤ stop ∧ stop ≤ ts.length
  known : ∀ ids, s.ids = some ids → ∀ id ∈ ids, ∃ t ∈ ts, t.id = some id

/-- Which tasks are selected: all of them, those at the positions of a range, or those with a
listed id, each once and in the order of the file. -/
structure IsSelection (s : Source) (ts picked : List Task) : Prop where
  whole : s.range = none → s.ids = none → picked = ts
  range : ∀ start stop, s.range = some (start, stop) →
    start + picked.length = stop ∧ ∀ i < picked.length, picked[i]? = ts[start + i]?
  ids : ∀ ids, s.ids = some ids →
    picked.Sublist ts ∧ picked.Nodup ∧ ∀ t, t ∈ picked ↔ t ∈ ts ∧ ∃ id ∈ ids, t.id = some id

inductive Refused (s : Source) (ts : List Task) : SettingFlaw → Prop
  | repeatedId {id : String} (h : List.Duplicate (some id) (ts.map (·.id))) :
      Refused s ts (.repeatedId id s.path)
  | rangeAndIds (hr : s.range ≠ none) (hi : s.ids ≠ none) : Refused s ts (.rangeAndIds s.split)
  | rangeOutside {start stop : Nat} (hr : s.range = some (start, stop))
      (h : stop < start ∨ ts.length < stop) :
      Refused s ts (.rangeOutside s.split start stop ts.length s.path)
  | unknownIds {ids missing : List String} (hi : s.ids = some ids) (hne : missing ≠ [])
      (h : ∀ id, id ∈ missing ↔ id ∈ ids ∧ ∀ t ∈ ts, t.id ≠ some id) :
      Refused s ts (.unknownIds s.split missing)

/-! ### Ids -/

lemma identify_eq (split : Split) (n : Nat) (ts : List Task) :
    identify split n ts =
      ts.mapIdx fun i t => { t with id := some (t.resolvedId split (n + i)) } := by
  induction ts generalizing n with
  | nil => rfl
  | cons t ts ih =>
    have hnext : ∀ i, n + 1 + i = n + (i + 1) := fun i => by omega
    rw [identify, ih, List.mapIdx_cons]
    simp only [hnext, Nat.add_zero]

lemma identify_zero (split : Split) (ts : List Task) :
    identify split 0 ts = identified split ts := by
  rw [identify_eq, identified]
  congr 1
  funext i t
  rcases t with ⟨_ | id, userId, instruction, actions, outputs⟩
  · simp [Task.resolvedId, Task.defaultId]
  · simp [Task.resolvedId]

lemma isSome_of_mem_identified {split : Split} {t : Task} (h : t ∈ identified split ts) :
    t.id.isSome := by
  rw [← identify_zero] at h
  exact isSome_of_mem_identify h

lemma nodup_map_id_iff (h : ∀ t ∈ ts, t.id.isSome) :
    (ts.map (·.id)).Nodup ↔ (ts.filterMap (·.id)).Nodup := by
  rw [map_id_eq h]
  exact List.nodup_map_iff (Option.some_injective _)

lemma length_filterMap_id (h : ∀ t ∈ ts, t.id.isSome) :
    (ts.filterMap (·.id)).length = ts.length := by
  have hlength := congrArg List.length (map_id_eq h)
  simpa using hlength.symm

/-- The id that is found to repeat is that of two tasks, or of a task and one seen before. -/
lemma duplicate_of_firstRepeated? {seen : List String} {id : String}
    (h : firstRepeated? seen ts = some id) : List.Duplicate id (seen ++ ts.filterMap (·.id)) := by
  obtain ⟨before, after, hids, -, hmem⟩ := firstRepeated?_eq_some_iff.1 h
  have hpos : 0 < (seen ++ before).count id := List.count_pos_iff.2 (List.mem_append.2 hmem)
  rw [hids, ← List.append_assoc, List.duplicate_iff_two_le_count, List.count_append,
    List.count_cons_self]
  omega

/-! ### Counting -/

lemma mem_distinct {ids : List String} {id : String} : id ∈ distinct ids ↔ id ∈ ids := by
  simp [distinct, KeyMap.mem_keys_ofList]

lemma nodup_distinct (ids : List String) : (distinct ids).Nodup := KeyMap.nodup_keys _

lemma length_eq_iff_subset {α : Type} {xs ys : List α} (hx : xs.Nodup) (hy : ys.Nodup)
    (h : xs ⊆ ys) : xs.length = ys.length ↔ ys ⊆ xs := by
  have hsub : xs.Subperm ys := List.subperm_of_subset hx h
  constructor
  · intro hlength
    exact (hsub.perm_of_length_le hlength.ge).symm.subset
  · intro hback
    exact Nat.le_antisymm hsub.length_le (List.subperm_of_subset hy hback).length_le

lemma isListed_iff {ids : List String} {t : Task} :
    isListed ids t = true ↔ ∃ id ∈ ids, t.id = some id := by
  rcases t with ⟨_ | id, userId, instruction, actions, outputs⟩ <;> simp [isListed]

/-- **Counting**: where the ids of tasks differ, as many tasks are found as ids are listed exactly
if every listed id is found. -/
theorem length_filter_isListed {ids : List String} (hids : ∀ t ∈ ts, t.id.isSome)
    (hnodup : (ts.filterMap (·.id)).Nodup) :
    (ts.filter (isListed ids)).length = (distinct ids).length ↔
      ∀ id ∈ ids, ∃ t ∈ ts, t.id = some id := by
  have hfound : (ts.filter (isListed ids)).Sublist ts := List.filter_sublist
  have hlength := length_filterMap_id fun t ht => hids t (hfound.subset ht)
  have hsubset : (ts.filter (isListed ids)).filterMap (·.id) ⊆ distinct ids := by
    intro id hid
    obtain ⟨t, ht, htid⟩ := List.mem_filterMap.1 hid
    obtain ⟨x, hx, htx⟩ := isListed_iff.1 (List.mem_filter.1 ht).2
    rw [htid, Option.some.injEq] at htx
    exact mem_distinct.2 (htx ▸ hx)
  rw [← hlength, length_eq_iff_subset ((hfound.filterMap _).nodup hnodup) (nodup_distinct ids)
    hsubset]
  -- among different ids, as many are found as are wanted exactly if all are found
  constructor
  · intro h id hid
    obtain ⟨t, ht, htid⟩ := List.mem_filterMap.1 (h (mem_distinct.2 hid))
    exact ⟨t, hfound.subset ht, htid⟩
  · intro h id hid
    obtain ⟨t, ht, htid⟩ := h id (mem_distinct.1 hid)
    have hlisted := isListed_iff.2 ⟨id, mem_distinct.1 hid, htid⟩
    exact List.mem_filterMap.2 ⟨t, List.mem_filter.2 ⟨ht, hlisted⟩, htid⟩

/-! ### Selecting -/

/-- The wanted ids that no selected task has. -/
def notFound (ids : List String) (ts : List Task) : List String :=
  (distinct ids).filter fun id => ! (ts.filter (isListed ids)).any fun t => t.id == some id

lemma mem_notFound {ids : List String} {id : String} :
    id ∈ notFound ids ts ↔ id ∈ ids ∧ ∀ t ∈ ts, t.id ≠ some id := by
  simp only [notFound, List.mem_filter, mem_distinct, Bool.not_eq_true', List.any_eq_false,
    beq_iff_eq, isListed_iff]
  refine and_congr_right fun hid => ⟨fun h t ht htid => h t ⟨ht, id, hid, htid⟩ htid, ?_⟩
  exact fun h t ht => h t ht.1

lemma selection_whole (hdistinct : (ts.map (·.id)).Nodup) (hr : s.range = none)
    (hi : s.ids = none) : Selectable s ts ∧ IsSelection s ts ts where
  left := ⟨hdistinct, .inl hr, by simp [hr], by simp [hi]⟩
  right := ⟨fun _ _ => rfl, by simp [hr], by simp [hi]⟩

lemma selection_range {start stop : Nat} (hdistinct : (ts.map (·.id)).Nodup)
    (hr : s.range = some (start, stop)) (hi : s.ids = none) (hle : start ≤ stop)
    (hstop : stop ≤ ts.length) :
    Selectable s ts ∧ IsSelection s ts ((ts.drop start).take (stop - start)) := by
  have hlength : ((ts.drop start).take (stop - start)).length = stop - start := by
    rw [List.length_take, List.length_drop]
    omega
  refine ⟨⟨hdistinct, .inr hi, fun a b hab => ?_, by simp [hi]⟩,
    ⟨by simp [hr], fun a b hab => ?_, by simp [hi]⟩⟩
  · cases hr.symm.trans hab
    exact ⟨hle, hstop⟩
  · cases hr.symm.trans hab
    rw [hlength]
    refine ⟨by omega, fun i hlt => ?_⟩
    rw [List.getElem?_take_of_lt hlt, List.getElem?_drop]

lemma selection_listed {ids : List String} (hdistinct : (ts.map (·.id)).Nodup)
    (hr : s.range = none) (hi : s.ids = some ids)
    (hknown : ∀ id ∈ ids, ∃ t ∈ ts, t.id = some id) :
    Selectable s ts ∧ IsSelection s ts (ts.filter (isListed ids)) := by
  refine ⟨⟨hdistinct, .inl hr, by simp [hr], fun ids' hids' => ?_⟩,
    ⟨by simp [hi], by simp [hr], fun ids' hids' => ?_⟩⟩
  · cases hi.symm.trans hids'
    exact hknown
  · cases hi.symm.trans hids'
    refine ⟨List.filter_sublist, hdistinct.of_map.filter _, fun t => ?_⟩
    rw [List.mem_filter, isListed_iff]

lemma pick_eq_ok (hids : ∀ t ∈ ts, t.id.isSome) (hnodup : (ts.filterMap (·.id)).Nodup)
    (h : s.pick ts = .ok picked) : Selectable s ts ∧ IsSelection s ts picked := by
  have hdistinct := (nodup_map_id_iff hids).2 hnodup
  unfold pick at h
  split at h
  · cases h
  · rename_i start stop hr hi
    split at h
    · cases h
    · rename_i hin
      cases h
      rw [not_or, Nat.not_lt, Nat.not_lt] at hin
      exact selection_range hdistinct hr hi hin.1 hin.2
  · rename_i ids hr hi
    dsimp only at h
    split at h
    · rename_i hcount
      cases h
      exact selection_listed hdistinct hr hi ((length_filter_isListed hids hnodup).1 hcount)
    · cases h
  · rename_i hr hi
    cases h
    exact selection_whole hdistinct hr hi

lemma pick_eq_error (hids : ∀ t ∈ ts, t.id.isSome) (hnodup : (ts.filterMap (·.id)).Nodup)
    (h : s.pick ts = .error flaw) : Refused s ts flaw := by
  unfold pick at h
  split at h
  · rename_i hr hi
    cases h
    exact .rangeAndIds (by simp [hr]) (by simp [hi])
  · rename_i start stop hr hi
    split at h
    · rename_i hout
      cases h
      exact .rangeOutside hr hout
    · cases h
  · rename_i ids hr hi
    dsimp only at h
    split at h
    · cases h
    · rename_i hcount
      cases h
      refine .unknownIds hi ?_ fun id => mem_notFound
      rw [length_filter_isListed hids hnodup] at hcount
      push Not at hcount
      obtain ⟨id, hid, hmissing⟩ := hcount
      exact List.ne_nil_of_mem (mem_notFound.2 ⟨hid, hmissing⟩)
  · cases h

lemma Refused.not_selectable (h : Refused s ts flaw) : ¬ Selectable s ts := by
  intro hs
  cases h with
  | repeatedId h => exact List.nodup_iff_forall_not_duplicate.1 hs.distinct _ h
  | rangeAndIds hr hi =>
    rcases hs.single with h | h
    · exact hr h
    · exact hi h
  | rangeOutside hr h =>
    obtain ⟨hle, hlength⟩ := hs.inside _ _ hr
    omega
  | @unknownIds ids missing hi hne h =>
    obtain ⟨id, hid⟩ := List.exists_mem_of_ne_nil missing hne
    obtain ⟨hlisted, hunknown⟩ := (h id).1 hid
    obtain ⟨t, ht, htid⟩ := hs.known ids hi id hlisted
    exact hunknown t ht htid

/-- **Selection**: a source selects exactly if that makes sense for the tasks of its file with
their ids. Then it selects what it should, and otherwise it says what is wrong. -/
theorem select_spec (s : Source) (ts : List Task) :
    ((∃ picked, s.select ts = .ok picked) ↔ Selectable s (identified s.split ts)) ∧
    (∀ picked, s.select ts = .ok picked → IsSelection s (identified s.split ts) picked) ∧
    (∀ flaw, s.select ts = .error flaw → Refused s (identified s.split ts) flaw) := by
  have hids : ∀ t ∈ identified s.split ts, t.id.isSome := fun t => isSome_of_mem_identified
  have hok : ∀ picked, s.select ts = .ok picked →
      Selectable s (identified s.split ts) ∧ IsSelection s (identified s.split ts) picked := by
    intro picked h
    have hnodup := (select_eq_ok h).1
    unfold select at h
    dsimp only at h
    rw [identify_zero] at hnodup h
    split at h
    · cases h
    · exact pick_eq_ok hids hnodup h
  have herror : ∀ flaw, s.select ts = .error flaw → Refused s (identified s.split ts) flaw := by
    intro flaw h
    unfold select at h
    dsimp only at h
    rw [identify_zero] at h
    split at h
    · rename_i id hrep
      cases h
      refine .repeatedId ?_
      have hdup := duplicate_of_firstRepeated? hrep
      rw [List.nil_append, List.duplicate_iff_sublist] at hdup
      rw [map_id_eq hids, List.duplicate_iff_sublist]
      exact hdup.map some
    · rename_i hrep
      exact pick_eq_error hids (firstRepeated?_eq_none_iff.1 hrep).1 h
  refine ⟨⟨fun ⟨picked, h⟩ => (hok picked h).1, fun hs => ?_⟩, fun p h => (hok p h).2, herror⟩
  rcases h : s.select ts with flaw | picked
  · -- what makes sense is not refused
    exact absurd hs (herror flaw h).not_selectable
  · exact ⟨picked, rfl⟩

end TaskCorpus.Source
