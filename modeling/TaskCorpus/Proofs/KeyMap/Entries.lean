import Mathlib.Data.List.Sort
import TaskCorpus.KeyMap

/-!
Maps and what they look up.

The entries of a map are what it finds, so maps that find the same are the same map; to set a key
to the value that it has changes nothing. Entries that are inserted one after the other lie over
those of the map, and a later one over an earlier one of its key.
-/

namespace TaskCorpus

section Entries

variable {κ ν : Type} [Key κ] {k : κ} {v : ν} {es : List (κ × ν)}

lemma Key.ne_of_lt {a b : κ} (h : a < b) : a ≠ b := by
  rintro rfl
  exact Key.irrefl a h

lemma Key.eq_of_mem_iff {ks ls : List κ} (hk : ks.Pairwise (· < ·)) (hl : ls.Pairwise (· < ·))
    (h : ∀ k, k ∈ ks ↔ k ∈ ls) : ks = ls := by
  have : Std.Irrefl (α := κ) (· < ·) := ⟨Key.irrefl⟩
  have : Std.Antisymm (α := κ) (· < ·) :=
    ⟨fun a b hab hba => absurd (Key.trans _ _ _ hab hba) (Key.irrefl a)⟩
  exact hk.eq_of_mem_iff hl h

lemma findEntry_eq_none_iff : findEntry k es = none ↔ ∀ v, (k, v) ∉ es := by
  induction es with
  | nil => simp [findEntry]
  | cons e es ih =>
    obtain ⟨l, w⟩ := e
    rw [findEntry]
    by_cases hk : l = k
    · subst hk
      simp only [if_true, reduceCtorEq, false_iff, not_forall, not_not]
      exact ⟨w, List.mem_cons_self⟩
    · simp [hk, Ne.symm hk, ih]

lemma findEntry_eq_some_of_nodup (h : (es.map (·.1)).Nodup) :
    findEntry k es = some v ↔ (k, v) ∈ es := by
  induction es with
  | nil => simp [findEntry]
  | cons e es ih =>
    obtain ⟨l, w⟩ := e
    obtain ⟨hnew, hes⟩ := List.nodup_cons.1 h
    rw [findEntry]
    by_cases hl : l = k
    · subst hl
      have hnot : (l, v) ∉ es := fun hmem => hnew (List.mem_map.2 ⟨_, hmem, rfl⟩)
      simp [hnot, eq_comm]
    · simp [hl, Ne.symm hl, ih hes]

lemma Increasing.pairwise_keys (h : Increasing es) : (es.map (·.1)).Pairwise (· < ·) :=
  List.pairwise_map.2 h

lemma Increasing.nodup (h : Increasing es) : (es.map (·.1)).Nodup :=
  h.pairwise_keys.imp Key.ne_of_lt

lemma findEntry_eq_some_iff (h : Increasing es) : findEntry k es = some v ↔ (k, v) ∈ es :=
  findEntry_eq_some_of_nodup h.nodup

lemma findEntry_map {μ : Type} (f : ν → μ) (k : κ) (es : List (κ × ν)) :
    findEntry k (es.map fun e => (e.1, f e.2)) = (findEntry k es).map f := by
  induction es with
  | nil => rfl
  | cons e es ih =>
    rw [List.map_cons, findEntry, findEntry, ih]
    split <;> rfl

lemma Increasing.mem_before_iff {before after : List (κ × ν)} {e : κ × ν}
    (h : Increasing (before ++ (k, v) :: after)) (he : e ∈ before ++ (k, v) :: after) :
    e ∈ before ↔ e.1 < k := by
  obtain ⟨-, hrest, hlt⟩ := List.pairwise_append.1 h
  constructor
  · intro hbefore
    exact hlt e hbefore (k, v) List.mem_cons_self
  · intro hk
    rcases List.mem_append.1 he with hbefore | hlater
    · exact hbefore
    · rcases List.mem_cons.1 hlater with rfl | hafter
      · exact absurd hk (Key.irrefl k)
      · have hgt := (List.pairwise_cons.1 hrest).1 e hafter
        exact absurd (Key.trans _ _ _ hk hgt) (Key.irrefl e.1)

end Entries

namespace KeyMap

variable {κ ν : Type} [Key κ] {m n : KeyMap κ ν} {k : κ} {v : ν} {es : List (κ × ν)}

theorem mem_entries_iff : (k, v) ∈ m.entries ↔ m.find? k = some v :=
  (findEntry_eq_some_iff m.increasing).symm

lemma mem_keys_iff : k ∈ m.keys ↔ ∃ v, m.find? k = some v := by
  simp only [keys, List.mem_map, Prod.exists, exists_eq_right, mem_entries_iff, exists_and_right]

lemma nodup_keys (m : KeyMap κ ν) : m.keys.Nodup := m.increasing.nodup

lemma filter_entries (h : m.find? k = some v) : m.entries.filter (·.1 = k) = [(k, v)] := by
  have hmem : (k, v) ∈ m.entries.filter (·.1 = k) :=
    List.mem_filter.2 ⟨mem_entries_iff.2 h, by simp⟩
  have hsame : ∀ e ∈ m.entries.filter (·.1 = k), e.1 = k := fun e he => by
    simpa using (List.mem_filter.1 he).2
  have hlt : Increasing (m.entries.filter (·.1 = k)) := List.Pairwise.filter _ m.increasing
  rcases hes : m.entries.filter (·.1 = k) with _ | ⟨a, _ | ⟨b, rest⟩⟩
  · rw [hes] at hmem
    cases hmem
  · rw [hes] at hmem
    rw [hes, List.mem_singleton.1 hmem]
  · -- two entries of one key cannot stand in increasing order
    rw [hes] at hlt hsame
    have hab : a.1 < b.1 := (List.pairwise_cons.1 hlt).1 b (by simp)
    have heq : a.1 = b.1 := (hsame a (by simp)).trans (hsame b (by simp)).symm
    exact absurd heq (Key.ne_of_lt hab)

/-- **Extensionality**: maps that find the same are the same. -/
theorem ext_find? (h : ∀ k, m.find? k = n.find? k) : m = n := by
  have hmem : ∀ e, e ∈ m.entries ↔ e ∈ n.entries := fun e => by
    rw [mem_entries_iff (k := e.1) (v := e.2), mem_entries_iff, h]
  let r : κ × ν → κ × ν → Prop := fun a b => a.1 < b.1
  have : Std.Irrefl r := ⟨fun a => Key.irrefl a.1⟩
  have : Std.Antisymm r := ⟨fun a b hab hba => absurd (Key.trans _ _ _ hab hba) (Key.irrefl a.1)⟩
  have hentries : m.entries = n.entries :=
    List.Pairwise.eq_of_mem_iff (r := r) m.increasing n.increasing hmem
  cases m
  cases n
  cases hentries
  rfl

lemma insert_eq_self (h : m.find? k = some v) : m.insert k v = m := by
  refine ext_find? fun k' => ?_
  rw [find?_insert]
  split
  · rename_i hk
    rw [← hk, h]
  · rfl

lemma insert_comm {l : κ} {w : ν} (h : k ≠ l) :
    (m.insert k v).insert l w = (m.insert l w).insert k v := by
  refine ext_find? fun k' => ?_
  simp only [find?_insert]
  by_cases hl : l = k'
  · rw [if_pos hl, if_pos hl, if_neg (hl ▸ h)]
  · rw [if_neg hl, if_neg hl]

lemma insert_erase_eq_self (h : m.find? k = some v) : (m.erase k).insert k v = m := by
  refine ext_find? fun k' => ?_
  rw [find?_insert, find?_erase]
  split
  · rename_i hk
    rw [← hk, h]
  · rfl

/-! ### Layers -/

lemma insertAll_cons (m : KeyMap κ ν) (e : κ × ν) (es : List (κ × ν)) :
    m.insertAll (e :: es) = (m.insert e.1 e.2).insertAll es := rfl

lemma find?_insertAll_of_notMem (m : KeyMap κ ν) (h : k ∉ es.map (·.1)) :
    (m.insertAll es).find? k = m.find? k := by
  induction es generalizing m with
  | nil => rfl
  | cons e es ih =>
    rw [List.map_cons, List.mem_cons, not_or] at h
    have hne : e.1 ≠ k := fun he => h.1 he.symm
    rw [insertAll_cons, ih _ h.2, find?_insert, if_neg hne]

lemma find?_insertAll_of_mem (m : KeyMap κ ν) (hes : (es.map (·.1)).Nodup) (h : (k, v) ∈ es) :
    (m.insertAll es).find? k = some v := by
  induction es generalizing m with
  | nil => cases h
  | cons e es ih =>
    obtain ⟨hnew, hnodup⟩ := List.nodup_cons.1 hes
    rw [insertAll_cons]
    rcases List.mem_cons.1 h with rfl | h
    · rw [find?_insertAll_of_notMem _ hnew, find?_insert, if_pos rfl]
    · exact ih _ hnodup h

lemma find?_insertAll (m : KeyMap κ ν) (hes : (es.map (·.1)).Nodup) :
    (m.insertAll es).find? k = (findEntry k es).or (m.find? k) := by
  rcases hk : findEntry k es with _ | v
  · refine find?_insertAll_of_notMem m fun hmem => ?_
    obtain ⟨e, he, rfl⟩ := List.mem_map.1 hmem
    exact findEntry_eq_none_iff.1 hk e.2 he
  · exact find?_insertAll_of_mem m hes ((findEntry_eq_some_of_nodup hes).1 hk)

lemma find?_insertAll_entries (m n : KeyMap κ ν) :
    (m.insertAll n.entries).find? k = (n.find? k).or (m.find? k) :=
  find?_insertAll m n.nodup_keys

lemma mem_keys_insertAll : k ∈ (m.insertAll es).keys ↔ k ∈ es.map (·.1) ∨ k ∈ m.keys := by
  induction es generalizing m with
  | nil => simp [insertAll]
  | cons e es ih =>
    have hinsert : k ∈ (m.insert e.1 e.2).keys ↔ e.1 = k ∨ k ∈ m.keys := by
      simp only [mem_keys_iff, find?_insert]
      by_cases hk : e.1 = k <;> simp [hk]
    rw [insertAll_cons, ih, hinsert, List.map_cons, List.mem_cons, or_left_comm, eq_comm (a := k),
      or_assoc]

lemma entries_ofList (h : Increasing es) : (ofList es).entries = es := by
  have hmap : ofList es = ⟨es, h⟩ := ext_find? fun k => by
    rw [ofList, find?_insertAll _ h.nodup, find?_empty, Option.or_none]
    rfl
  rw [hmap]

lemma mem_keys_ofList : k ∈ (ofList es).keys ↔ k ∈ es.map (·.1) := by
  have hempty : k ∉ (empty : KeyMap κ ν).keys := by simp [keys, empty]
  rw [ofList, mem_keys_insertAll, or_iff_left hempty]

end KeyMap

end TaskCorpus
