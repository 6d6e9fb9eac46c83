import TaskCorpus.Proofs.Selection.Listed

/-!
Selections of one file put side by side.

The tasks of a file have their ids before any of them is selected, so every selection takes tasks
from one list (`named` says what stands at its positions). Hence adjacent ranges make up the range
of both, the ids of what a range selects select the same, and what has been selected stays as it is.
-/

namespace TaskCorpus.Source

variable {split : Split} {path : Path} {ids : List String} {ts picked : List Task} {s : Source}

def ranged (split : Split) (path : Path) (start stop : Nat) : Source :=
  ⟨split, path, some (start, stop), none⟩

/-- The task at a position of a file with its id. -/
def named (split : Split) (ts : List Task) (i : Fin ts.length) : Task :=
  { ts[i] with id := some (ts[i].resolvedId split i) }

/-! ### Positions -/

lemma identified_eq_map_named (split : Split) (ts : List Task) :
    identified split ts = (List.finRange ts.length).map (named split ts) := by
  rw [← identify_zero, identify_eq]
  refine List.ext_getElem (by simp) fun i hi hi' => ?_
  simp [named]

lemma length_identified (split : Split) (ts : List Task) :
    (identified split ts).length = ts.length := by
  rw [identified_eq_map_named, List.length_map, List.length_finRange]

/-- What is selected stands at increasing positions of the file and is named after them. -/
lemma positions_of_select (h : s.select ts = .ok picked) :
    ∃ positions : List (Fin ts.length), positions.Pairwise (· < ·) ∧
      picked = positions.map (named s.split ts) := by
  have hsub := (select_eq_ok h).2
  rw [identify_zero, identified_eq_map_named] at hsub
  obtain ⟨positions, hpositions, hpicked⟩ := List.sublist_map_iff.1 hsub
  exact ⟨positions, (List.pairwise_lt_finRange ts.length).sublist hpositions, hpicked⟩

/-! ### Ranges -/

lemma pick_ranged {start stop : Nat} (hle : start ≤ stop) (hstop : stop ≤ ts.length) :
    (ranged split path start stop).pick ts = .ok ((ts.drop start).take (stop - start)) := by
  rw [pick, ranged]
  exact if_neg (by omega)

lemma take_drop_append {α : Type} (xs : List α) {a b c : Nat} (hab : a ≤ b) (hbc : b ≤ c) :
    (xs.drop a).take (b - a) ++ (xs.drop b).take (c - b) = (xs.drop a).take (c - a) := by
  have hlength : c - a = (b - a) + (c - b) := by omega
  have hmiddle : a + (b - a) = b := by omega
  rw [hlength, List.take_add, List.drop_drop, hmiddle]

/-! ### The ids of what is selected -/

lemma filter_eq_of_sublist {α : Type} {p : α → Bool} {xs ys : List α} (hsub : xs.Sublist ys)
    (hys : ys.Nodup) (hp : ∀ y ∈ ys, p y = true ↔ y ∈ xs) : ys.filter p = xs := by
  have hfilter : (ys.filter p).Sublist ys := List.filter_sublist
  refine (hys.perm_iff_eq_of_sublist hfilter hsub).1 ?_
  refine (List.perm_ext_iff_of_nodup (hfilter.nodup hys) (hsub.nodup hys)).2 fun y => ?_
  rw [List.mem_filter]
  exact ⟨fun h => (hp y h.1).1 h.2, fun h => ⟨hsub.subset h, (hp y (hsub.subset h)).2 h⟩⟩

lemma pick_listed_of_sublist (hids : ∀ t ∈ ts, t.id.isSome) (hnodup : (ts.map (·.id)).Nodup)
    (hsub : picked.Sublist ts) (h : ∀ id, id ∈ ids ↔ ∃ t ∈ picked, t.id = some id) :
    (listed split path ids).pick ts = .ok picked := by
  have hknown : ∀ id ∈ ids, ∃ t ∈ ts, t.id = some id := fun id hid => by
    obtain ⟨t, ht, htid⟩ := (h id).1 hid
    exact ⟨t, hsub.subset ht, htid⟩
  have hmem : ∀ t ∈ ts, isListed ids t = true ↔ t ∈ picked := fun t ht => by
    rw [isListed_iff]
    constructor
    · rintro ⟨id, hid, htid⟩
      obtain ⟨u, hu, huid⟩ := (h id).1 hid
      have hut : u = t := List.inj_on_of_nodup_map hnodup (hsub.subset hu) ht (huid.trans htid.symm)
      exact hut ▸ hu
    · intro hpicked
      obtain ⟨id, htid⟩ := Option.isSome_iff_exists.1 (hids t ht)
      exact ⟨id, (h id).2 ⟨t, hpicked, htid⟩, htid⟩
  rw [pick_listed, filter_eq_of_sublist hsub hnodup.of_map hmem, if_pos]
  rw [← filter_eq_of_sublist hsub hnodup.of_map hmem]
  exact (length_filter_isListed hids ((nodup_map_id_iff hids).1 hnodup)).2 hknown

/-! ### Selecting again -/

lemma identified_eq_self (h : ∀ t ∈ ts, t.id.isSome) : identified split ts = ts := by
  refine List.ext_getElem (length_identified split ts) fun i hi hi' => ?_
  obtain ⟨id, hid⟩ := Option.isSome_iff_exists.1 (h _ (List.getElem_mem hi'))
  simp [identified, hid]

lemma select_whole_of_select (h : s.select ts = .ok picked) (split : Split) (path : Path) :
    (whole split path).select picked = .ok picked := by
  obtain ⟨hnodup, hsub⟩ := select_eq_ok h
  have hids : ∀ t ∈ picked, t.id.isSome := fun t ht => isSome_of_mem_identify (hsub.subset ht)
  have hself : identified split picked = picked := identified_eq_self hids
  have hpicked : ((identified split picked).map (·.id)).Nodup := by
    rw [hself, nodup_map_id_iff hids]
    exact (hsub.filterMap _).nodup hnodup
  rw [select_eq_pick (s := whole split path) hpicked]
  exact congrArg Except.ok hself

/-- **Composition**: if the ids of the tasks of a file differ, adjacent ranges select what the range
of both does, and so does any list of exactly the ids in there. Whatever is selected are tasks at
increasing positions with the ids of these, and all of it if there is nothing to select by. -/
theorem select_composes (split : Split) (path : Path) (ts : List Task) :
    (((identified split ts).map (·.id)).Nodup → ∀ a b c, a ≤ b → b ≤ c → c ≤ ts.length →
      ∃ front back both,
        (ranged split path a b).select ts = .ok front ∧
        (ranged split path b c).select ts = .ok back ∧
        (ranged split path a c).select ts = .ok both ∧
        front ++ back = both ∧
        ∀ ids, (∀ id, id ∈ ids ↔ ∃ t ∈ both, t.id = some id) →
          (listed split path ids).select ts = .ok both) ∧
    ∀ (s : Source) picked, s.split = split → s.select ts = .ok picked →
      (∃ positions : List (Fin ts.length), positions.Pairwise (· < ·) ∧
        picked = positions.map (named split ts)) ∧
      ∀ split' path', (whole split' path').select picked = .ok picked := by
  have hids : ∀ t ∈ identified split ts, t.id.isSome := fun t => isSome_of_mem_identified
  constructor
  · intro hnodup a b c hab hbc hc
    have hselect : ∀ start stop, start ≤ stop → stop ≤ ts.length →
        (ranged split path start stop).select ts =
          .ok (((identified split ts).drop start).take (stop - start)) := by
      intro start stop hle hstop
      rw [select_eq_pick (s := ranged split path start stop) hnodup]
      exact pick_ranged hle (by rwa [length_identified])
    refine ⟨_, _, _, hselect a b hab (hbc.trans hc), hselect b c hbc hc,
      hselect a c (hab.trans hbc) hc, take_drop_append _ hab hbc, fun ids h => ?_⟩
    rw [select_eq_pick (s := listed split path ids) hnodup]
    exact pick_listed_of_sublist hids hnodup
      ((List.take_sublist _ _).trans (List.drop_sublist _ _)) h
  · rintro s picked rfl h
    exact ⟨positions_of_select h, select_whole_of_select h⟩

/-- The second and the third one of three tasks, by ranges and by their ids. -/
theorem select_composes_sample :
    let ts : List Task := [⟨none, "u1", "Ask", [], []⟩, ⟨some "x", "u2", "Ask", [], []⟩,
      ⟨none, "u3", "Ask", [], []⟩]
    let path : Path := ⟨"tasks.jsonl"⟩
    let both := [named .test ts 1, named .test ts 2]
    (∃ front back, (ranged .test path 1 2).select ts = .ok front ∧
      (ranged .test path 2 3).select ts = .ok back ∧ front ++ back = both) ∧
    (listed .test path ["test-2", "x", "test-2"]).select ts = .ok both ∧
    (whole .train path).select both = .ok both := by
  intro ts path both
  obtain ⟨hranges, hselected⟩ := select_composes .test path ts
  have hboth : (ranged .test path 1 3).select ts = .ok both := by rfl
  have hnodup : ((identified .test ts).map (·.id)).Nodup := by decide +kernel
  obtain ⟨front, back, both', hfront, hback, hboth', happend, hlisted⟩ :=
    hranges hnodup 1 2 3 (by decide) (by decide) (by decide)
  obtain rfl : both = both' := Except.ok.inj (hboth.symm.trans hboth')
  refine ⟨⟨front, back, hfront, hback, happend⟩, hlisted _ fun id => ?_,
    (hselected _ both rfl hboth).2 .train path⟩
  have hids : (∃ t ∈ both, t.id = some id) ↔ some id ∈ both.map (·.id) := by simp
  have hboth : both.map (·.id) = [some "x", some "test-2"] := by decide +kernel
  simp only [hids, hboth, List.mem_cons, List.not_mem_nil, Option.some.injEq]
  grind

end TaskCorpus.Source
