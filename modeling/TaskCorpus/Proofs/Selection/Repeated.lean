import Mathlib.Order.WellFounded
import TaskCorpus.Proofs.Decimal.Integer
import TaskCorpus.Proofs.Selection.Composed

/-!
Ids that repeat.

`idAt` is the id that the task at a position of a file gets. `FirstRepeated` says which id is
reported: that of the smallest position with the id of an earlier one. A default id tells its split
and its position, so no two of them are the same; `Clash` says how tasks come to have one id
nevertheless.
-/

namespace TaskCorpus.Source

variable {split : Split} {ts : List Task} {s : Source} {id : String} {path : Path}

/-- The id of the task at a position: its own one, or else its split and the position. -/
def idAt (split : Split) (ts : List Task) (i : Fin ts.length) : String :=
  match (ts.get i).id with
  | some id => id
  | none => split.name ++ "-" ++ toString i.val

/-- The task at a position gets the id of an earlier one. -/
def Repeats (split : Split) (ts : List Task) (j : Fin ts.length) : Prop :=
  ∃ i < j, idAt split ts i = idAt split ts j

def FirstRepeated (split : Split) (ts : List Task) (id : String) : Prop :=
  ∃ j, Repeats split ts j ∧ (∀ k < j, ¬ Repeats split ts k) ∧ idAt split ts j = id

inductive Clash (split : Split) (ts : List Task) : Prop
  | own {i j : Fin ts.length} {id : String} (hne : i ≠ j) (hi : (ts.get i).id = some id)
      (hj : (ts.get j).id = some id) : Clash split ts
  | default {i j : Fin ts.length} (hi : (ts.get i).id = some (split.name ++ "-" ++ toString j.val))
      (hj : (ts.get j).id = none) : Clash split ts

/-! ### Default ids -/

lemma defaultId_train_ne_test (m n : Nat) :
    Task.defaultId .train m ≠ Task.defaultId .test n := by
  intro h
  have hchars := congrArg (fun s => s.toList.take 2) h
  simp [Task.defaultId, Split.name] at hchars

lemma defaultId_inj {split split' : Split} {m n : Nat} :
    Task.defaultId split m = Task.defaultId split' n ↔ split = split' ∧ m = n := by
  refine ⟨fun h => ?_, fun ⟨hsplit, hmn⟩ => by rw [hsplit, hmn]⟩
  have hsplit : split = split' := by
    cases split <;> cases split'
    · rfl
    · exact absurd h (defaultId_train_ne_test m n)
    · exact absurd h.symm (defaultId_train_ne_test n m)
    · rfl
  subst hsplit
  rw [Task.defaultId, Task.defaultId, String.append_right_inj] at h
  exact ⟨rfl, Decimal.toString_inj h⟩

lemma idAt_of_some {i : Fin ts.length} (h : (ts.get i).id = some id) : idAt split ts i = id := by
  rw [idAt, h]

lemma idAt_of_none {i : Fin ts.length} (h : (ts.get i).id = none) :
    idAt split ts i = Task.defaultId split i := by
  rw [idAt, h]
  rfl

lemma clash_iff : Clash split ts ↔ ∃ i j, i < j ∧ idAt split ts i = idAt split ts j := by
  -- it does not matter which of the two comes first
  have hordered : (∃ i j, i < j ∧ idAt split ts i = idAt split ts j) ↔
      ∃ i j, i ≠ j ∧ idAt split ts i = idAt split ts j := by
    refine ⟨fun ⟨i, j, hij, h⟩ => ⟨i, j, hij.ne, h⟩, fun ⟨i, j, hij, h⟩ => ?_⟩
    rcases lt_or_gt_of_ne hij with hlt | hgt
    · exact ⟨i, j, hlt, h⟩
    · exact ⟨j, i, hgt, h.symm⟩
  rw [hordered]
  constructor
  · rintro (⟨hne, hi, hj⟩ | ⟨hi, hj⟩)
    · exact ⟨_, _, hne, (idAt_of_some hi).trans (idAt_of_some hj).symm⟩
    · refine ⟨_, _, ?_, (idAt_of_some hi).trans (idAt_of_none hj).symm⟩
      rintro rfl
      rw [hj] at hi
      cases hi
  · rintro ⟨i, j, hne, h⟩
    cases hi : (ts.get i).id with
    | some id =>
      rw [idAt_of_some hi] at h
      cases hj : (ts.get j).id with
      | some id' => exact .own hne hi (by rw [hj, h, idAt_of_some hj])
      | none => exact .default (by rw [hi, h, idAt_of_none hj]; rfl) hj
    | none =>
      rw [idAt_of_none hi] at h
      cases hj : (ts.get j).id with
      | some id => exact .default (by rw [hj, ← h.trans (idAt_of_some hj)]; rfl) hi
      | none =>
        rw [idAt_of_none hj, defaultId_inj] at h
        exact absurd (Fin.ext h.2) hne

/-! ### Positions -/

lemma mem_before_iff {n : Nat} {before after : List (Fin n)} {i j : Fin n}
    (h : List.finRange n = before ++ j :: after) : i ∈ before ↔ i < j := by
  have hlt := List.pairwise_lt_finRange n
  rw [h] at hlt
  obtain ⟨-, hafter, hbefore⟩ := List.pairwise_append.1 hlt
  constructor
  · exact fun hi => hbefore i hi j (by simp)
  · intro hij
    have hi := List.mem_finRange i
    rw [h, List.mem_append, List.mem_cons] at hi
    rcases hi with hi | rfl | hi
    · exact hi
    · exact absurd hij (lt_irrefl i)
    · exact absurd hij ((List.pairwise_cons.1 hafter).1 i hi).asymm

/-- Of ids by positions the first one that repeats is that of the smallest position with the id of
an earlier one. -/
lemma firstAgain_map_finRange {n : Nat} {f : Fin n → String} :
    FirstAgain [] ((List.finRange n).map f) id ↔
      ∃ j, (∃ i < j, f i = f j) ∧ (∀ k < j, ¬ ∃ i < k, f i = f k) ∧ f j = id := by
  constructor
  · rintro ⟨before, after, hsplit, ⟨hnodup, -⟩, hid⟩
    obtain ⟨smaller, rest, hfin, rfl, hrest⟩ := List.map_eq_append_iff.1 hsplit
    obtain ⟨j, larger, rfl, rfl, -⟩ := List.map_eq_cons_iff.1 hrest
    refine ⟨j, ?_, fun k hk ⟨i, hik, heq⟩ => ?_, rfl⟩
    · obtain ⟨i, hi, heq⟩ := List.mem_map.1 (hid.resolve_left List.not_mem_nil)
      exact ⟨i, (mem_before_iff hfin).1 hi, heq⟩
    · have hi := (mem_before_iff hfin).2 (hik.trans hk)
      exact hik.ne (List.inj_on_of_nodup_map hnodup hi ((mem_before_iff hfin).2 hk) heq)
  · rintro ⟨j, ⟨i, hij, heq⟩, hfirst, rfl⟩
    obtain ⟨smaller, larger, hfin⟩ := List.append_of_mem (List.mem_finRange j)
    have hnodup : smaller.Nodup :=
      (List.nodup_finRange n).sublist (hfin ▸ List.sublist_append_left _ _)
    refine ⟨smaller.map f, larger.map f, by simp [hfin], ⟨?_, by simp⟩,
      .inr (List.mem_map.2 ⟨i, (mem_before_iff hfin).2 hij, heq⟩)⟩
    -- two smaller positions with one id would repeat earlier
    refine hnodup.map_on fun a ha b hb hab => ?_
    rcases lt_trichotomy a b with hlt | rfl | hgt
    · exact absurd ⟨a, hlt, hab⟩ (hfirst b ((mem_before_iff hfin).1 hb))
    · rfl
    · exact absurd ⟨b, hgt, hab.symm⟩ (hfirst a ((mem_before_iff hfin).1 ha))

/-! ### Selecting -/

lemma idAt_eq (split : Split) (ts : List Task) (i : Fin ts.length) :
    idAt split ts i = (ts.get i).resolvedId split i := by
  unfold idAt
  split
  · rename_i id hid
    rw [Task.resolvedId, hid, Option.getD_some]
  · rename_i hid
    rw [Task.resolvedId, hid, Option.getD_none]
    rfl

lemma filterMap_identified (split : Split) (ts : List Task) :
    (identified split ts).filterMap (·.id) = (List.finRange ts.length).map (idAt split ts) := by
  have hnamed : (fun t : Task => t.id) ∘ named split ts = some ∘ idAt split ts := by
    funext i
    rw [Function.comp_apply, Function.comp_apply, idAt_eq]
    rfl
  rw [identified_eq_map_named, List.filterMap_map, hnamed, List.filterMap_eq_map]

lemma pick_ne_repeatedId : s.pick ts ≠ .error (.repeatedId id path) := by
  unfold pick
  split
  · simp
  · split <;> simp
  · dsimp only
    split <;> simp
  · simp

lemma select_eq_repeatedId_iff : s.select ts = .error (.repeatedId id path) ↔
    path = s.path ∧ FirstRepeated s.split ts id := by
  have hscan : firstRepeated? [] (identified s.split ts) = some id ↔
      FirstRepeated s.split ts id := by
    rw [firstRepeated?_eq_some_iff, filterMap_identified, firstAgain_map_finRange]
    rfl
  rw [← hscan, select, identify_zero]
  cases firstRepeated? [] (identified s.split ts) with
  | none => simp [pick_ne_repeatedId]
  | some x => simp [eq_comm, and_comm]

lemma exists_firstRepeated_iff :
    (∃ id, FirstRepeated split ts id) ↔ ∃ i j, i < j ∧ idAt split ts i = idAt split ts j := by
  constructor
  · rintro ⟨id, j, ⟨i, hij, heq⟩, -⟩
    exact ⟨i, j, hij, heq⟩
  · rintro ⟨i, j, hij, heq⟩
    obtain ⟨k, hk, hmin⟩ := WellFounded.has_min (wellFounded_lt (α := Fin ts.length))
      {j | Repeats split ts j} ⟨j, i, hij, heq⟩
    exact ⟨_, k, hk, fun m hm hrep => hmin m hrep hm, rfl⟩

lemma message_repeatedId (id : String) (path : Path) :
    (Error.setting (.repeatedId id path)).message = "Configuration error: task id `" ++ id ++
      "` appears more than once in " ++ path.text := by
  have hopening : "Configuration error: task id `" = "Configuration error: " ++ "task id `" := by
    simp
  have hmessage : (Error.setting (.repeatedId id path)).message = "Configuration error: " ++
      ("task id `" ++ id ++ "` appears more than once in " ++ path.text) := rfl
  simp only [hmessage, hopening, String.append_assoc]

/-- **Repeated ids**: whatever a source selects, it is refused exactly if two positions of the file
get the same id, and then for the id of the smallest position with the id of an earlier one. Default
ids are all different, so it takes two tasks with one id of their own, or a task whose own id is the
default one of a position without. -/
theorem select_repeated (s : Source) (ts : List Task) :
    (∀ id path, s.select ts = .error (.repeatedId id path) ↔
      path = s.path ∧ FirstRepeated s.split ts id) ∧
    ((∃ id path, s.select ts = .error (.repeatedId id path)) ↔
      ∃ i j, i < j ∧ idAt s.split ts i = idAt s.split ts j) ∧
    (∀ split split' m n,
      Task.defaultId split m = Task.defaultId split' n ↔ split = split' ∧ m = n) ∧
    ((∃ id path, s.select ts = .error (.repeatedId id path)) ↔ Clash s.split ts) ∧
    ∀ id path, (Error.setting (.repeatedId id path)).message = "Configuration error: task id `" ++
      id ++ "` appears more than once in " ++ path.text := by
  have hfails : (∃ id path, s.select ts = .error (.repeatedId id path)) ↔
      ∃ i j, i < j ∧ idAt s.split ts i = idAt s.split ts j := by
    simp only [select_eq_repeatedId_iff, exists_eq_left]
    exact exists_firstRepeated_iff
  exact ⟨fun id path => select_eq_repeatedId_iff, hfails, fun _ _ _ _ => defaultId_inj,
    hfails.trans clash_iff.symm, message_repeatedId⟩

/-- The second of four tasks has the default id of the third one, and the fourth repeats an id too.
Only the last one is selected, by a range and by its id. -/
example : (Source.mk .train ⟨"tasks.jsonl"⟩ (some (3, 4)) (some ["a"])).select
    [⟨some "a", "u1", "Ask", [], []⟩, ⟨some "train-2", "u2", "Ask", [], []⟩,
      ⟨none, "u3", "Ask", [], []⟩, ⟨some "a", "u4", "Ask", [], []⟩] =
    .error (.repeatedId "train-2" ⟨"tasks.jsonl"⟩) := by rfl

end TaskCorpus.Source
