import TaskCorpus.Proofs.Selection.Selected
import TaskCorpus.Proofs.Text.Bytes

/-!
Selections by ids, and ids that no task has.

Of a list of ids only its members count: neither their order nor how often they are listed changes
what is selected or what is said. `Unknown` says which ids are reported if some are not found; they
are found out from what has been selected, and there is one list of that kind.
-/

namespace TaskCorpus.Source

variable {split : Split} {path : Path} {ids ids' missing : List String} {ts : List Task}
  {flaw : SettingFlaw}

def listed (split : Split) (path : Path) (ids : List String) : Source :=
  ⟨split, path, none, some ids⟩

/-- The listed ids that no task has, each once and in the order of their bytes; there are some. -/
structure Unknown (ids : List String) (ts : List Task) (missing : List String) : Prop where
  nonempty : missing ≠ []
  increasing : missing.Pairwise Text.Before
  mem_iff : ∀ id, id ∈ missing ↔ id ∈ ids ∧ ∀ t ∈ ts, t.id ≠ some id

/-! ### Only members count -/

lemma pairwise_distinct (ids : List String) : (distinct ids).Pairwise (· < ·) :=
  (KeyMap.increasing _).pairwise_keys

lemma distinct_congr (h : ∀ id, id ∈ ids' ↔ id ∈ ids) : distinct ids' = distinct ids :=
  Key.eq_of_mem_iff (pairwise_distinct ids') (pairwise_distinct ids) fun id => by
    rw [mem_distinct, mem_distinct, h]

lemma isListed_congr (h : ∀ id, id ∈ ids' ↔ id ∈ ids) : isListed ids' = isListed ids := by
  funext t
  rw [Bool.eq_iff_iff, isListed_iff, isListed_iff]
  simp only [h]

lemma pick_listed_congr (h : ∀ id, id ∈ ids' ↔ id ∈ ids) (ts : List Task) :
    (listed split path ids').pick ts = (listed split path ids).pick ts := by
  simp only [pick, listed, distinct_congr h, isListed_congr h]

lemma select_listed_congr (h : ∀ id, id ∈ ids' ↔ id ∈ ids) (ts : List Task) :
    (listed split path ids').select ts = (listed split path ids).select ts := by
  simp only [select, pick_listed_congr h]
  rfl

/-! ### What is reported -/

lemma select_cases (s : Source) (ts : List Task) :
    (¬ ((identified s.split ts).map (·.id)).Nodup ∧
      ∃ id, s.select ts = .error (.repeatedId id s.path)) ∨
    ((identified s.split ts).map (·.id)).Nodup ∧ s.select ts = s.pick (identified s.split ts) := by
  rw [nodup_map_id_iff fun t => isSome_of_mem_identified, select, identify_zero]
  rcases hrep : firstRepeated? [] (identified s.split ts) with _ | id
  · exact .inr ⟨(firstRepeated?_eq_none_iff.1 hrep).1, rfl⟩
  · refine .inl ⟨fun hnodup => ?_, id, rfl⟩
    rw [firstRepeated?_eq_none_iff.2 ⟨hnodup, fun id _ => List.not_mem_nil⟩] at hrep
    cases hrep

lemma select_eq_pick {s : Source} (h : ((identified s.split ts).map (·.id)).Nodup) :
    s.select ts = s.pick (identified s.split ts) := by
  rcases select_cases s ts with ⟨hrep, -⟩ | ⟨-, hpick⟩
  · exact absurd h hrep
  · exact hpick

lemma pick_listed (split : Split) (path : Path) (ids : List String) (ts : List Task) :
    (listed split path ids).pick ts =
      if (ts.filter (isListed ids)).length = (distinct ids).length then
        .ok (ts.filter (isListed ids))
      else .error (.unknownIds split (notFound ids ts)) := rfl

lemma Unknown.eq_notFound (h : Unknown ids ts missing) : missing = notFound ids ts := by
  refine Key.eq_of_mem_iff (h.increasing.imp Text.before_iff_lt.1)
    ((pairwise_distinct ids).filter _) fun id => ?_
  rw [h.mem_iff, mem_notFound]

lemma unknown_notFound {id : String} (hid : id ∈ ids) (h : ∀ t ∈ ts, t.id ≠ some id) :
    Unknown ids ts (notFound ids ts) where
  nonempty := List.ne_nil_of_mem (mem_notFound.2 ⟨hid, h⟩)
  increasing := ((pairwise_distinct ids).filter _).imp Text.before_iff_lt.2
  mem_iff _ := mem_notFound

lemma pick_listed_eq_error_iff (hids : ∀ t ∈ ts, t.id.isSome)
    (hnodup : (ts.map (·.id)).Nodup) :
    (listed split path ids).pick ts = .error flaw ↔
      ∃ missing, flaw = .unknownIds split missing ∧ Unknown ids ts missing := by
  have hcount : (ts.filter (isListed ids)).length = (distinct ids).length ↔
      ∀ id ∈ ids, ∃ t ∈ ts, t.id = some id :=
    length_filter_isListed hids ((nodup_map_id_iff hids).1 hnodup)
  rw [pick_listed]
  split
  · -- as many tasks as ids: none of the ids is unknown
    rename_i hfound
    refine iff_of_false (by simp) ?_
    rintro ⟨missing, -, hunknown⟩
    obtain ⟨id, hid⟩ := List.exists_mem_of_ne_nil _ hunknown.nonempty
    obtain ⟨hlisted, hnone⟩ := (hunknown.mem_iff id).1 hid
    obtain ⟨t, ht, htid⟩ := hcount.1 hfound id hlisted
    exact hnone t ht htid
  · rename_i hlost
    rw [hcount] at hlost
    push Not at hlost
    obtain ⟨id, hid, hnone⟩ := hlost
    constructor
    · intro h
      cases h
      exact ⟨_, rfl, unknown_notFound hid hnone⟩
    · rintro ⟨missing, rfl, hunknown⟩
      rw [hunknown.eq_notFound]

lemma message_unknownIds (split : Split) (missing : List String) :
    (Error.setting (.unknownIds split missing)).message = "Configuration error: split `" ++
      split.name ++ "` selects unknown task ids: " ++ String.intercalate ", " missing := by
  have hopening : "Configuration error: split `" = "Configuration error: " ++ "split `" := by simp
  have hmessage : (Error.setting (.unknownIds split missing)).message = "Configuration error: " ++
      ("split `" ++ split.name ++ "` selects unknown task ids: " ++
        String.intercalate ", " missing) := rfl
  simp only [hmessage, hopening, String.append_assoc]

/-- **Selection by ids**: what comes of it, with the text of the flaw, depends only on which ids
are listed. If the ids of the tasks differ it fails for unknown ids only, which are named each once
and in the order of their bytes. -/
theorem select_listed (split : Split) (path : Path) (ids : List String) (ts : List Task) :
    (∀ ids', (∀ id, id ∈ ids' ↔ id ∈ ids) →
      (listed split path ids').select ts = (listed split path ids).select ts) ∧
    (∀ split' missing, (listed split path ids).select ts = .error (.unknownIds split' missing) ↔
      split' = split ∧ ((identified split ts).map (·.id)).Nodup ∧
        Unknown ids (identified split ts) missing) ∧
    (((identified split ts).map (·.id)).Nodup → ∀ flaw,
      (listed split path ids).select ts = .error flaw → ∃ missing,
        Unknown ids (identified split ts) missing ∧
        (Error.setting flaw).message = "Configuration error: split `" ++ split.name ++
          "` selects unknown task ids: " ++ String.intercalate ", " missing) := by
  have hids : ∀ t ∈ identified split ts, t.id.isSome := fun t => isSome_of_mem_identified
  refine ⟨fun ids' h => select_listed_congr h ts, fun split' missing => ?_, fun hnodup flaw h => ?_⟩
  · rcases select_cases (listed split path ids) ts with ⟨hrep, id, hflaw⟩ | ⟨hnodup, hpick⟩
    · rw [hflaw]
      exact iff_of_false (by simp) fun h => hrep h.2.1
    · rw [hpick]
      refine (pick_listed_eq_error_iff hids hnodup).trans ⟨?_, ?_⟩
      · rintro ⟨missing, hflaw, hunknown⟩
        cases hflaw
        exact ⟨rfl, hnodup, hunknown⟩
      · rintro ⟨rfl, -, hunknown⟩
        exact ⟨missing, rfl, hunknown⟩
  · rw [select_eq_pick (s := listed split path ids) hnodup] at h
    obtain ⟨missing, rfl, hunknown⟩ := (pick_listed_eq_error_iff hids hnodup).1 h
    exact ⟨missing, hunknown, message_unknownIds split missing⟩

/-- Of four listed ids one is that of a task, and another one is listed twice. -/
theorem select_listed_sample :
    let ts : List Task := [⟨none, "u1", "Ask", [], []⟩, ⟨some "b", "u2", "Ask", [], []⟩]
    let s := listed .train ⟨"tasks.jsonl"⟩ ["z", "b", "y", "z"]
    (listed .train ⟨"tasks.jsonl"⟩ ["y", "z", "b"]).select ts = s.select ts ∧
    s.select ts = .error (.unknownIds .train ["y", "z"]) ∧
    (Error.setting (.unknownIds .train ["y", "z"])).message =
      "Configuration error: split `train` selects unknown task ids: y, z" := by
  intro ts s
  have hids : (identified .train ts).map (·.id) = [some "train-0", some "b"] := by decide +kernel
  have hnodup : ((identified .train ts).map (·.id)).Nodup := by
    rw [hids]
    simp
  have hunknown : Unknown ["z", "b", "y", "z"] (identified .train ts) ["y", "z"] := by
    have hbefore : Text.Before "y" "z" := Text.before_iff_lt.2 (by decide)
    refine ⟨List.cons_ne_nil _ _, List.pairwise_pair.2 hbefore, fun id => ?_⟩
    have hnone : (∀ t ∈ identified .train ts, t.id ≠ some id) ↔
        some id ∉ (identified .train ts).map (·.id) := by simp
    simp only [hnone, hids, List.mem_cons, List.not_mem_nil, Option.some.injEq]
    grind
  obtain ⟨hcongr, hfails, htext⟩ := select_listed .train ⟨"tasks.jsonl"⟩ ["z", "b", "y", "z"] ts
  have hflaw : s.select ts = .error (.unknownIds .train ["y", "z"]) :=
    (hfails .train ["y", "z"]).2 ⟨rfl, hnodup, hunknown⟩
  refine ⟨hcongr ["y", "z", "b"] fun id => ?_, hflaw, ?_⟩
  · simp only [List.mem_cons, List.not_mem_nil]
    grind
  · obtain ⟨missing, hmissing, hmessage⟩ := htext hnodup _ hflaw
    rw [hmissing.eq_notFound, ← hunknown.eq_notFound] at hmessage
    rw [hmessage]
    decide +kernel

end TaskCorpus.Source
