import TaskCorpus.CommandLine.Run
import TaskCorpus.Proofs.Launch.Layers

/-!
When a launch starts its plan, and when it misses inputs.

A launch looks for the inputs, which are where the other commands make them. The settings may hand
other files to the trainer under the keys of the inputs, and these are not looked for. `Vouched`
says that a plan is started only if all files are there that it hands over under these keys, and
that none is missed if all are there; that is so exactly if the inputs that have been replaced and
what replaces them are there together, or nothing would be started anyway.
-/

namespace TaskCorpus.CommandLine

open Store (Desk Script)

variable {here : Location} {home : Path} {c : Configuration} {d : Desk here} {st : Store here}

/-! ### What is missed -/

lemma run_missing (ps : List Path) (d : Desk here) :
    (missing ps).run d = (ps.filter fun p => (d.store.look p).isNone, d) := by
  induction ps with
  | nil => rfl
  | cons p ps ih =>
    rw [missing, Script.run_bind, Script.run_bind, Script.run_perform, Store.Operation.run, ih,
      Script.run_pure, List.filter_cons]
    cases d.store.look p <;> rfl

lemma message_noProgram_ne (lost : List Path) :
    Launch.Flaw.message .noProgram ≠ Launch.Flaw.message (.missingInputs lost) := by
  have hmissing : Launch.Flaw.message (.missingInputs lost) = "Trainer inputs not found: " ++
      String.intercalate ", " (lost.map (·.text)) ++
      ". Run `retailctl preprocess` and `retailctl tool-config` first" := rfl
  have hT : "Trainer inputs not found: ".toList.head? = some 'T' := by decide
  have hl : (Launch.Flaw.message .noProgram).toList.head? = some 'l' := by decide
  intro heq
  rw [heq, hmissing, String.toList_append, String.toList_append, List.append_assoc,
    List.head?_append, hT, Option.some_or] at hl
  exact absurd hl (by decide)

lemma ending_launch (home : Path) (c : Configuration) (d : Desk here) :
    ((launch home c false).run d).1.ending =
      match c.launch.plan? (launchInputs home c.corpus) with
      | none => .failure (.ofLaunch .noProgram)
      | some plan =>
        match (launchInputs home c.corpus).paths.filter fun p => (d.store.look p).isNone with
        | [] => .start plan
        | lost => .failure (.ofLaunch (.missingInputs lost)) := by
  rw [launch]
  generalize launchInputs home c.corpus = inputs
  cases c.launch.plan? inputs with
  | none => rfl
  | some plan =>
    simp only [Bool.false_eq_true, if_false, Script.run_bind, run_missing]
    cases inputs.paths.filter fun p => (d.store.look p).isNone <;> rfl

/-- All inputs of a launch are there. -/
def InputsThere (home : Path) (c : Configuration) (st : Store here) : Prop :=
  ∀ p ∈ (launchInputs home c.corpus).paths, (st.look p).isSome

lemma inputsThere_iff : InputsThere home c d.store ↔
    (launchInputs home c.corpus).paths.filter (fun p => (d.store.look p).isNone) = [] := by
  simp only [InputsThere, List.filter_eq_nil_iff, Option.isNone_iff_eq_none,
    Option.isSome_iff_ne_none, ne_eq]

lemma ending_of_blank (h : Text.Blank c.launch.program) :
    ((launch home c false).run d).1.ending = .failure (.ofLaunch .noProgram) := by
  rw [ending_launch, Launch.Settings.plan?_eq_none_iff.2 h]

lemma ending_of_there (h : ¬ Text.Blank c.launch.program) (hthere : InputsThere home c d.store) :
    ∃ plan, ((launch home c false).run d).1.ending = .start plan := by
  obtain ⟨plan, hplan⟩ := Option.ne_none_iff_exists'.1
    (mt (Launch.Settings.plan?_eq_none_iff (i := launchInputs home c.corpus)).1 h)
  exact ⟨plan, by rw [ending_launch, hplan, inputsThere_iff.1 hthere]⟩

lemma ending_of_missing (h : ¬ Text.Blank c.launch.program)
    (hmissing : ¬ InputsThere home c d.store) : ∃ lost,
      ((launch home c false).run d).1.ending = .failure (.ofLaunch (.missingInputs lost)) := by
  obtain ⟨plan, hplan⟩ := Option.ne_none_iff_exists'.1
    (mt (Launch.Settings.plan?_eq_none_iff (i := launchInputs home c.corpus)).1 h)
  obtain ⟨p, ps, hlost⟩ := List.exists_cons_of_ne_nil (mt inputsThere_iff.2 hmissing)
  exact ⟨p :: ps, by rw [ending_launch, hplan, hlost]⟩

/-! ### What is handed over -/

def handed (home : Path) (c : Configuration) : KeyMap String Launch.Value :=
  c.launch.effectiveOverrides (launchInputs home c.corpus)

/-- All files that are handed over under the keys of the inputs are there. -/
def HandedThere (home : Path) (c : Configuration) (st : Store here) : Prop :=
  ∀ key ∈ Launch.inputKeys, ∀ text, (handed home c).find? key = some (.string text) →
    (st.look ⟨text⟩).isSome

/-- There is a file to hand over under every key of the inputs, and it is there. -/
def HandedFiles (home : Path) (c : Configuration) (st : Store here) : Prop :=
  ∀ key ∈ Launch.inputKeys, ∃ text, (handed home c).find? key = some (.string text) ∧
    (st.look ⟨text⟩).isSome

/-- A launch starts a plan only if all files are there that it hands over under the keys of the
inputs, and misses no inputs if all of them are there. -/
structure Vouched (home : Path) (c : Configuration) (st : Store here) : Prop where
  started : ∀ plan, ((launch home c false).run (.ofStore st)).1.ending = .start plan →
    HandedThere home c st
  refused : HandedFiles home c st → ∀ lost,
    ((launch home c false).run (.ofStore st)).1.ending ≠ .failure (.ofLaunch (.missingInputs lost))

/-- A launch can be relied on if what it looks for is there only together with what it hands over,
and the other way round. -/
lemma vouched_iff_there : Vouched home c st ↔ Text.Blank c.launch.program ∨
    (InputsThere home c st → HandedThere home c st) ∧
      (HandedFiles home c st → InputsThere home c st) := by
  by_cases hblank : Text.Blank c.launch.program
  · -- a blank program is refused before any file is looked for
    have hending : ((launch home c false).run (.ofStore st)).1.ending =
        .failure (.ofLaunch .noProgram) := ending_of_blank hblank
    refine iff_of_true ⟨fun plan h => ?_, fun _ lost h => ?_⟩ (.inl hblank)
    · rw [hending] at h
      cases h
    · rw [hending] at h
      exact message_noProgram_ne lost (congrArg Failure.message (Ending.failure.inj h))
  · constructor
    · intro hv
      refine .inr ⟨fun hthere => ?_, fun hfiles => by_contra fun hmissing => ?_⟩
      · obtain ⟨plan, hplan⟩ := ending_of_there (d := .ofStore st) hblank hthere
        exact hv.started plan hplan
      · obtain ⟨lost, hlost⟩ := ending_of_missing (d := .ofStore st) hblank hmissing
        exact hv.refused hfiles lost hlost
    · rintro (h | ⟨hstarted, hrefused⟩)
      · exact absurd h hblank
      · refine ⟨fun plan h => hstarted (by_contra fun hmissing => ?_), fun hfiles lost h => ?_⟩
        · obtain ⟨lost, hlost⟩ := ending_of_missing (d := .ofStore st) hblank hmissing
          rw [hlost] at h
          cases h
        · obtain ⟨plan, hplan⟩ := ending_of_there (d := .ofStore st) hblank (hrefused hfiles)
          rw [hplan] at h
          cases h

/-- An input whose key the settings leave alone. -/
def Kept (home : Path) (c : Configuration) (p : Path) : Prop :=
  ∃ key, (launchInputs home c.corpus).file? key = some p ∧ c.launch.overrides.find? key = none

/-- An input, and what the settings put in its place. -/
def Replaced (home : Path) (c : Configuration) (p : Path) (v : Launch.Value) : Prop :=
  ∃ key, (launchInputs home c.corpus).file? key = some p ∧ c.launch.overrides.find? key = some v

lemma find?_handed {key : String} {p : Path} (h : (launchInputs home c.corpus).file? key = some p) :
    (handed home c).find? key =
      some ((c.launch.overrides.find? key).getD (.string p.text)) := by
  rw [handed, Launch.Settings.find?_effectiveOverrides, Launch.Settings.overrideOf?, h]
  cases c.launch.overrides.find? key <;> rfl

lemma forall_inputs_iff {P : Path → Prop} :
    (∀ p ∈ (launchInputs home c.corpus).paths, P p) ↔
      (∀ p, Kept home c p → P p) ∧ ∀ p v, Replaced home c p v → P p := by
  simp only [Launch.Inputs.mem_paths_iff]
  constructor
  · exact fun h => ⟨fun p ⟨key, hkey, _⟩ => h p ⟨key, hkey⟩,
      fun p _ ⟨key, hkey, _⟩ => h p ⟨key, hkey⟩⟩
  · rintro ⟨hkept, hreplaced⟩ p ⟨key, hkey⟩
    cases hset : c.launch.overrides.find? key with
    | none => exact hkept p ⟨key, hkey, hset⟩
    | some v => exact hreplaced p v ⟨key, hkey, hset⟩

/-- What is handed over is the inputs that are kept, and what the others are replaced by. -/
lemma forall_handed_iff (home : Path) (c : Configuration) {P : Launch.Value → Prop} :
    (∀ key ∈ Launch.inputKeys, ∀ v, (handed home c).find? key = some v → P v) ↔
      (∀ p, Kept home c p → P (.string p.text)) ∧ ∀ p v, Replaced home c p v → P v := by
  simp only [Launch.Inputs.mem_inputKeys_iff (launchInputs home c.corpus)]
  constructor
  · refine fun h => ⟨fun p ⟨key, hkey, hset⟩ => ?_, fun p v ⟨key, hkey, hset⟩ => ?_⟩
    · exact h key ⟨p, hkey⟩ _ (by rw [find?_handed hkey, hset, Option.getD_none])
    · exact h key ⟨p, hkey⟩ _ (by rw [find?_handed hkey, hset, Option.getD_some])
  · rintro ⟨hkept, hreplaced⟩ key ⟨p, hkey⟩ v hv
    rw [find?_handed hkey, Option.some.injEq] at hv
    subst hv
    cases hset : c.launch.overrides.find? key with
    | none => exact hkept p ⟨key, hkey, hset⟩
    | some v => exact hreplaced p v ⟨key, hkey, hset⟩

lemma handedThere_iff : HandedThere home c st ↔
    (∀ p, Kept home c p → (st.look p).isSome) ∧
      ∀ p text, Replaced home c p (.string text) → (st.look ⟨text⟩).isSome := by
  have hiff := forall_handed_iff home c
    (P := fun v => ∀ text, v = .string text → (st.look ⟨text⟩).isSome)
  constructor
  · intro h
    obtain ⟨hkept, hreplaced⟩ := hiff.1 fun key hkey v hv text htext =>
      h key hkey text (hv.trans (congrArg some htext))
    exact ⟨fun p hp => hkept p hp p.text rfl, fun p text hp => hreplaced p _ hp text rfl⟩
  · rintro ⟨hkept, hreplaced⟩ key hkey text hv
    refine hiff.2 ⟨fun p hp x hx => ?_, fun p v hp x hx => ?_⟩ key hkey _ hv text rfl
    · cases hx
      exact hkept p hp
    · subst hx
      exact hreplaced p x hp

lemma handedFiles_iff : HandedFiles home c st ↔
    (∀ p, Kept home c p → (st.look p).isSome) ∧
      ∀ p v, Replaced home c p v → ∃ text, v = .string text ∧ (st.look ⟨text⟩).isSome := by
  have hiff := forall_handed_iff home c
    (P := fun v => ∃ text, v = .string text ∧ (st.look ⟨text⟩).isSome)
  constructor
  · intro h
    obtain ⟨hkept, hreplaced⟩ := hiff.1 fun key hkey v hv => by
      obtain ⟨text, htext, hthere⟩ := h key hkey
      exact ⟨text, Option.some.inj (hv.symm.trans htext), hthere⟩
    refine ⟨fun p hp => ?_, hreplaced⟩
    obtain ⟨text, htext, hthere⟩ := hkept p hp
    cases htext
    exact hthere
  · rintro ⟨hkept, hreplaced⟩ key hkey
    obtain ⟨p, hp⟩ := (Launch.Inputs.mem_inputKeys_iff _).1 hkey
    have hv : (handed home c).find? key = _ := find?_handed hp
    obtain ⟨text, htext, hthere⟩ :=
      hiff.2 ⟨fun p hp => ⟨p.text, rfl, hkept p hp⟩, hreplaced⟩ key hkey _ hv
    exact ⟨text, hv.trans (congrArg some htext), hthere⟩

/-- **Launches** can be relied on exactly if there is nothing to start, or an input is missing that
the settings have not replaced, or the replaced inputs and what replaces them vouch for each other:
if the ones are all there, then so are the texts among the others, and if the others are texts and
all there, then so are the ones. -/
theorem vouched_iff (home : Path) (c : Configuration) (st : Store here) :
    Vouched home c st ↔ Text.Blank c.launch.program ∨
      (∃ p, Kept home c p ∧ st.look p = none) ∨
      ((∀ p v, Replaced home c p v → (st.look p).isSome) →
        ∀ p text, Replaced home c p (.string text) → (st.look ⟨text⟩).isSome) ∧
      ((∀ p v, Replaced home c p v → ∃ text, v = .string text ∧ (st.look ⟨text⟩).isSome) →
        ∀ p v, Replaced home c p v → (st.look p).isSome) := by
  have hkept : (∃ p, Kept home c p ∧ st.look p = none) ↔
      ¬ ∀ p, Kept home c p → (st.look p).isSome := by
    simp only [not_forall, Option.not_isSome_iff_eq_none, exists_prop]
  rw [vouched_iff_there, handedThere_iff, handedFiles_iff, InputsThere, forall_inputs_iff, hkept]
  tauto

/-- The settings replace the training file by one of their own. -/
def replacingSample : Configuration where
  corpus := { Settings.standard with outputDir := ⟨"out"⟩ }
  launch := { Launch.Settings.standard with
    program := "true"
    overrides := .ofList [("data.train_files", .string "mine.parquet")] }

/-- A store with some files, all of them empty, in the directory `out` and beside it. -/
def storeOf (inside beside : List String) : Store ["work"] :=
  ⟨.ofList ((["work", "out"], .directory) ::
    inside.map (fun name => (["work", "out", name], .file .empty)) ++
      beside.map fun name => (["work", name], .file .empty))⟩

lemma replaced_sample :
    Replaced ⟨""⟩ replacingSample ⟨"out/train.parquet"⟩ (.string "mine.parquet") :=
  ⟨"data.train_files", rfl, rfl⟩

lemma eq_of_replaced_sample {p : Path} {v : Launch.Value} (h : Replaced ⟨""⟩ replacingSample p v) :
    p = ⟨"out/train.parquet"⟩ ∧ v = .string "mine.parquet" := by
  obtain ⟨key, hfile, hset⟩ := h
  have hentries : [("data.train_files", Launch.Value.string "mine.parquet")] =
      replacingSample.launch.overrides.entries := rfl
  have hmem := KeyMap.mem_entries_iff.2 hset
  rw [← hentries, List.mem_singleton, Prod.mk.injEq] at hmem
  obtain ⟨rfl, rfl⟩ := hmem
  exact ⟨(Option.some.inj hfile).symm, rfl⟩

/-- The training file and what replaces it are both there. -/
theorem vouched_iff_sample : Vouched ⟨""⟩ replacingSample
    (storeOf ["train.parquet"] ["mine.parquet"]) := by
  refine (vouched_iff _ _ _).2 (.inr (.inr ⟨fun _ p text h => ?_, fun _ p v h => ?_⟩))
  · obtain ⟨-, htext⟩ := eq_of_replaced_sample h
    cases htext
    decide +kernel
  · obtain ⟨rfl, -⟩ := eq_of_replaced_sample h
    decide +kernel

/-- A launch starts its plan with a training file that is not there, in place of one that is; and
where it is the other way round it misses the one that the plan does not name. -/
theorem not_vouched_sample :
    ¬ Vouched ⟨""⟩ replacingSample (storeOf
        ["train.parquet", "test.parquet", "tool_config.yaml", "interaction_config.yaml"] []) ∧
      ¬ Vouched ⟨""⟩ replacingSample (storeOf
        ["test.parquet", "tool_config.yaml", "interaction_config.yaml"] ["mine.parquet"]) := by
  have hblank : ¬ Text.Blank replacingSample.launch.program := by decide
  rw [vouched_iff_there, vouched_iff_there, or_iff_right hblank, or_iff_right hblank]
  constructor
  · rintro ⟨hstarted, -⟩
    have hthere := handedThere_iff.1 (hstarted (by unfold InputsThere; decide +kernel))
    exact absurd (hthere.2 _ _ replaced_sample) (by decide +kernel)
  · rintro ⟨-, hrefused⟩
    have hfiles : HandedFiles ⟨""⟩ replacingSample (storeOf
        ["test.parquet", "tool_config.yaml", "interaction_config.yaml"] ["mine.parquet"]) := by
      simp only [HandedFiles, Launch.inputKeys, List.forall_mem_cons, List.not_mem_nil,
        false_imp_iff, implies_true, and_true]
      exact ⟨⟨_, find?_handed rfl, by decide +kernel⟩, ⟨_, find?_handed rfl, by decide +kernel⟩,
        ⟨_, find?_handed rfl, by decide +kernel⟩, ⟨_, find?_handed rfl, by decide +kernel⟩⟩
    exact absurd (hrefused hfiles) (by unfold InputsThere; decide +kernel)

end TaskCorpus.CommandLine
