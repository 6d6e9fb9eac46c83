import TaskCorpus.Proofs.Corpus.Faithful

/-!
Runs that are rejected before they write.

`Rejects` says which error a run has to end with when its settings are refused or one of its
sources cannot be prepared: that of the settings, or else of the first such source. A run that is
rejected ends with that error and has changed nothing, at no point and however it is executed.
-/

namespace TaskCorpus.Corpus

open Store (Desk Script)
open Store.Script (Attains Ensures)

variable {here : Location} {st : Store here} {ctx : Context} {s : Source}

/-! ### Sources that fail -/

/-- A source of which nothing can be prepared, with the error of the step that fails: its file is
not loaded, nothing is selected, or a selected task cannot be used. -/
inductive Fails (st : Store here) (ctx : Context) (s : Source) : Error → Prop
  | loading {error : Error} (h : (TaskFile.load s.path).on st = .error error) : Fails st ctx s error
  | selecting {loaded : List Task} {flaw : SettingFlaw}
      (hl : (TaskFile.load s.path).on st = .ok loaded) (h : s.select loaded = .error flaw) :
      Fails st ctx s (.setting flaw)
  | building {loaded selected : List Task} {error : Error}
      (hl : (TaskFile.load s.path).on st = .ok loaded) (hs : s.select loaded = .ok selected)
      (h : Record.buildAll selected s.split ctx = .error error) : Fails st ctx s error

lemma run_eq_on {α : Type} {p : Program α}
    (h : p.run.Attains (fun e => e = .ofStore st) (fun _ e => e = .ofStore st) (.ofStore st)) :
    p.run.run (.ofStore st) = (p.on st, .ofStore st) := by
  refine Prod.ext rfl ?_
  have hrun := Ensures.run h
  split at hrun <;> exact hrun

lemma on_bind {α β : Type} {p : Program α} {f : α → Program β}
    (h : p.run.Attains (fun e => e = .ofStore st) (fun _ e => e = .ofStore st) (.ofStore st)) :
    (p >>= f).on st = p.on st >>= fun a => (f a).on st := by
  rw [Program.on, ExceptT.run_bind, Script.run_bind, run_eq_on h]
  cases p.on st <;> rfl

lemma on_prepare : (prepare ctx s).on st =
    match (TaskFile.load s.path).on st with
    | .error e => .error e
    | .ok loaded =>
      match s.select loaded with
      | .error flaw => .error (.setting flaw)
      | .ok selected => (Record.buildAll selected s.split ctx).map fun rs => (s.split, rs) := by
  rw [prepare, on_bind ((TaskFile.attains_load s.path).mono (fun _ h => h) fun _ _ h => h.1)]
  rcases (TaskFile.load s.path).on st with e | loaded
  · rfl
  · change (Program.ofExcept (recordsOf ctx s loaded) >>= _).on st = _
    dsimp only
    rw [recordsOf]
    rcases s.select loaded with flaw | selected
    · rfl
    · dsimp only
      rcases Record.buildAll selected s.split ctx with e | rs <;> rfl

lemma fails_iff {error : Error} : Fails st ctx s error ↔ (prepare ctx s).on st = .error error := by
  rw [on_prepare]
  constructor
  · rintro (h | ⟨hl, h⟩ | ⟨hl, hs, h⟩)
    · rw [h]
    · simp only [hl, h]
    · simp only [hl, hs, h]
      rfl
  · intro h
    split at h
    · rename_i e hload
      cases h
      exact .loading hload
    · rename_i loaded hload
      split at h
      · rename_i flaw hselect
        cases h
        exact .selecting hload hselect
      · rename_i selected hselect
        rcases hbuild : Record.buildAll selected s.split ctx with e | rs
        · rw [hbuild] at h
          cases h
          exact .building hload hselect hbuild
        · rw [hbuild] at h
          cases h

/-! ### The first failure -/

inductive FirstFailure (st : Store here) (ctx : Context) : List Source → Error → Prop
  | here {s : Source} {ss : List Source} {error : Error} (h : Fails st ctx s error) :
      FirstFailure st ctx (s :: ss) error
  | later {s : Source} {ss : List Source} {error : Error} (hs : ∀ e, ¬ Fails st ctx s e)
      (h : FirstFailure st ctx ss error) : FirstFailure st ctx (s :: ss) error

variable {ss : List Source} {error : Error}

lemma exists_firstFailure (h : ∃ s ∈ ss, ∃ e, Fails st ctx s e) :
    ∃ e, FirstFailure st ctx ss e := by
  induction ss with
  | nil => simp at h
  | cons s ss ih =>
    by_cases hs : ∃ e, Fails st ctx s e
    · obtain ⟨e, he⟩ := hs
      exact ⟨e, .here he⟩
    · obtain ⟨x, hx, hfails⟩ := h
      rcases List.mem_cons.1 hx with rfl | hx
      · exact absurd hfails hs
      · obtain ⟨e, he⟩ := ih ⟨x, hx, hfails⟩
        exact ⟨e, .later (fun e he => hs ⟨e, he⟩) he⟩

lemma on_prepareAll_cons : (prepareAll ctx (s :: ss)).on st =
    (prepare ctx s).on st >>= fun p => (prepareAll ctx ss).on st >>= fun ps => .ok (p :: ps) := by
  rw [prepareAll, on_bind ((attains_prepare ctx s).mono (fun _ h => h) fun _ _ h => h.1)]
  congr
  funext p
  rw [on_bind ((attains_prepareAll ctx ss).mono (fun _ h => h) fun _ _ h => h.1)]
  rfl

lemma on_prepareAll_of_firstFailure (h : FirstFailure st ctx ss error) :
    (prepareAll ctx ss).on st = .error error := by
  induction h with
  | here h =>
    rw [on_prepareAll_cons, fails_iff.1 h]
    rfl
  | @later s ss e hs _ ih =>
    rcases hp : (prepare ctx s).on st with e | p
    · exact absurd (fails_iff.2 hp) (hs e)
    · rw [on_prepareAll_cons, hp, ih]
      rfl

/-! ### Runs -/

/-- The error that a run has to end with: that of its settings, or else that of the first source
which fails. -/
inductive Rejects (st : Store here) (s : Settings) : Error → Prop
  | settings {flaw : SettingFlaw} (h : s.check = .error flaw) : Rejects st s (.setting flaw)
  | source {error : Error} (hc : s.check = .ok ()) (h : FirstFailure st s.context s.splits error) :
      Rejects st s error

variable {codec : Table.Codec} {settings : Settings} {home : Path}

lemma exists_rejects (h : (∃ flaw, settings.check = .error flaw) ∨
      ∃ s ∈ settings.splits, ∃ e, Fails st settings.context s e) :
    ∃ error, Rejects st settings error := by
  rcases hc : settings.check with flaw | ⟨⟩
  · exact ⟨_, .settings hc⟩
  · rcases h with ⟨flaw, hflaw⟩ | h
    · rw [hc] at hflaw
      cases hflaw
    · obtain ⟨e, he⟩ := exists_firstFailure h
      exact ⟨e, .source hc he⟩

lemma on_run_of_rejects (h : Rejects st settings error) :
    (run codec home settings).on st = .error error := by
  cases h with
  | settings h =>
    unfold run
    rw [h]
    rfl
  | source hc h =>
    unfold run
    rw [hc]
    change (prepareAll settings.context settings.splits >>= _).on st = _
    rw [on_bind ((attains_prepareAll _ _).mono (fun _ h => h) fun _ _ h => h.1),
      on_prepareAll_of_firstFailure h]
    rfl

lemma Rejects.unique {e e' : Error} (h : Rejects st settings e) (h' : Rejects st settings e') :
    e = e' := by
  have hrun : (run .text ⟨""⟩ settings).on st = .error e := on_run_of_rejects h
  rw [on_run_of_rejects h'] at hrun
  exact (Except.error.inj hrun).symm

lemma not_fails_of_isPrepared {p : Split × List Record} (h : IsPrepared st ctx s p) :
    ¬ Fails st ctx s error := by
  obtain ⟨loaded, selected, hload, hselect, hbuild⟩ := h.records
  rw [fails_iff, on_prepare]
  simp only [hload, hselect, hbuild, Except.map, reduceCtorEq, not_false_eq_true]

lemma not_prepares_of_firstFailure {ps : List (Split × List Record)}
    (h : FirstFailure st ctx ss error) : ¬ List.Forall₂ (IsPrepared st ctx) ss ps := by
  induction h generalizing ps with
  | here h =>
    rintro (_ | ⟨hp, -⟩)
    exact not_fails_of_isPrepared hp h
  | later _ _ ih =>
    rintro (_ | ⟨-, hps⟩)
    exact ih hps

/-- However a run that is rejected is executed, it changes nothing and gives no summary. -/
lemma attains_run_of_rejects (h : Rejects st settings error) :
    (run codec home settings).run.Attains (fun e => e = .ofStore st) (fun _ _ => False)
      (.ofStore st) := by
  cases h with
  | settings h =>
    unfold run
    rw [h]
    rfl
  | source hc h =>
    exact attains_run rfl fun ps hps _ _ => absurd hps (not_prepares_of_firstFailure h)

/-- **All or nothing**: where the settings are refused, or some source is not loaded, selected or
built, a run ends with the error of the settings or else of the first such source, and the store
is as it was. No execution of the run, whatever is refused in it, ever comes to another store. -/
theorem run_rejected (codec : Table.Codec) (home : Path)
    (h : (∃ flaw, settings.check = .error flaw) ∨
      ∃ s ∈ settings.splits, ∃ e, Fails st settings.context s e) :
    ∃ error, Rejects st settings error ∧
      (run codec home settings).run.run (.ofStore st) = (.error error, .ofStore st) ∧
      ∀ p e, (run codec home settings).run.Reaches (.ofStore st) p e → e = .ofStore st := by
  obtain ⟨error, hrejects⟩ := exists_rejects h
  have hkeeps : ∀ p e,
      (run codec home settings).run.Reaches (.ofStore st) p e → e = .ofStore st := by
    intro p e hreach
    rcases Ensures.always (attains_run_of_rejects hrejects) hreach with he | ⟨r, -, he⟩
    · exact he
    · cases r with
      | error f => exact he
      | ok summary => exact he.elim
  refine ⟨error, hrejects, Prod.ext (on_run_of_rejects hrejects) ?_, hkeeps⟩
  exact hkeeps _ _ (Script.reaches_run _ _)

/-! ### A corpus with a spoilt task -/

/-- Two tasks, of which the second has an action that no tool has. -/
def spoiltTasks : String :=
  "[[null,\"ann\",\"hello\",[[\"respond\"]]],[null,\"bob\",\"hi\",[[\"fly\"]]]]"

def spoiltStore : Store ["work"] :=
  ((sampleStore.set ["work", "spoilt.json"] (.file spoiltTasks.toUTF8)).set ["work", "out"]
    .directory).set ["work", "out", "train.parquet"] (.file "earlier".toUTF8)

def spoiltSettings : Settings :=
  { sampleSettings (some ⟨"copy"⟩) with
    splits := [.whole .train ⟨"tasks.json"⟩, .whole .test ⟨"spoilt.json"⟩] }

/-- What is wrong with the spoilt tasks. -/
def spoiltError : Error := .task "test-1" (.action 0 (.unknown "fly"))

lemma fails_spoilt : Fails spoiltStore spoiltSettings.context (.whole .test ⟨"spoilt.json"⟩)
    spoiltError := by
  refine fails_iff.2 ?_
  decide +kernel

lemma rejects_spoilt : Rejects spoiltStore spoiltSettings spoiltError := by
  refine .source rfl (.later (fun e he => ?_) (.here fails_spoilt))
  have hok : ((prepare spoiltSettings.context (.whole .train ⟨"tasks.json"⟩)).on
      spoiltStore).isOk = true := by decide +kernel
  rw [fails_iff.1 he] at hok
  cases hok

theorem run_rejected_sample :
    (∃ s ∈ spoiltSettings.splits, ∃ e, Fails spoiltStore spoiltSettings.context s e) ∧
    (run .text ⟨""⟩ spoiltSettings).run.run (.ofStore spoiltStore) =
      (.error spoiltError, .ofStore spoiltStore) := by
  have h : ∃ s ∈ spoiltSettings.splits, ∃ e, Fails spoiltStore spoiltSettings.context s e :=
    ⟨_, by simp [spoiltSettings], _, fails_spoilt⟩
  obtain ⟨error, hrejects, hrun, -⟩ := run_rejected .text ⟨""⟩ (.inr h)
  rw [hrejects.unique rejects_spoilt] at hrun
  exact ⟨h, hrun⟩

end TaskCorpus.Corpus
