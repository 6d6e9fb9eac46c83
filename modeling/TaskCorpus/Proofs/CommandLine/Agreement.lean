import TaskCorpus.Proofs.CommandLine.Launched
import TaskCorpus.Proofs.Corpus.Faithful
import TaskCorpus.Proofs.Corpus.Mirror
import TaskCorpus.Proofs.Rollout.Written

/-!
Where the commands look for each other's files.

The launch computes from the settings where its inputs are, and the commands that make them
compute it again. Once both have ended well, the inputs are the files that they report, the launch
finds all of them, and its plan names each of them unless the settings set its key.
-/

namespace TaskCorpus

open Store (Desk Script Within)
open Store.Script (Attains Ensures)

variable {here : Location} {codec : Table.Codec} {st : Store here} {d : Desk here} {home : Path}

/-! ### Split files -/

namespace Corpus

variable {dir : Path} {ps : List (Split × List Record)}

lemma file?_summaryOf {split : Split} {mirrorDir : Option Path} (h : split ∈ ps.map (·.1)) :
    ∃ p ∈ ps, p.1 = split ∧
      (summaryOf codec dir mirrorDir ps).file? split = some (fileOf codec dir p) := by
  have hsome : (ps.find? fun p => p.1 = split).isSome := by
    simpa [List.find?_isSome] using h
  obtain ⟨p, hp⟩ := Option.isSome_iff_exists.1 hsome
  refine ⟨p, List.mem_of_find?_eq_some hp, by simpa using List.find?_some hp, ?_⟩
  have hmap : (fun f : SplitFile => decide (f.split = split)) ∘ fileOf codec dir =
      fun p => decide (p.1 = split) := rfl
  rw [Summary.file?, summaryOf, List.find?_map, hmap, hp, Option.map_some]

lemma exists_read_of_copies {dataSource : String} {place : Path} {s t u : Store here}
    (hfin : Finished codec dataSource dir ps s t)
    (hwithin : Within (Named here place (outputNames ps)) t u)
    (hcopies : Copies t u dir place (outputNames ps)) {p : Split × List Record} (hp : p ∈ ps) :
    ∃ bytes, u.read (dir.join ⟨p.1.fileName⟩) = .ok bytes := by
  have hread := hfin.written p hp
  have hloc := Path.location_join here dir (isFileName_split p.1)
  have hname : p.1.fileName ∈ outputNames ps :=
    List.mem_append_left _ (List.mem_map.2 ⟨p, hp, rfl⟩)
  by_cases heq : place.location here = dir.location here
  · -- the mirror is the directory itself, and the copies are there at least
    obtain ⟨bytes, -, hcopy⟩ := hcopies _ hname
    have hfile := (Store.read_eq_ok_iff.1 hcopy).2
    rw [Path.location_join here place (isFileName_split p.1), heq, ← hloc] at hfile
    have hreach := hwithin.reaches (Store.read_eq_ok_iff.1 hread).1
    exact ⟨_, Store.read_eq_ok_iff.2 ⟨hreach, hfile⟩⟩
  · refine ⟨_, hwithin.read hread ?_⟩
    rw [hloc]
    rintro ⟨name, -, hl⟩
    exact heq (List.append_inj_left' hl rfl).symm

/-- A run that has ended well has left a file for each of its splits, mirrored or not. -/
lemma attains_run_files {settings : Settings} :
    (run codec home settings).run.Attains (fun _ => True) (fun summary e =>
      ∃ ps, Prepares d.store settings ps ∧
        summary = summaryOf codec (settings.outputDir.expandHome home)
          (settings.mirrorDir.map (·.expandHome home)) ps ∧
        ∀ p ∈ ps, ∃ bytes, e.store.read
          ((settings.outputDir.expandHome home).join ⟨p.1.fileName⟩) = .ok bytes) d := by
  rcases hm : settings.mirrorDir with _ | m
  · refine (attains_run_unmirrored hm).mono (fun _ _ => trivial) ?_
    rintro summary e ⟨ps, -, hps, hsum, hfin⟩
    exact ⟨ps, hps, hsum, fun p hp => ⟨_, hfin.written p hp⟩⟩
  · refine (attains_run_mirrored hm).mono (fun _ _ => trivial) ?_
    rintro summary e ⟨ps, hps, hsum, t, hfin, hwithin, hcopies⟩
    exact ⟨ps, hps, hsum, fun p hp => exists_read_of_copies hfin hwithin hcopies hp⟩

end Corpus

namespace Launch.Settings

variable {s : Settings} {i : Inputs}

lemma filter_effectiveOverrides {key : String} {v : Value} (h : (key, v) ∈ i.overrides)
    (hkey : s.overrides.find? key = none) :
    (s.effectiveOverrides i).entries.filter (·.1 = key) = [(key, v)] := by
  have hinput := (findEntry_eq_some_of_nodup (nodup_keys_overrides i)).2 h
  refine KeyMap.filter_entries ?_
  rw [find?_effectiveOverrides, overrideOf?, hkey, Option.none_or, ← findEntry_overrides, hinput,
    Option.some_or]

end Launch.Settings

namespace Rollout

lemma not_configurationFiles_split (dir : Path) (split : Split) :
    ¬ ConfigurationFiles here dir (dir.location here ++ [split.fileName]) := by
  rintro ⟨name, hname, hl⟩
  obtain rfl : split.fileName = name := by simpa using hl
  revert hname
  cases split <;> decide

end Rollout

namespace CommandLine

/-- The report of a launch that misses nothing: it starts its plan, or shows it. -/
def reportOf (dryRun : Bool) : Option Launch.Plan → Report
  | none => .failure (.ofLaunch .noProgram)
  | some plan => if dryRun then .success (plan.text ++ "\n") else ⟨"", "", .start plan⟩

lemma run_launch {c : Configuration} (dryRun : Bool)
    (h : ∀ p ∈ (launchInputs home c.corpus).paths, (d.store.look p).isSome) :
    (launch home c dryRun).run d =
      (reportOf dryRun (c.launch.plan? (launchInputs home c.corpus)), d) := by
  have hnone : (launchInputs home c.corpus).paths.filter (fun p => (d.store.look p).isNone) = [] :=
    List.filter_eq_nil_iff.2 fun p hp => by simp [Option.isSome_iff_ne_none.1 (h p hp)]
  rw [launch]
  generalize c.launch.plan? (launchInputs home c.corpus) = plan
  cases plan with
  | none => rfl
  | some plan =>
    cases dryRun with
    | true => rfl
    | false =>
      simp only [Bool.false_eq_true, if_false, Script.run_bind, run_missing, hnone]
      rfl

lemma ending_reportOf_ne (dryRun : Bool) (plan : Option Launch.Plan) (lost : List Path) :
    (reportOf dryRun plan).ending ≠ .failure (.ofLaunch (.missingInputs lost)) := by
  cases plan with
  | none =>
    intro heq
    exact message_noProgram_ne lost (congrArg Failure.message (Ending.failure.inj heq))
  | some plan => cases dryRun <;> exact Ending.noConfusion

/-- **The commands agree**: where the settings have both splits, and the corpus and then the
rollout configurations of its directory have been made without an error, the inputs of a launch
are the files that were reported for the two splits and the two configurations. They are all
there, so a launch does not miss them and starts the plan that it has; and the overrides of the
plan hold each input once under its key, unless the settings set that key. -/
theorem commands_agree {c : Configuration} {summary : Corpus.Summary} {tools interaction : Path}
    {e : Desk here} (htrain : Split.train ∈ c.corpus.splits.map (·.split))
    (htest : Split.test ∈ c.corpus.splits.map (·.split))
    (hcorpus : (Corpus.run codec home c.corpus).run.Reaches (.ofStore st) (.done (.ok summary)) d)
    (hrollout : (Rollout.writeFiles Tool.Retail.catalog c.corpus.interactionName c.corpus.rollout
      (c.corpus.outputDir.expandHome home)).run.Reaches (.ofStore d.store)
        (.done (.ok (tools, interaction))) e) :
    ∃ train test, summary.file? .train = some train ∧ summary.file? .test = some test ∧
      launchInputs home c.corpus = ⟨train.path, test.path, tools, interaction⟩ ∧
      (∀ p ∈ [train.path, test.path, tools, interaction], e.store.look p = some .file) ∧
      (∀ dryRun lost, ((launch home c dryRun).run (.ofStore e.store)).1.ending ≠
        .failure (.ofLaunch (.missingInputs lost))) ∧
      ∀ plan, c.launch.plan? (launchInputs home c.corpus) = some plan →
        (launch home c false).run (.ofStore e.store) =
          (⟨"", "", .start plan⟩, .ofStore e.store) ∧
        ∃ overrides : List (String × Launch.Value),
          plan.arguments =
            c.launch.arguments ++ overrides.map (fun o => Launch.override o.1 o.2) ∧
          ∀ o ∈ [("data.train_files", train.path), ("data.val_files", test.path),
              ("actor_rollout_ref.rollout.multi_turn.tool_config_path", tools),
              ("actor_rollout_ref.rollout.multi_turn.interaction_config_path", interaction)],
            c.launch.overrides.find? o.1 = none →
              overrides.filter (·.1 = o.1) = [(o.1, .string o.2.text)] := by
  obtain ⟨ps, hps, rfl, hfiles⟩ := Ensures.ends Corpus.attains_run_files hcorpus
  obtain ⟨hpaths, hwithin, htool, hinteraction⟩ :=
    Ensures.ends (Rollout.attains_writeFiles _ _ _ _) hrollout
  obtain ⟨rfl, rfl⟩ := Prod.mk.inj hpaths
  rw [← Corpus.Prepares.splits hps] at htrain htest
  obtain ⟨p, hp, hsplit, hfile⟩ := Corpus.file?_summaryOf htrain
  obtain ⟨q, hq, hsplit', hfile'⟩ := Corpus.file?_summaryOf htest
  have hinputs : launchInputs home c.corpus =
      ⟨(Corpus.fileOf codec (c.corpus.outputDir.expandHome home) p).path,
        (Corpus.fileOf codec (c.corpus.outputDir.expandHome home) q).path,
        (c.corpus.outputDir.expandHome home).join ⟨Rollout.toolFileName⟩,
        (c.corpus.outputDir.expandHome home).join ⟨Rollout.interactionFileName⟩⟩ := by
    rw [Corpus.fileOf, Corpus.fileOf, hsplit, hsplit']
    rfl
  -- the configurations have other names than the split files, which are still there
  have hlook : ∀ x ∈ ps,
      e.store.look (Corpus.fileOf codec (c.corpus.outputDir.expandHome home) x).path =
        some .file := by
    intro x hx
    obtain ⟨bytes, hread⟩ := hfiles x hx
    refine Store.look_of_read (hwithin.read hread ?_)
    rw [Corpus.fileOf, Path.location_join here _ (Corpus.isFileName_split x.1)]
    exact Rollout.not_configurationFiles_split _ _
  have hthere : ∀ i ∈ (launchInputs home c.corpus).paths, e.store.look i = some .file := by
    rw [hinputs]
    simp only [Launch.Inputs.paths, List.forall_mem_cons, List.not_mem_nil, false_imp_iff,
      implies_true, and_true]
    exact ⟨hlook p hp, hlook q hq, Store.look_of_read htool, Store.look_of_read hinteraction⟩
  have hsome : ∀ i ∈ (launchInputs home c.corpus).paths, (e.store.look i).isSome := fun i hi => by
    rw [hthere i hi]
    rfl
  refine ⟨_, _, hfile, hfile', hinputs, ?_, fun dryRun lost => ?_, fun plan hplan => ⟨?_, ?_⟩⟩
  · rwa [hinputs] at hthere
  · rw [run_launch (d := .ofStore e.store) dryRun hsome]
    exact ending_reportOf_ne _ _ _
  · rw [run_launch (d := .ofStore e.store) false hsome, hplan]
    rfl
  · refine ⟨_, Launch.Settings.arguments_plan hplan, fun o ho hkey => ?_⟩
    refine Launch.Settings.filter_effectiveOverrides ?_ hkey
    rw [hinputs]
    simp only [List.mem_cons, List.not_mem_nil, or_false] at ho
    rcases ho with rfl | rfl | rfl | rfl <;> simp [Launch.Inputs.overrides]

def sampleConfiguration : Configuration := ⟨Corpus.sampleSettings none, .standard⟩

def sampleRollout : Program (Path × Path) :=
  Rollout.writeFiles Tool.Retail.catalog sampleConfiguration.corpus.interactionName
    sampleConfiguration.corpus.rollout ⟨"out"⟩

lemma exists_sampleRollout {r : Except Error Corpus.Summary} {d : Desk ["work"]}
    (h : (Corpus.run .text ⟨""⟩ (Corpus.sampleSettings none)).run.run
      (.ofStore Corpus.sampleStore) = (r, d)) :
    ∃ tools interaction e, sampleRollout.run.run (.ofStore d.store) =
      (.ok (tools, interaction), e) := by
  have hok : (sampleRollout.run.run (.ofStore ((Corpus.run .text ⟨""⟩
      (Corpus.sampleSettings none)).run.run (.ofStore Corpus.sampleStore)).2.store)).1.isOk =
      true := by decide +kernel
  rw [h] at hok
  rcases hfiles : sampleRollout.run.run (.ofStore d.store) with ⟨error | ⟨tools, interaction⟩, e⟩
  · rw [hfiles] at hok
    cases hok
  · exact ⟨tools, interaction, e, rfl⟩

theorem commands_agree_sample : ∃ summary d tools interaction e plan,
    (Corpus.run .text ⟨""⟩ sampleConfiguration.corpus).run.Reaches (.ofStore Corpus.sampleStore)
      (.done (.ok summary)) d ∧
    sampleRollout.run.Reaches (.ofStore d.store) (.done (.ok (tools, interaction))) e ∧
    (launch ⟨""⟩ sampleConfiguration false).run (.ofStore e.store) =
      (⟨"", "", .start plan⟩, .ofStore e.store) := by
  obtain ⟨summary, d, hrun⟩ := Corpus.exists_run_sample none Corpus.isOk_run_sample
  obtain ⟨tools, interaction, e, hfiles⟩ := exists_sampleRollout hrun
  have hcorpus := Script.reaches_run (Corpus.run .text ⟨""⟩ (Corpus.sampleSettings none)).run
    (.ofStore Corpus.sampleStore)
  have hrollout := Script.reaches_run sampleRollout.run (.ofStore d.store)
  rw [hrun] at hcorpus
  rw [hfiles] at hrollout
  obtain ⟨train, test, -, -, -, -, -, hplan⟩ := commands_agree (c := sampleConfiguration)
    (by decide) (by decide) hcorpus hrollout
  have hblank : Text.isBlank sampleConfiguration.launch.program = false := by decide
  obtain ⟨hstart, -⟩ := hplan _ (by rw [Launch.Settings.plan?, hblank]; rfl)
  exact ⟨summary, d, tools, interaction, e, _, hcorpus, hrollout, hstart⟩

end CommandLine

end TaskCorpus
