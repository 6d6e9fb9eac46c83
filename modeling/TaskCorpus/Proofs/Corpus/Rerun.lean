import TaskCorpus.Proofs.Corpus.Rejected
import TaskCorpus.Proofs.Corpus.Tidy
import TaskCorpus.Proofs.Store.Replay

/-!
Runs that are run again.

`Finished` says what a run leaves: its files hold what it has written, and it could write them
there. A second run finds the same tasks, takes the manifest away, puts every split file where it
already is, and puts the manifest back; so it ends on the store that it has begun with.
-/

namespace TaskCorpus

open Store (Desk Script Within Puts)
open Store.Script (Attains Ensures)

variable {here : Location} {st : Store here} {s t : Store here} {dir : Path}
  {ps : List (Split × List Record)}

namespace Corpus

/-! ### Preparing again -/

lemma IsPrepared.within {L : Location → Prop} {ctx : Context} {source : Source}
    {p : Split × List Record} (h : IsPrepared s ctx source p) (hst : Within L s t)
    (hL : ¬ L (source.path.location here)) : IsPrepared t ctx source p := by
  obtain ⟨hsplit, loaded, selected, hload, hselect, hbuild⟩ := h
  obtain ⟨bytes, text, hread, htext, hparse⟩ := Program.on_readText.1 hload
  have hload' : (TaskFile.load source.path).on t = .ok loaded :=
    Program.on_readText.2 ⟨bytes, text, hst.read hread hL, htext, hparse⟩
  exact ⟨hsplit, loaded, selected, hload', hselect, hbuild⟩

lemma Prepares.within {L : Location → Prop} {settings : Settings} (h : Prepares s settings ps)
    (hst : Within L s t) (hL : ∀ source ∈ settings.splits, ¬ L (source.path.location here)) :
    Prepares t settings ps := by
  unfold Prepares at h ⊢
  generalize settings.splits = sources at h hL
  induction h with
  | nil => exact .nil
  | cons hp _ ih =>
    obtain ⟨hsource, hsources⟩ := List.forall_mem_cons.1 hL
    exact .cons (hp.within hst hsource) (ih hsources)

lemma on_prepare_of_isPrepared {ctx : Context} {source : Source} {p : Split × List Record}
    (h : IsPrepared s ctx source p) : (prepare ctx source).on s = .ok p := by
  obtain ⟨hsplit, loaded, selected, hload, hselect, hbuild⟩ := h
  rw [on_prepare]
  simp only [hload, hselect, hbuild, Except.map]
  rw [← hsplit]

lemma on_prepareAll {ctx : Context} {sources : List Source}
    (h : List.Forall₂ (IsPrepared s ctx) sources ps) : (prepareAll ctx sources).on s = .ok ps := by
  induction h with
  | nil => rfl
  | cons hp _ ih =>
    rw [on_prepareAll_cons, on_prepare_of_isPrepared hp, ih]
    rfl

/-! ### Writing again -/

lemma run_fileDigest {p : Path} {bytes : ByteArray} (h : s.read p = .ok bytes) :
    (Manifest.fileDigest p).run.run (.ofStore s) = (.ok (Sha256.digest bytes), .ofStore s) := by
  have hread : (Script.perform (.read p)).run (.ofStore s) = (.ok bytes, .ofStore s) := by
    rw [Script.run_perform, Store.Operation.run, Desk.ofStore, h]
  rw [Manifest.fileDigest, Program.run_bind (Store.run_attempt hread _)]
  rfl

lemma run_writeSplit {split : Split} {rs : List Record}
    (hread : s.read (dir.join ⟨split.fileName⟩) = .ok (codec.writeRecords rs))
    (ha : s.admits (dir.join ⟨split.fileName⟩).directory temporaryName = .ok ()) :
    (writeSplit codec rs split dir).run.run (.ofStore s) =
      (.ok (fileOf codec dir (split, rs)), .ofStore s) := by
  obtain ⟨hreach, hfile⟩ := Store.read_eq_ok_iff.1 hread
  have hnode : s.node? ((dir.join ⟨split.fileName⟩).location here) ≠ some .directory := by
    intro hd
    rw [Store.file?, hd] at hfile
    cases hfile
  have hwrite := Store.run_replaceFile (fun _ => .table) ha hreach hnode (codec.writeRecords rs)
  rw [Store.set_eq_self hfile] at hwrite
  rw [writeSplit, writeRecords, Program.run_bind hwrite, Program.run_bind (run_fileDigest hread)]
  rfl

lemma run_writeSplits (h : Written codec s dir ps) (ha : ∀ p ∈ ps,
      s.admits (dir.join ⟨p.1.fileName⟩).directory temporaryName = .ok ()) :
    (writeSplits codec dir ps).run.run (.ofStore s) =
      (.ok (ps.map (fileOf codec dir)), .ofStore s) := by
  induction ps with
  | nil => rfl
  | cons p ps ih =>
    obtain ⟨hp, hps⟩ := List.forall_mem_cons.1 h
    obtain ⟨hap, haps⟩ := List.forall_mem_cons.1 ha
    rw [writeSplits, Program.run_bind (run_writeSplit hp hap), Program.run_bind (ih hps haps)]
    rfl

lemma run_removeStale {p : Path} {bytes : ByteArray} (h : s.read p = .ok bytes) :
    (removeStale p).run.run (.ofStore s) = (.ok (), .ofStore (s.drop (p.location here))) := by
  obtain ⟨hreach, hfile⟩ := Store.read_eq_ok_iff.1 h
  have hremove : (Store.Operation.remove p).run (.ofStore s) =
      (.ok (), .ofStore (s.drop (p.location here))) := by
    rw [Store.Operation.run, Desk.ofStore, Store.remove_of_reaches hreach hfile]
    rfl
  refine Store.run_attempt ?_ _
  rw [Script.run_bind, Script.run_perform, hremove]
  rfl

/-- **Writing again** what a run has written leaves the store as the run has left it. -/
theorem run_writeFiles {dataSource : String} (h : Finished codec dataSource dir ps s t) :
    (writeFiles codec dataSource dir ps).run.run (.ofStore t) =
      (.ok (ps.map (fileOf codec dir)), .ofStore t) := by
  obtain ⟨-, hwritten, hmanifest, hdir, hsplits, hown⟩ := h
  obtain ⟨hreach, hfile⟩ := Store.read_eq_ok_iff.1 hmanifest
  -- the manifest is gone while the split files are written
  have hdrop : Puts ((dir.join ⟨Manifest.fileName⟩).location here) none t
      (t.drop ((dir.join ⟨Manifest.fileName⟩).location here)) :=
    Store.remove_eq_ok (Store.remove_of_reaches hreach hfile)
  have hwritten' :
      Written codec (t.drop ((dir.join ⟨Manifest.fileName⟩).location here)) dir ps := by
    refine hwritten.within hdrop.toWithin fun p _ hl => ?_
    rw [location_manifest] at hl
    exact split_fileName_ne p.1 (by simpa using hl)
  have hsplits' := fun p hp => hdrop.admits (hsplits p hp)
  have hnode : (t.drop ((dir.join ⟨Manifest.fileName⟩).location here)).node?
      ((dir.join ⟨Manifest.fileName⟩).location here) ≠ some .directory := by
    rw [Store.node?_drop_self (Store.not_prefix_of_file? hfile)]
    exact fun hd => by cases hd
  have hwrite := Store.run_replaceFile (.writing (dir.join ⟨Manifest.fileName⟩))
    (hdrop.admits hown) (hdrop.reaches hreach) hnode
    (manifestFor codec dataSource dir ps).text.toUTF8
  rw [Store.set_drop_eq_self hfile] at hwrite
  have hmake : (makeDirectories dir).run.run (.ofStore t) = (.ok (), .ofStore t) :=
    Store.run_attempt (Store.run_makeDirectories hdir) _
  rw [writeFiles, Program.run_bind hmake, Program.run_bind (run_removeStale hmanifest),
    Program.run_bind (run_writeSplits hwritten' hsplits')]
  change (((manifestFor codec dataSource dir ps).write _) >>= _).run.run _ = _
  rw [Manifest.write, Program.run_bind hwrite]
  rfl

/-! ### Running again -/

variable {home : Path} {settings : Settings} {summary : Summary} {e : Desk here}

lemma check_of_reaches
    (h : (run codec home settings).run.Reaches (.ofStore st) (.done (.ok summary)) e) :
    settings.check = .ok () := by
  rcases hc : settings.check with flaw | ⟨⟩
  · exact (Ensures.ends (attains_run_of_rejects (.settings hc)) h).elim
  · rfl

lemma run_of_prepares (hc : settings.check = .ok ()) (h : Prepares s settings ps) :
    (run codec home settings).run.run (.ofStore s) =
      (write codec settings.dataSource (settings.outputDir.expandHome home)
        (settings.mirrorDir.map (·.expandHome home)) ps).run.run (.ofStore s) := by
  have hprepare : (prepareAll settings.context settings.splits).run.run (.ofStore s) =
      (.ok ps, .ofStore s) := by
    rw [run_eq_on ((attains_prepareAll _ _).mono (fun _ h => h) fun _ _ h => h.1),
      on_prepareAll h]
  unfold run
  rw [hc]
  exact Program.run_bind hprepare _

/-- **Running again**: where a run without a mirror has ended well, and none of its task files is
a file that it writes or removes, the same run once more ends with the same summary, and with the
store as it was. -/
theorem run_again (hm : settings.mirrorDir = none)
    (hsources : ∀ source ∈ settings.splits, ∀ name ∈ fileNames settings,
      source.path.location here ≠ (settings.outputDir.expandHome home).location here ++ [name])
    (h : (run codec home settings).run.Reaches (.ofStore st) (.done (.ok summary)) e) :
    (run codec home settings).run.run e = (.ok summary, e) := by
  obtain ⟨ps, -, hps, rfl, hfin⟩ := Ensures.ends (attains_run_unmirrored hm) h
  have htidy : e.temporary = none := Ensures.ends (tidy_run codec home settings _ _ rfl) h
  obtain ⟨t, temporary⟩ := e
  obtain rfl : temporary = none := htidy
  have houtputs : ∀ source ∈ settings.splits,
      ¬ OutputFiles here (settings.outputDir.expandHome home) ps (source.path.location here) := by
    intro source hsource hl
    obtain ⟨name, hname, hl⟩ := hps.exists_of_outputFiles hl
    exact hsources source hsource name hname hl
  have hcheck : settings.check = .ok () := check_of_reaches h
  -- the sources have not changed, so they are prepared in the same way
  have hprepares : Prepares t settings ps := hps.within hfin.within houtputs
  refine (run_of_prepares hcheck hprepares).trans ?_
  rw [hm, Option.map_none, write, Program.run_bind (run_writeFiles hfin)]
  rfl

theorem run_again_sample : ∃ summary e,
    (run .text ⟨""⟩ (sampleSettings none)).run.run (.ofStore sampleStore) = (.ok summary, e) ∧
    (run .text ⟨""⟩ (sampleSettings none)).run.run e = (.ok summary, e) := by
  obtain ⟨summary, e, h⟩ := exists_run_sample none isOk_run_sample
  have hreach :=
    Script.reaches_run (run .text ⟨""⟩ (sampleSettings none)).run (.ofStore sampleStore)
  rw [h] at hreach
  have hsources : ∀ source ∈ (sampleSettings none).splits,
      ∀ name ∈ fileNames (sampleSettings none), source.path.location ["work"] ≠
        ((sampleSettings none).outputDir.expandHome ⟨""⟩).location ["work"] ++ [name] := by decide
  exact ⟨summary, e, h, run_again rfl hsources hreach⟩

end Corpus

end TaskCorpus
