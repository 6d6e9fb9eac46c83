import TaskCorpus.Proofs.Corpus.Faithful

/-!
The manifest of a corpus directory is never stale.

The state is a script on its way and the desk that it works at. Runs into the directory follow
one another, each of their operations is carried out or refused, and between any two operations
the manifest is absent or matches the files beside it.
-/

namespace TaskCorpus.Corpus

open Store (Desk Script)
open Store.Script (Attains Ensures Step)

variable {here : Location} {codec : Table.Codec} {d : Desk here} {st : Store here}
  {place : Location} {home : Path} {s : Settings}

structure RunsInto (here place : Location) (home : Path) (s : Settings) : Prop where
  output : (s.outputDir.expandHome home).location here = place
  mirror : s.mirrorDir = none

/-- What runs into a directory come to from a store: the first run begins there, every operation
ends in one of its ways, and the next run begins on the store that the runs before have left,
whether or not they have come to their end. -/
inductive Reached (codec : Table.Codec) (place : Location) (st : Store here) :
    Script (Except Error Summary) → Desk here → Prop
  | first (home : Path) (s : Settings) (h : RunsInto here place home s) :
      Reached codec place st (run codec home s).run (.ofStore st)
  | step {p q : Script (Except Error Summary)} {d e : Desk here} (h : Reached codec place st p d)
      (hs : Step (p, d) (q, e)) : Reached codec place st q e
  | next {p : Script (Except Error Summary)} {d : Desk here} (home : Path) (s : Settings)
      (h : Reached codec place st p d) (hs : RunsInto here place home s) :
      Reached codec place st (run codec home s).run (.ofStore d.store)

lemma Underway.fresh {dir : Path} {ps : List (Split × List Record)} {s t : Store here}
    (h : Underway dir ps s t) (hs : Manifest.Fresh s (dir.location here)) :
    Manifest.Fresh t (dir.location here) := by
  rcases h with hkeep | ⟨-, habsent⟩
  · exact hs.keeps hkeep
  · exact Manifest.fresh_of_absent habsent

lemma Finished.fresh {dataSource : String} {dir : Path} {ps : List (Split × List Record)}
    {s t : Store here} (h : Finished codec dataSource dir ps s t) :
    Manifest.Fresh t (dir.location here) := by
  have hfile := (Store.read_eq_ok_iff.1 h.manifest).2
  rw [location_manifest] at hfile
  exact Manifest.fresh_of_text (matches_manifestFor h.written) hfile

/-- One run keeps the promise of the directory, at every point and however it ends. -/
lemma ensures_run_fresh (h : RunsInto here place home s) (hd : Manifest.Fresh d.store place) :
    (run codec home s).run.Ensures (fun e => Manifest.Fresh e.store place)
      (fun _ e => Manifest.Fresh e.store place) d := by
  obtain ⟨rfl, hnone⟩ := h
  have hrun : (run codec home s).run.Attains
      (fun e => Manifest.Fresh e.store ((s.outputDir.expandHome home).location here))
      (fun _ e => Manifest.Fresh e.store ((s.outputDir.expandHome home).location here)) d := by
    refine (attains_run_unmirrored hnone).mono ?_ ?_
    · rintro e ⟨ps, hunder⟩
      exact hunder.fresh hd
    · rintro summary e ⟨ps, -, -, -, hfin⟩
      exact hfin.fresh
  refine Ensures.mono hrun (fun _ h => h) fun r e he => ?_
  cases r <;> exact he

lemma ensures_of_reached {p : Script (Except Error Summary)} (hst : Manifest.Fresh st place)
    (h : Reached codec place st p d) : p.Ensures (fun e => Manifest.Fresh e.store place)
      (fun _ e => Manifest.Fresh e.store place) d := by
  induction h with
  | first home s hs => exact ensures_run_fresh hs hst
  | step _ hs ih => exact ih.step hs
  | next home s _ hs ih => exact ensures_run_fresh hs ih.now

/-- **The manifest is never stale**: if the manifest of a directory is absent or matches the files
beside it, then so it is after every single operation of every run into that directory. -/
theorem fresh_of_reached {p : Script (Except Error Summary)} (hst : Manifest.Fresh st place)
    (h : Reached codec place st p d) : Manifest.Fresh d.store place :=
  (ensures_of_reached hst h).now

lemma Reached.trans {p q : Script (Except Error Summary)} {e : Desk here}
    (h : Reached codec place st p d) (hr : p.Reaches d q e) : Reached codec place st q e := by
  have key : ∀ x : Script (Except Error Summary) × Desk here,
      Relation.ReflTransGen Step (p, d) x → Reached codec place st x.1 x.2 := by
    intro x hx
    induction hx with
    | refl => exact h
    | tail _ hs ih => exact ih.step hs
  exact key (q, e) hr

theorem fresh_of_reached_sample : ∃ summary e,
    Reached .text ["work", "out"] sampleStore (.done (.ok summary)) e ∧
      Manifest.Fresh e.store ["work", "out"] := by
  obtain ⟨summary, e, h⟩ := exists_run_sample none isOk_run_sample
  have hinto : RunsInto ["work"] ["work", "out"] ⟨""⟩ (sampleSettings none) := ⟨by decide, rfl⟩
  have habsent : Manifest.Fresh sampleStore ["work", "out"] := Manifest.fresh_of_absent rfl
  have hreached := (Reached.first ⟨""⟩ (sampleSettings none) hinto).trans
    (Script.reaches_run (run .text ⟨""⟩ (sampleSettings none)).run (.ofStore sampleStore))
  rw [h] at hreached
  exact ⟨summary, e, hreached, fresh_of_reached habsent hreached⟩

end TaskCorpus.Corpus
