import TaskCorpus.Proofs.Store.Directories
import TaskCorpus.Store.Files

/-!
Scripts whose results are there already.

Where a directory is there, and a file can be put where it already is, the scripts that make them
go through, and the store comes out as it was.
-/

namespace TaskCorpus

open Store (Desk Script)

variable {here : Location}

lemma Program.run_bind {α β : Type} {p : Program α} {a : α} {d e : Desk here}
    (h : p.run.run d = (.ok a, e)) (f : α → Program β) : (p >>= f).run.run d = (f a).run.run e := by
  simp only [ExceptT.run_bind, Script.run_bind, h]

namespace Store

variable {s : Store here} {p : Path}

lemma run_attempt {α : Type} {script : Script (Except Fault α)} {a : α} {d e : Desk here}
    (h : script.run d = (.ok a, e)) (error : Fault → Error) :
    (attempt error script).run.run d = (.ok a, e) := by
  simp only [attempt, ExceptT.run_mk, Script.run_bind, h]
  rfl

lemma Reaches.hasNull (h : s.Reaches p) : p.hasNull = false := by
  obtain ⟨parent, name, hx⟩ := h
  exact (target_eq_ok_iff.1 hx).1.noNull

lemma moveIn_of_reaches (h : s.Reaches p) (hd : s.node? (p.location here) ≠ some .directory)
    (bytes : ByteArray) : s.moveIn bytes p = .ok (s.set (p.location here) (.file bytes)) := by
  have hnull := h.hasNull
  obtain ⟨parent, name, hx⟩ := h
  rw [← (isEntry_of_target hx).location] at hd ⊢
  simp only [moveIn, hnull, hx, bind, Except.bind, Bool.false_eq_true, if_false]
  rfl

lemma remove_of_reaches {bytes : ByteArray} (h : s.Reaches p)
    (hf : s.file? (p.location here) = some bytes) :
    s.remove p = .ok (s.drop (p.location here)) := by
  obtain ⟨parent, name, hx⟩ := h
  rw [← (isEntry_of_target hx).location] at hf ⊢
  have hn := node?_of_file? hf
  simp only [remove, hx, hn, bind, Except.bind, Bool.false_eq_true, if_false]
  rfl

/-- To make a directory that is there already changes nothing. -/
theorem run_makeDirectories (h : s.IsDirectory p) :
    (makeDirectories p).run (.ofStore s) = (.ok (), .ofStore s) := by
  have hfirst : ∀ above, (makeFirst (p :: above)).run (.ofStore s) = (.ok (), .ofStore s) := by
    intro above
    by_cases htext : p.text = ""
    · rw [makeFirst, if_pos htext]
      rfl
    · have hlook := h.resolve_left htext
      have hmake : (Operation.makeDirectory p).run (.ofStore s) =
          (.error .alreadyExists, .ofStore s) := by
        rw [Operation.run, Desk.ofStore, makeDirectory_of_look hlook]
        rfl
      have hsettle : (makeFirst.settle p .alreadyExists).run (.ofStore s) =
          (.ok (), .ofStore s) := by
        have hfound : (Operation.look p).run (.ofStore s) = (some .directory, .ofStore s) := by
          rw [Operation.run, Desk.ofStore, hlook]
        rw [makeFirst.settle, Script.run_bind, Script.run_perform, hfound]
        rfl
      rw [makeFirst, if_neg htext, Script.run_bind, Script.run_perform, hmake]
      exact hsettle
  exact hfirst _

/-- To replace a file goes through where a temporary file can be made and the path leads to no
directory. -/
theorem run_replaceFile {temporaryName : String} (unwritten : Fault → Error)
    (ha : s.admits p.directory temporaryName = .ok ()) (hr : s.Reaches p)
    (hd : s.node? (p.location here) ≠ some .directory) (bytes : ByteArray) :
    (replaceFile temporaryName unwritten p bytes).run.run (.ofStore s) =
      (.ok (), .ofStore (s.set (p.location here) (.file bytes))) := by
  have hstage : (Operation.stage p.directory temporaryName).run (.ofStore s) =
      (.ok (), ⟨s, some .empty⟩) := by
    rw [Operation.run, Desk.ofStore]
    simp only [ha]
  have hcommit : (Operation.commit p).run ⟨s, some bytes⟩ =
      (.ok (), .ofStore (s.set (p.location here) (.file bytes))) := by
    simp only [Operation.run, moveIn_of_reaches hr hd]
    rfl
  rw [replaceFile, ExceptT.run_mk, Script.run_bind, Script.run_perform, hstage]
  change (Script.perform (.commit p) >>= _).run ⟨s, some bytes⟩ = _
  rw [Script.run_bind, Script.run_perform, hcommit]
  rfl

end Store

end TaskCorpus
