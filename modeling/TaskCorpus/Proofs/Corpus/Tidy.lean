import TaskCorpus.Corpus
import TaskCorpus.Proofs.Store.Tidy

/-!
A run leaves no temporary file, however it is executed and wherever it ends.
-/

namespace TaskCorpus.Corpus

open Store.Script (Tidy)

variable (codec : Table.Codec)

lemma tidy_prepare (ctx : Context) (s : Source) : (prepare ctx s).run.Tidy :=
  .bindProgram (.bindProgram (Store.tidy_readText _) fun _ => .ofExcept _) fun _ =>
    .bindProgram (.ofExcept _) fun _ => .pure _

lemma tidy_prepareAll (ctx : Context) (ss : List Source) : (prepareAll ctx ss).run.Tidy := by
  induction ss with
  | nil => exact .pure _
  | cons s ss ih =>
    exact .bindProgram (tidy_prepare ctx s) fun _ => .bindProgram ih fun _ => .pure _

lemma tidy_fileDigest (p : Path) : (Manifest.fileDigest p).run.Tidy :=
  .bindProgram (.attempt (.perform trivial)) fun _ => .pure _

lemma tidy_writeSplit (rs : List Record) (split : Split) (dir : Path) :
    (writeSplit codec rs split dir).run.Tidy :=
  .bindProgram (Store.tidy_replaceFile _ _ _ _) fun _ =>
    .bindProgram (tidy_fileDigest _) fun _ => .pure _

lemma tidy_writeSplits (dir : Path) (ps : List (Split × List Record)) :
    (writeSplits codec dir ps).run.Tidy := by
  induction ps with
  | nil => exact .pure _
  | cons p ps ih =>
    exact .bindProgram (tidy_writeSplit _ _ _ _) fun _ => .bindProgram ih fun _ => .pure _

lemma tidy_removeStale (p : Path) : (removeStale p).run.Tidy := by
  refine .attempt (.bind (.perform trivial) fun r => ?_)
  split <;> exact .pure _

lemma tidy_makeDirectories (p : Path) : (makeDirectories p).run.Tidy :=
  .attempt (Store.tidy_makeDirectories p)

lemma tidy_writeFiles (dataSource : String) (dir : Path) (ps : List (Split × List Record)) :
    (writeFiles codec dataSource dir ps).run.Tidy :=
  .bindProgram (tidy_makeDirectories dir) fun _ => .bindProgram (tidy_removeStale _) fun _ =>
    .bindProgram (tidy_writeSplits codec dir ps) fun _ =>
      .bindProgram (Store.tidy_replaceFile _ _ _ _) fun _ => .pure _

lemma tidy_copyAll (dir : Path) (files : List Path) : (copyAll dir files).run.Tidy := by
  induction files with
  | nil => exact .pure _
  | cons p ps ih =>
    unfold copyAll
    split
    · exact ih
    · exact .bindProgram (.attempt (Store.tidy_copyFile _ _)) fun _ => ih

lemma tidy_write (dataSource : String) (dir : Path) (mirrorDir : Option Path)
    (ps : List (Split × List Record)) : (write codec dataSource dir mirrorDir ps).run.Tidy := by
  refine .bindProgram (tidy_writeFiles codec dataSource dir ps) fun files => ?_
  cases mirrorDir with
  | none => exact .pure _
  | some m =>
    exact .bindProgram (.bindProgram (tidy_makeDirectories m) fun _ => tidy_copyAll m _) fun _ =>
      .pure _

theorem tidy_run (home : Path) (s : Settings) : (run codec home s).run.Tidy := by
  unfold run
  rcases s.check with flaw | ⟨⟩
  · exact .pure _
  · exact .bindProgram (p := prepareAll s.context s.splits) (tidy_prepareAll _ _) fun _ =>
      tidy_write _ _ _ _ _

end TaskCorpus.Corpus
