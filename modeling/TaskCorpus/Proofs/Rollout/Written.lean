import TaskCorpus.Proofs.Store.Scripts
import TaskCorpus.Rollout.Files

/-!
The rollout configurations of a directory.

Both are written one after the other, over files that are there already, and no other file is
touched.
-/

namespace TaskCorpus.Rollout

open Store (Desk Script Within)
open Store.Script (Attains)

variable {here : Location} {d : Desk here}

lemma isFileName_tool : Path.IsFileName toolFileName :=
  ⟨by decide, "tool_config.yam".toList, 'l', by decide, by decide⟩

lemma isFileName_interaction : Path.IsFileName interactionFileName :=
  ⟨by decide, "interaction_config.yam".toList, 'l', by decide, by decide⟩

def ConfigurationFiles (here : Location) (dir : Path) (l : Location) : Prop :=
  ∃ name ∈ [toolFileName, interactionFileName], l = dir.location here ++ [name]

lemma attains_writeText {dir : Path} {name : String} (hname : Path.IsFileName name)
    (text : String) :
    (writeText (dir.join ⟨name⟩) text).run.Attains
      (fun e => Within (· = dir.location here ++ [name]) d.store e.store)
      (fun _ e => Within (· = dir.location here ++ [name]) d.store e.store ∧
        e.store.read (dir.join ⟨name⟩) = .ok text.toUTF8) d := by
  have hloc := Path.location_join here dir hname
  have hwrite := Store.attains_writeFile (d := d) (dir.join ⟨name⟩) text.toUTF8
  rw [hloc] at hwrite
  refine Attains.attempt (hwrite.mono ?_ ?_)
  · rintro e (he | ⟨_, hput⟩)
    · rw [he]
      exact .refl _ _
    · exact hput.toWithin
  · rintro ⟨⟩ e ⟨hput, hreach⟩
    exact ⟨hput.toWithin, Store.read_eq_ok_iff.2 ⟨hreach, by rw [hloc, hput.there]⟩⟩

theorem attains_writeFiles (catalog : Tool.Catalog) (interactionName : String) (s : Settings)
    (dir : Path) :
    (writeFiles catalog interactionName s dir).run.Attains
      (fun e => Within (ConfigurationFiles here dir) d.store e.store)
      (fun files e => files = (dir.join ⟨toolFileName⟩, dir.join ⟨interactionFileName⟩) ∧
        Within (ConfigurationFiles here dir) d.store e.store ∧
        e.store.read (dir.join ⟨toolFileName⟩) =
          .ok (toolDocument (bindings catalog s.classPrefix)).toUTF8 ∧
        e.store.read (dir.join ⟨interactionFileName⟩) =
          .ok (Interaction.ofSettings interactionName s).document.toUTF8) d := by
  have htool : ∀ l, l = dir.location here ++ [toolFileName] → ConfigurationFiles here dir l :=
    fun l hl => ⟨_, by simp, hl⟩
  have hinteraction : ∀ l, l = dir.location here ++ [interactionFileName] →
      ConfigurationFiles here dir l :=
    fun l hl => ⟨_, by simp, hl⟩
  refine Attains.bind (Attains.attempt ((Store.attains_makeDirectories dir).mono
    (fun _ he => he.within _) fun _ _ h => h)) ?_
  rintro ⟨⟩ e₁ ⟨hmakes, -⟩
  have h₁ : Within (ConfigurationFiles here dir) d.store e₁.store := hmakes.within _
  refine Attains.bind ((attains_writeText isFileName_tool _).mono
    (fun e he => h₁.trans (he.mono htool)) fun _ _ h => h) ?_
  rintro ⟨⟩ e₂ ⟨hfirst, hread⟩
  have h₂ := h₁.trans (hfirst.mono htool)
  refine Attains.bind ((attains_writeText isFileName_interaction _).mono
    (fun e he => h₂.trans (he.mono hinteraction)) fun _ _ h => h) ?_
  rintro ⟨⟩ e₃ ⟨hsecond, hread'⟩
  -- the second file has another name, so the first one is still there
  refine ⟨rfl, h₂.trans (hsecond.mono hinteraction), hsecond.read hread ?_, hread'⟩
  rw [Path.location_join here dir isFileName_tool]
  intro hl
  have hname : toolFileName = interactionFileName := by simpa using hl
  exact absurd hname (by decide)

end TaskCorpus.Rollout
