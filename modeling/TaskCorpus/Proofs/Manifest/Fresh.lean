import TaskCorpus.Proofs.Manifest.RoundTrip
import TaskCorpus.Proofs.Store.Files

/-!
Manifests that tell the truth.

A manifest matches a directory if every file that it names there has the digest that it gives.
`Fresh s dir` is the promise of a corpus directory: its manifest is absent, or it can be read
and matches. To make further directories breaks no such promise.
-/

namespace TaskCorpus

namespace Store

variable {here : Location} {s t : Store here}

/-- The bytes of the file that a path leads to from a directory. -/
def fileFrom? (s : Store here) (dir : Location) (p : Path) : Option ByteArray :=
  match p.segments.reverse with
  | [] => none
  | last :: before =>
    if last = "." ∨ last = ".." ∨ p.text.toList.getLast? = some '/' then none
    else
      match s.walk (p.origin dir) before.reverse with
      | .ok l => s.file? (l ++ [last])
      | .error _ => none

lemma fileFrom?_name (s : Store here) (dir : Location) {name : String} (h : Path.IsFileName name) :
    s.fileFrom? dir ⟨name⟩ = s.file? (dir ++ [name]) := by
  have hseg : (⟨name⟩ : Path).segments = [name] := by
    simp [Path.segments, Path.segmentsFrom_of_noSlash h.noSlash, h.ne_empty]
  have hlast : name.toList.getLast? ≠ some '/' := by
    intro hl
    exact h.noSlash (List.mem_of_getLast? hl)
  simp [fileFrom?, hseg, h.ne_here, h.ne_up, hlast, Path.origin, h.not_isAbsolute, walk]

lemma Within.fileFrom? {L : Location → Prop} {dir : Location} {p : Path} {bytes : ByteArray}
    (h : Within L s t) (hf : s.fileFrom? dir p = some bytes) (hL : ¬ L (p.location dir)) :
    t.fileFrom? dir p = some bytes := by
  unfold Store.fileFrom? at hf ⊢
  split at hf
  · cases hf
  · rename_i last before hseg
    split at hf
    · cases hf
    · rename_i hlast
      rw [if_neg hlast]
      split at hf
      · rename_i l hw
        have hloc : p.location dir = l ++ [last] := by
          obtain ⟨hhere, hrest⟩ := not_or.1 hlast
          rw [Path.location, List.reverse_eq_cons_iff.1 hseg, Path.follow_append,
            ← walk_eq_ok hw]
          simp [Path.follow, hhere, (not_or.1 hrest).1]
        rw [h.walk hw]
        exact (h.files _ (hloc ▸ hL)).trans hf
      · cases hf

end Store

namespace Manifest

variable {L : Location → Prop} {s t : Store here} {dir : Location}

/-- The file that an entry names in a directory has the digest that it gives. -/
def Entry.Holds (e : Entry) (s : Store here) (dir : Location) : Prop :=
  ∃ bytes, s.fileFrom? dir ⟨e.file⟩ = some bytes ∧ Sha256.digest bytes = e.digest

/-- Every entry of the manifest holds in a directory. -/
def Matches (m : Manifest) (s : Store here) (dir : Location) : Prop :=
  ∀ e ∈ m.entries, e.Holds s dir

/-- The manifest in a directory, if there is one that can be read. -/
def in? (s : Store here) (dir : Location) : Option Manifest :=
  (s.file? (dir ++ [fileName])).bind ofBytes?

/-- The manifest of a directory is absent, or it matches the directory. -/
def Fresh (s : Store here) (dir : Location) : Prop :=
  ∀ bytes, s.file? (dir ++ [fileName]) = some bytes →
    ∃ m, ofBytes? bytes = some m ∧ m.Matches s dir

lemma Matches.iff_of_within {m : Manifest} (h : m.Matches s dir) (hst : Store.Within L s t) :
    m.Matches t dir ↔ ∀ e ∈ m.entries, L (Path.location dir ⟨e.file⟩) → e.Holds t dir := by
  refine ⟨fun ht e he _ => ht e he, fun ht e he => ?_⟩
  by_cases hL : L (Path.location dir ⟨e.file⟩)
  · exact ht e he hL
  · obtain ⟨bytes, hf, hd⟩ := h e he
    exact ⟨bytes, hst.fileFrom? hf hL, hd⟩

lemma Fresh.keeps (h : Fresh s dir) (hk : s.Keeps t) : Fresh t dir := by
  intro bytes hb
  rw [hk.files _ id] at hb
  obtain ⟨m, hm, hmatch⟩ := h bytes hb
  exact ⟨m, hm, (hmatch.iff_of_within hk).2 fun _ _ h => h.elim⟩

lemma fresh_of_absent (h : s.file? (dir ++ [fileName]) = none) : Fresh s dir := by
  intro bytes hb
  rw [h] at hb
  cases hb

lemma fresh_of_text {m : Manifest} (hmatch : m.Matches s dir)
    (h : s.file? (dir ++ [fileName]) = some m.text.toUTF8) : Fresh s dir := by
  intro bytes hb
  rw [h] at hb
  cases hb
  exact ⟨m, ofBytes?_text m, hmatch⟩

/-- A manifest that has not been touched is as true as the files that differ let it be. -/
lemma fresh_iff_of_eq (hs : Fresh s dir) (hst : Store.Within L s t)
    (h : t.file? (dir ++ [fileName]) = s.file? (dir ++ [fileName])) :
    Fresh t dir ↔ ∀ m, in? s dir = some m →
      ∀ e ∈ m.entries, L (Path.location dir ⟨e.file⟩) → e.Holds t dir := by
  constructor
  · intro ht m hm e he _
    obtain ⟨bytes, hb, hm⟩ := Option.bind_eq_some_iff.1 hm
    obtain ⟨m', hm', hmatch⟩ := ht bytes (h.trans hb)
    rw [hm] at hm'
    cases hm'
    exact hmatch e he
  · intro ht bytes hb
    obtain ⟨m, hm, hmatch⟩ := hs bytes (h.symm.trans hb)
    exact ⟨m, hm, (hmatch.iff_of_within hst).2
      (ht m (Option.bind_eq_some_iff.2 ⟨bytes, h.symm.trans hb, hm⟩))⟩

lemma isFileName_fileName : Path.IsFileName fileName :=
  ⟨by decide, "manifest.jso".toList, 'n', by decide, by decide⟩

end Manifest

end TaskCorpus
