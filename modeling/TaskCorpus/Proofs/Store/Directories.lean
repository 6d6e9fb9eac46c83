import TaskCorpus.Proofs.Store.Files

/-!
Directories of a store.

`IsDirectory` says that a path leads to a directory. Then the way there is open, and stays so when
files are written and directories made; such a directory can be made once, and not again.
-/

namespace TaskCorpus.Store

open Json (bind_eq_ok)

variable {here : Location} {s t : Store here} {L : Location → Prop}

lemma directory_eq_ok_iff {p : Path} {l : Location} : s.directory p = .ok l ↔
    s.target p = .ok (.place l) ∨ ∃ parent name slash,
      s.target p = .ok (.entry parent name slash) ∧
      s.node? (parent ++ [name]) = some .directory ∧ l = parent ++ [name] := by
  constructor
  · intro h
    obtain ⟨x, hx, h⟩ := bind_eq_ok h
    cases x with
    | place k =>
      cases h
      exact .inl hx
    | entry parent name slash =>
      dsimp only at h
      split at h
      · cases h
      · cases h
      · rename_i hd
        cases h
        exact .inr ⟨parent, name, slash, hx, hd, rfl⟩
  · rintro (hx | ⟨parent, name, slash, hx, hd, rfl⟩)
    · rw [directory, hx]
      rfl
    · rw [directory, hx]
      simp only [bind, Except.bind, hd]
      rfl

lemma look_eq_directory_iff {p : Path} :
    s.look p = some .directory ↔ ∃ l, s.directory p = .ok l := by
  rw [look, find, directory]
  rcases s.target p with f | (l | ⟨parent, name, slash⟩)
  · simp [bind, Except.bind]
  · simp [bind, Except.bind, pure, Except.pure, Kind.ofNode]
  · simp only [bind, Except.bind]
    rcases s.node? (parent ++ [name]) with _ | (_ | bytes)
    · simp
    · simp [pure, Except.pure, Kind.ofNode]
    · cases slash <;> simp [pure, Except.pure, Kind.ofNode]

lemma Within.directory (h : Within L s t) {p : Path} {l : Location} (hp : s.directory p = .ok l) :
    t.directory p = .ok l := by
  refine directory_eq_ok_iff.2 ?_
  rcases directory_eq_ok_iff.1 hp with hx | ⟨parent, name, slash, hx, hd, hl⟩
  · exact .inl (h.target hx)
  · exact .inr ⟨parent, name, slash, h.target hx, h.directories _ hd, hl⟩

lemma Within.admits (h : Within L s t) {dir : Path} {name : String}
    (ha : s.admits dir name = .ok ()) : t.admits dir name = .ok () := by
  unfold Store.admits at ha ⊢
  rcases hd : s.directory dir with f | l
  · rw [hd] at ha
    dsimp only at ha
    split_ifs at ha <;> cases ha
  · rw [hd] at ha
    rwa [h.directory hd]

/-- The path leads to a directory; an empty path, which leads nowhere by itself, stands for the
working directory. -/
def IsDirectory (s : Store here) (p : Path) : Prop := p.text = "" ∨ s.look p = some .directory

lemma Within.isDirectory (h : Within L s t) {p : Path} (hp : s.IsDirectory p) :
    t.IsDirectory p := by
  rcases hp with hp | hp
  · exact .inl hp
  · obtain ⟨l, hl⟩ := look_eq_directory_iff.1 hp
    exact .inr (look_eq_directory_iff.2 ⟨l, h.directory hl⟩)

lemma IsDirectory.walk {p : Path} (h : s.IsDirectory p) :
    s.walk (p.origin here) p.segments = .ok (p.location here) := by
  rcases h with hp | hp
  · have hseg : p.segments = [] := by simp [Path.segments, hp, Path.segmentsFrom]
    rw [Path.location, hseg]
    rfl
  · obtain ⟨l, hl⟩ := look_eq_directory_iff.1 hp
    rcases directory_eq_ok_iff.1 hl with hx | ⟨parent, name, slash, hx, hd, -⟩
    · have hw := walk_of_target hx
      rw [hw, Path.location, ← walk_eq_ok hw]
    · exact (isEntry_of_target hx).walk hd

lemma makeDirectory_eq_ok {p : Path} (h : s.makeDirectory p = .ok t) :
    Makes (· = p.location here) s t ∧ t.look p = some .directory := by
  unfold makeDirectory at h
  obtain ⟨x, hx, h⟩ := bind_eq_ok h
  cases x with
  | place l => cases h
  | entry parent name slash =>
    dsimp only at h
    split at h
    · cases h
    · rename_i hnone
      cases h
      have hmakes : Makes (· = parent ++ [name]) s (s.set (parent ++ [name]) .directory) :=
        makes_set hnone
      have hthere : (s.set (parent ++ [name]) .directory).directory p = .ok (parent ++ [name]) :=
        directory_eq_ok_iff.2 (.inr ⟨parent, name, slash, hmakes.target hx,
          node?_set_self (not_prefix_of_none hnone) s _, rfl⟩)
      rw [(isEntry_of_target hx).location] at hmakes hthere ⊢
      exact ⟨hmakes, look_eq_directory_iff.2 ⟨_, hthere⟩⟩

lemma makeDirectory_of_look {p : Path} (h : s.look p = some .directory) :
    s.makeDirectory p = .error .alreadyExists := by
  obtain ⟨l, hl⟩ := look_eq_directory_iff.1 h
  rcases directory_eq_ok_iff.1 hl with hx | ⟨parent, name, slash, hx, hd, -⟩
  · rw [makeDirectory, hx]
    rfl
  · rw [makeDirectory, hx]
    simp only [bind, Except.bind, hd]

end TaskCorpus.Store
