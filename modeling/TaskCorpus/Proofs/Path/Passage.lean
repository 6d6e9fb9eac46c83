import TaskCorpus.Proofs.Path.Location

/-!
What a path passes.

The first names of a path lead to the locations that it passes on its way, and these are the ones
that its ancestors lead to.
-/

namespace TaskCorpus.Path

/-- A location on the way of a path: the first names of the path lead to it. -/
def Passes (here : Location) (p : Path) (l : Location) : Prop :=
  ∃ names, names <+: p.segments ∧ l = follow (p.origin here) names

lemma passes_location (here : Location) (p : Path) : p.Passes here (p.location here) :=
  ⟨p.segments, List.prefix_rfl, rfl⟩

lemma dropEmpty_eq (cs : List Char) : ∃ dropped, cs = dropped ++ dropEmpty cs ∧
    (dropEmpty cs = [] ∨ dropped = [] ∨ ∃ ds, dropped = ds ++ ['/']) := by
  induction cs using dropEmpty.induct with
  | case1 cs ih =>
    obtain ⟨dropped, hcs, h⟩ := ih
    refine ⟨'/' :: dropped, by rw [dropEmpty, List.cons_append, ← hcs], ?_⟩
    rw [dropEmpty]
    rcases h with h | rfl | ⟨ds, rfl⟩
    · exact .inl h
    · exact .inr (.inr ⟨[], rfl⟩)
    · exact .inr (.inr ⟨'/' :: ds, rfl⟩)
  | case2 cs ih =>
    obtain ⟨dropped, hcs, h⟩ := ih
    refine ⟨'.' :: '/' :: dropped, by rw [dropEmpty, List.cons_append, List.cons_append, ← hcs], ?_⟩
    rw [dropEmpty]
    rcases h with h | rfl | ⟨ds, rfl⟩
    · exact .inl h
    · exact .inr (.inr ⟨['.'], rfl⟩)
    · exact .inr (.inr ⟨'.' :: '/' :: ds, rfl⟩)
  | case3 => exact ⟨['.'], rfl, .inl rfl⟩
  | case4 cs h₁ h₂ h₃ => exact ⟨[], by rw [dropEmpty.eq_4 _ h₁ h₂ h₃]; rfl, .inr (.inl rfl)⟩

lemma lead_cases (cs : List Char) :
    ((lead cs).1 ++ (lead cs).2 = cs) ∧ (((lead cs).1 = [] ∧ cs.head? ≠ some '/') ∨
      (lead cs).1 = ['/'] ∨
      ((lead cs).1 = ['.'] ∧ ((lead cs).2 = [] ∨ ∃ b, (lead cs).2 = '/' :: b))) := by
  unfold lead
  split
  · exact ⟨rfl, .inr (.inl rfl)⟩
  · exact ⟨rfl, .inr (.inr ⟨rfl, .inl rfl⟩)⟩
  · exact ⟨rfl, .inr (.inr ⟨rfl, .inr ⟨_, rfl⟩⟩)⟩
  · rename_i hslash _ _
    refine ⟨rfl, .inl ⟨rfl, fun hhead => ?_⟩⟩
    obtain ⟨cs, rfl⟩ := List.head?_eq_some_iff.1 hhead
    exact hslash cs rfl

lemma segments_prefix {p q : Path} {b : List Char} (h : p.text.toList = q.text.toList ++ '/' :: b) :
    q.segments <+: p.segments := by
  rw [segments, segments, h, segmentsFrom_append, List.filter_append]
  exact List.prefix_append _ _

lemma dropEmpty_dropWhile (cs : List Char) : dropEmpty (cs.dropWhile (· ≠ '/')) = [] ∨
    ∃ ds, cs = ds ++ '/' :: dropEmpty (cs.dropWhile (· ≠ '/')) := by
  have hcs := List.takeWhile_append_dropWhile (p := (· ≠ '/')) (l := cs)
  rcases hd : cs.dropWhile (· ≠ '/') with _ | ⟨c, before⟩
  · exact .inl rfl
  obtain rfl : c = '/' := by
    have hne : cs.dropWhile (· ≠ '/') ≠ [] := by rw [hd]; exact List.cons_ne_nil _ _
    have hnot := List.head_dropWhile_not (· ≠ '/') hne
    simp only [hd, List.head_cons] at hnot
    simpa using hnot
  rw [hd] at hcs
  obtain ⟨dropped, hbefore, hdropped⟩ := dropEmpty_eq before
  rw [dropEmpty]
  rcases hdropped with h | rfl | ⟨ds, rfl⟩
  · exact .inl h
  · exact .inr ⟨_, by rw [← hcs, ← List.nil_append (dropEmpty before), ← hbefore]⟩
  · refine .inr ⟨cs.takeWhile (· ≠ '/') ++ '/' :: ds, ?_⟩
    rw [List.append_assoc, List.cons_append, List.append_cons ds, ← hbefore, hcs]

/-- How the parent of a path is written: not at all, as the root, or as the start of the path in
front of a slash. -/
lemma text_parent? {p q : Path} (h : p.parent? = some q) :
    (q.text.toList = [] ∧ p.text.toList.head? ≠ some '/') ∨
      (q.text.toList = ['/'] ∧ p.text.toList.head? = some '/') ∨
      (q.text.toList ≠ [] ∧ ∃ b, p.text.toList = q.text.toList ++ '/' :: b) := by
  obtain ⟨hlead, hstart⟩ := lead_cases p.text.toList
  unfold parent? lastBackwards at h
  generalize lead p.text.toList = x at h hlead hstart
  obtain ⟨start, rest⟩ := x
  dsimp only at h hlead hstart
  obtain ⟨trailing, htrailing, -⟩ := dropEmpty_eq rest.reverse
  split at h
  · split at h <;> cases h
    -- no last part: the path is a dot, and its parent is empty
    rename_i hdot
    exact .inl ⟨rfl, by simp [← hlead, hdot]⟩
  rename_i hlast
  cases h
  rcases dropEmpty_dropWhile (dropEmpty rest.reverse) with hnone | ⟨ds, hds⟩
  · -- nothing stands before the last part but the start
    rw [hnone]
    rcases hstart with ⟨rfl, hhead⟩ | rfl | ⟨rfl, rfl | ⟨b, rfl⟩⟩
    · exact .inl ⟨rfl, hhead⟩
    · exact .inr (.inl ⟨rfl, by simp [← hlead]⟩)
    · simp [dropEmpty] at hlast
    · exact .inr (.inr ⟨by simp, b, by simp [← hlead]⟩)
  · -- a slash stands before the last part
    generalize dropEmpty (List.dropWhile _ (dropEmpty rest.reverse)) = before at hds ⊢
    rw [hds] at htrailing
    have hrest := congrArg List.reverse htrailing
    rw [List.reverse_reverse] at hrest
    by_cases hq : start ++ before.reverse = []
    · obtain ⟨rfl, hbefore⟩ := List.append_eq_nil_iff.1 hq
      refine .inl ⟨by simp [hbefore], ?_⟩
      rcases hstart with ⟨-, hhead⟩ | hstart | ⟨hstart, -⟩
      · exact hhead
      · cases hstart
      · cases hstart
    · exact .inr (.inr ⟨by simpa using hq, (trailing ++ ds).reverse, by simp [← hlead, hrest]⟩)

lemma segments_parent? {p q : Path} (h : p.parent? = some q) : q.segments <+: p.segments := by
  rcases text_parent? h with ⟨hq, -⟩ | ⟨hq, -⟩ | ⟨-, b, hb⟩
  · simp [segments, hq, segmentsFrom]
  · simp [segments, hq, segmentsFrom]
  · exact segments_prefix hb

lemma origin_parent? {p q : Path} (h : p.parent? = some q) (here : Location) :
    q.origin here = p.origin here := by
  have habs : q.isAbsolute = p.isAbsolute := by
    rw [isAbsolute_eq, isAbsolute_eq]
    rcases text_parent? h with ⟨hq, hp⟩ | ⟨hq, hp⟩ | ⟨hne, b, hb⟩
    · rw [hq]
      simpa using hp
    · rw [hq, hp]
      rfl
    · obtain ⟨c, cs, hq⟩ := List.exists_cons_of_ne_nil hne
      rw [hb, hq]
      rfl
  rw [origin, origin, habs]

lemma Passes.of_parent? {here : Location} {p q : Path} {l : Location} (hl : q.Passes here l)
    (h : p.parent? = some q) : p.Passes here l := by
  obtain ⟨names, hnames, hl⟩ := hl
  exact ⟨names, hnames.trans (segments_parent? h), origin_parent? h here ▸ hl⟩

end TaskCorpus.Path
