import Mathlib.Tactic.Common
import TaskCorpus.Store.Basic

/-!
Where paths lead.

`Path.location` follows the names of a path from a directory without a look at any store; a store
can only refuse to go there. The path of a file name in a directory leads to that name below the
directory, however the path of the directory is written.
-/

namespace TaskCorpus.Path

/-- Follows names from a location, whatever is there. -/
def follow : Location → List String → Location
  | l, [] => l
  | l, name :: names =>
    if name = "." then follow l names
    else if name = ".." then follow l.dropLast names
    else follow (l ++ [name]) names

/-- The location that a path leads to from a directory, if it leads anywhere. -/
def location (here : Location) (p : Path) : Location := follow (p.origin here) p.segments

lemma follow_append (l : Location) (xs ys : List String) :
    follow l (xs ++ ys) = follow (follow l xs) ys := by
  induction xs generalizing l with
  | nil => rfl
  | cons x xs ih =>
    simp only [List.cons_append, follow]
    split
    · exact ih _
    · split
      · exact ih _
      · exact ih _

/-- A name that a file can have: there is no slash in it, and no dot at its end. -/
structure IsFileName (name : String) : Prop where
  noSlash : '/' ∉ name.toList
  ending : ∃ cs c, name.toList = cs ++ [c] ∧ c ≠ '.'

namespace IsFileName

variable {name : String} (h : IsFileName name)

include h

lemma ne_empty : name ≠ "" := by
  rintro rfl
  obtain ⟨cs, c, hcs, -⟩ := h.ending
  simp at hcs

lemma getLast?_ne : name.toList.getLast? ≠ some '.' := by
  obtain ⟨cs, c, hcs, hc⟩ := h.ending
  rw [hcs, List.getLast?_concat]
  exact fun hdot => hc (Option.some.inj hdot)

lemma ne_here : name ≠ "." := by
  rintro rfl
  exact h.getLast?_ne rfl

lemma ne_up : name ≠ ".." := by
  rintro rfl
  exact h.getLast?_ne rfl

lemma not_isAbsolute : (⟨name⟩ : Path).isAbsolute = false := by
  unfold isAbsolute
  split
  · rename_i cs hcs
    exact absurd (by rw [hcs]; simp) h.noSlash
  · rfl

end IsFileName

lemma isAbsolute_eq (p : Path) : p.isAbsolute = (p.text.toList.head? == some '/') := by
  rw [isAbsolute]
  split
  · rename_i cs hcs
    rw [hcs]
    rfl
  · rename_i hne
    rcases hcs : p.text.toList with _ | ⟨c, cs⟩
    · rfl
    · have hc : c ≠ '/' := fun hc => hne cs (by rw [hcs, hc])
      simp [hc]

lemma segmentsFrom_of_noSlash {cs : List Char} (h : '/' ∉ cs) (done : List Char) :
    segmentsFrom done cs = [String.ofList (done.reverse ++ cs)] := by
  induction cs generalizing done with
  | nil => simp [segmentsFrom]
  | cons c cs ih =>
    have hc : c ≠ '/' := fun hc => h (by simp [hc])
    have hcs : '/' ∉ cs := fun hcs => h (by simp [hcs])
    rw [segmentsFrom, if_neg hc, ih hcs]
    simp

lemma segmentsFrom_append (done a b : List Char) :
    segmentsFrom done (a ++ '/' :: b) = segmentsFrom done a ++ segmentsFrom [] b := by
  induction a generalizing done with
  | nil => simp [segmentsFrom]
  | cons c cs ih =>
    simp only [List.cons_append, segmentsFrom]
    split
    · rw [ih, List.cons_append]
    · exact ih _

lemma toList_join (dir : Path) {name : String} (h : IsFileName name) :
    ((dir.join ⟨name⟩).text.toList = name.toList ∧ dir.segments = []) ∨
      ∃ b, (dir.join ⟨name⟩).text.toList = b ++ '/' :: name.toList ∧
        dir.segments = (segmentsFrom [] b).filter (· ≠ "") := by
  rw [join, if_neg (by simp [h.not_isAbsolute]), segments]
  split
  · rename_i hb
    rw [List.reverse_eq_nil_iff] at hb
    exact .inl ⟨rfl, by simp [hb, segmentsFrom]⟩
  · rename_i cs hb
    have hb : dir.text.toList = cs.reverse ++ '/' :: [] := by simpa using congrArg List.reverse hb
    refine .inr ⟨cs.reverse, by simp [hb], ?_⟩
    rw [hb, segmentsFrom_append]
    simp [segmentsFrom]
  · exact .inr ⟨dir.text.toList, by simp, rfl⟩

lemma segments_join (dir : Path) {name : String} (h : IsFileName name) :
    (dir.join ⟨name⟩).segments = dir.segments ++ [name] := by
  have hname : (segmentsFrom [] name.toList).filter (· ≠ "") = [name] := by
    simp [segmentsFrom_of_noSlash h.noSlash, h.ne_empty]
  rcases toList_join dir h with ⟨ht, hs⟩ | ⟨b, ht, hs⟩
  · rw [segments, ht, hs, hname]
    rfl
  · rw [segments, ht, hs, segmentsFrom_append, List.filter_append, hname]

lemma origin_join (here : Location) (dir : Path) {name : String} (h : IsFileName name) :
    (dir.join ⟨name⟩).origin here = dir.origin here := by
  have habs : (dir.join ⟨name⟩).isAbsolute = dir.isAbsolute := by
    rw [join, if_neg (by simp [h.not_isAbsolute])]
    split
    · rename_i hb
      rw [h.not_isAbsolute, isAbsolute_eq, List.reverse_eq_nil_iff.1 hb]
      rfl
    · rename_i hb
      simp [isAbsolute_eq, List.reverse_eq_cons_iff.1 hb]
    · rename_i hb _
      have hne : dir.text.toList ≠ [] := fun hnil => hb (by rw [hnil]; rfl)
      obtain ⟨c, cs, hcs⟩ := List.exists_cons_of_ne_nil hne
      simp [isAbsolute_eq, hcs]
  rw [origin, habs, origin]

theorem location_join (here : Location) (dir : Path) {name : String} (h : IsFileName name) :
    (dir.join ⟨name⟩).location here = dir.location here ++ [name] := by
  rw [location, segments_join dir h, follow_append, origin_join here dir h]
  simp [follow, h.ne_here, h.ne_up, location]

lemma text_join_ne (dir : Path) {name : String} (h : IsFileName name) :
    (dir.join ⟨name⟩).text ≠ "" := by
  intro he
  obtain ⟨cs, c, hcs, -⟩ := h.ending
  rcases toList_join dir h with ⟨ht, -⟩ | ⟨b, ht, -⟩ <;> simp [he, hcs] at ht

lemma lead_eq_drop (cs : List Char) : (lead cs).2 = cs ∨ (lead cs).2 = cs.drop 1 := by
  unfold lead
  split
  · exact .inr rfl
  · exact .inr rfl
  · exact .inr rfl
  · exact .inl rfl

lemma lead_of_noSlash {cs : List Char} (h : '/' ∉ cs) (hd : cs ≠ ['.']) : (lead cs).2 = cs := by
  unfold lead
  split
  · simp at h
  · exact absurd rfl hd
  · simp at h
  · rfl

lemma lead_append (b name : List Char) :
    ∃ b', (lead (b ++ '/' :: name)).2 = b' ++ name ∧ (b' = [] ∨ ∃ a, b' = a ++ ['/']) := by
  rcases lead_eq_drop (b ++ '/' :: name) with h | h
  · exact ⟨b ++ ['/'], by rw [h]; simp, .inr ⟨b, rfl⟩⟩
  · cases b with
    | nil => exact ⟨[], h, .inl rfl⟩
    | cons c cs => exact ⟨cs ++ ['/'], by rw [h]; simp, .inr ⟨cs, rfl⟩⟩

theorem fileName?_join (dir : Path) {name : String} (h : IsFileName name) :
    (dir.join ⟨name⟩).fileName? = some name := by
  obtain ⟨cs, c, hcs, hdot⟩ := h.ending
  have hslash : c ≠ '/' := fun hc => h.noSlash (by simp [hcs, hc])
  -- the name stands behind the start of the path, and a slash before it if anything
  have hbody : ∃ b', (lead (dir.join ⟨name⟩).text.toList).2 = b' ++ name.toList ∧
      (b' = [] ∨ ∃ a, b' = a ++ ['/']) := by
    rcases toList_join dir h with ⟨ht, -⟩ | ⟨b, ht, -⟩
    · refine ⟨[], ?_, .inl rfl⟩
      rw [ht, List.nil_append]
      refine lead_of_noSlash h.noSlash fun hd => h.ne_here ?_
      rw [← String.ofList_toList (s := name), hd]
    · rw [ht]
      exact lead_append b _
  obtain ⟨b', hl, hb'⟩ := hbody
  have hrev : (b' ++ name.toList).reverse = c :: (cs.reverse ++ b'.reverse) := by simp [hcs]
  have hdrop : dropEmpty (b' ++ name.toList).reverse = (b' ++ name.toList).reverse := by
    rw [hrev]
    unfold dropEmpty
    split <;> simp_all
  have htake : (b' ++ name.toList).reverse.takeWhile (· ≠ '/') = name.toList.reverse := by
    rw [List.reverse_append, List.takeWhile_append_of_pos]
    · rcases hb' with rfl | ⟨a, rfl⟩ <;> simp
    · intro x hx
      have hx : x ≠ '/' := fun he => h.noSlash (he ▸ List.mem_reverse.1 hx)
      simpa using hx
  simp only [fileName?, lastBackwards, hl, hdrop, htake, List.reverse_reverse, String.ofList_toList,
    h.ne_empty, h.ne_up, or_self, if_false]

end TaskCorpus.Path
