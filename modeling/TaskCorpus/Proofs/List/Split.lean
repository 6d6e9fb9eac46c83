import Mathlib.Data.List.Basic

/-!
Lists that are split at an element.

`First` describes the first element of some kind by what stands before it. `first_cons` is the step
of an induction over such a list. `append_inj_of_head` says that a list can be split in only one way
where elements of one kind stop, and `append_cons_cases` compares two splits at the same element.
-/

namespace TaskCorpus

variable {α β γ : Type}

/-- An element, with its position, satisfies `P`, and all elements before it satisfy `Q`. -/
def First (Q : α → Prop) (P : Nat → α → Prop) (xs : List α) : Prop :=
  ∃ before x after, xs = before ++ x :: after ∧ (∀ y ∈ before, Q y) ∧ P before.length x

variable {Q : α → Prop} {P : Nat → α → Prop} {xs : List α}

lemma not_first_nil : ¬ First Q P [] := by
  rintro ⟨before, x, after, hsplit, -⟩
  simp at hsplit

lemma first_cons {x : α} {xs : List α} :
    First Q P (x :: xs) ↔ P 0 x ∨ Q x ∧ First Q (fun n => P (n + 1)) xs := by
  constructor
  · rintro ⟨before, y, after, hsplit, hbefore, h⟩
    cases before with
    | nil =>
      cases hsplit
      exact .inl h
    | cons z before =>
      cases hsplit
      rw [List.forall_mem_cons] at hbefore
      exact .inr ⟨hbefore.1, before, y, after, rfl, hbefore.2, h⟩
  · rintro (h | ⟨hx, before, y, after, rfl, hbefore, h⟩)
    · exact ⟨[], x, xs, rfl, by simp, h⟩
    · exact ⟨x :: before, y, after, rfl, List.forall_mem_cons.2 ⟨hx, hbefore⟩, h⟩

lemma First.append (h : First Q P xs) (ys : List α) : First Q P (xs ++ ys) := by
  obtain ⟨before, x, after, rfl, hbefore, hx⟩ := h
  exact ⟨before, x, after ++ ys, by simp, hbefore, hx⟩

lemma First.not_forall (h : First Q P xs) (hP : ∀ n x, P n x → ¬ Q x) : ¬ ∀ x ∈ xs, Q x := by
  obtain ⟨before, x, after, rfl, -, hx⟩ := h
  exact fun hall => hP _ x hx (hall x (by simp))

lemma First.unique {P' : Nat → α → Prop} (h : First Q P xs) (h' : First Q P' xs)
    (hP : ∀ n x, P n x → ¬ Q x) (hP' : ∀ n x, P' n x → ¬ Q x) : ∃ n x, P n x ∧ P' n x := by
  induction xs generalizing P P' with
  | nil => exact absurd h not_first_nil
  | cons x xs ih =>
    rcases first_cons.1 h with hx | ⟨hx, h⟩ <;> rcases first_cons.1 h' with hx' | ⟨hx', h'⟩
    · exact ⟨0, x, hx, hx'⟩
    · exact absurd hx' (hP _ _ hx)
    · exact absurd hx (hP' _ _ hx')
    · obtain ⟨n, y, hy, hy'⟩ := ih h h' (fun _ _ => hP _ _) fun _ _ => hP' _ _
      exact ⟨n + 1, y, hy, hy'⟩

/-- Two lists that are the same are split in the same place if all elements before it are of a kind
that the next one is not of. -/
lemma append_inj_of_head {xs ys ts us : List α} (hxs : ∀ x ∈ xs, Q x) (hys : ∀ y ∈ ys, Q y)
    (hts : ∀ t ∈ ts.head?, ¬ Q t) (hus : ∀ u ∈ us.head?, ¬ Q u) (h : xs ++ ts = ys ++ us) :
    xs = ys ∧ ts = us := by
  rcases List.append_eq_append_iff.1 h with ⟨as, rfl, rfl⟩ | ⟨as, rfl, rfl⟩
  · cases as with
    | nil => simp
    | cons a as => exact absurd (hys a (by simp)) (hts a (by simp))
  · cases as with
    | nil => simp
    | cons a as => exact absurd (hxs a (by simp)) (hus a (by simp))

/-- A list is split at two elements that are the same: in one place, or at one of them behind the
other. -/
lemma append_cons_cases {xs ys ts us : List α} {z : α} (h : xs ++ z :: ts = ys ++ z :: us) :
    xs = ys ∧ ts = us ∨ (∃ zs, ys = xs ++ z :: zs ∧ ts = zs ++ z :: us) ∨
      ∃ zs, xs = ys ++ z :: zs ∧ us = zs ++ z :: ts := by
  rcases List.append_eq_append_iff.1 h with ⟨as, hys, hts⟩ | ⟨as, hxs, hus⟩
  · cases as with
    | nil => exact .inl ⟨by simp [hys], (List.cons.inj hts).2⟩
    | cons a as =>
      obtain ⟨rfl, htail⟩ := List.cons.inj hts
      exact .inr (.inl ⟨as, hys, htail⟩)
  · cases as with
    | nil => exact .inl ⟨by simp [hxs], (List.cons.inj hus).2.symm⟩
    | cons a as =>
      obtain ⟨rfl, htail⟩ := List.cons.inj hus
      exact .inr (.inr ⟨as, hxs, htail⟩)

lemma findSome?_flatMap (f : β → Option γ) (g : α → List β) (xs : List α) :
    (xs.flatMap g).findSome? f = xs.findSome? fun x => (g x).findSome? f := by
  induction xs with
  | nil => rfl
  | cons x xs ih =>
    rw [List.flatMap_cons, List.findSome?_append, ih, List.findSome?_cons]
    cases (g x).findSome? f <;> rfl

end TaskCorpus
