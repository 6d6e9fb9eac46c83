import TaskCorpus.Proofs.Json.Delivered

/-!
Documents at the beginning of a text.

A word that ends before the text does is a word of every longer text. So where a text and a
beginning of it are both documents, they are the same document, unless it is a number.
-/

namespace TaskCorpus.Json

/-! ### Words in front of more text -/

section Numbers

variable {cs ds rest : List Char}

lemma digits_append (h : digits cs = .ok (ds, rest)) (hr : rest ≠ []) (xs : List Char) :
    digits (cs ++ xs) = .ok (ds, rest ++ xs) := by
  unfold digits at h ⊢
  dsimp only at h ⊢
  split at h
  · cases h
  · rename_i hne
    cases h
    have hdrop : (cs.dropWhile Char.isDigit).isEmpty = false := by simpa using hr
    have htake : (cs.takeWhile Char.isDigit).length ≠ cs.length := by
      intro hl
      refine hr (List.length_eq_zero_iff.1 ?_)
      have hsum :=
        congrArg List.length (List.takeWhile_append_dropWhile (p := Char.isDigit) (l := cs))
      rw [List.length_append] at hsum
      omega
    rw [List.takeWhile_append, if_neg htake, if_neg hne, List.dropWhile_append, hdrop]
    rfl

lemma integerPart_append (h : integerPart cs = .ok (ds, rest)) (hr : rest ≠ []) (xs : List Char) :
    integerPart (cs ++ xs) = .ok (ds, rest ++ xs) := by
  unfold integerPart at h ⊢
  split at h
  · cases h
  · rename_i hzero
    rw [digits_append h hr]
    split
    · rename_i heq
      cases heq
      exact absurd h (hzero _ _ _)
    · rfl

lemma fractionPart_append (h : fractionPart cs = .ok (ds, rest)) (hr : rest ≠ [])
    (xs : List Char) : fractionPart (cs ++ xs) = .ok (ds, rest ++ xs) := by
  unfold fractionPart at h
  split at h
  · exact digits_append h hr xs
  · rename_i hpoint
    cases h
    obtain ⟨c, cs, rfl⟩ := List.exists_cons_of_ne_nil hr
    rw [List.cons_append, fractionPart.eq_2]
    intro cs' heq
    cases heq
    exact hpoint _ rfl

lemma exponentDigits_append {n : Int} (h : exponentDigits cs = .ok (n, rest)) (hr : rest ≠ [])
    (xs : List Char) : exponentDigits (cs ++ xs) = .ok (n, rest ++ xs) := by
  unfold exponentDigits at h
  split at h <;> obtain ⟨⟨ds, rest'⟩, hd, heq⟩ := map_eq_ok h <;> cases heq
  · rw [List.cons_append, exponentDigits, digits_append hd hr]
    rfl
  · rw [List.cons_append, exponentDigits, digits_append hd hr]
    rfl
  · rename_i hplus hminus
    obtain ⟨c, cs, rfl⟩ : ∃ c cs', cs = c :: cs' := by
      cases cs with
      | nil => cases hd
      | cons c cs => exact ⟨c, cs, rfl⟩
    rw [List.cons_append, exponentDigits.eq_3, ← List.cons_append, digits_append hd hr]
    · rfl
    · intro cs' heq
      cases heq
      exact hplus _ rfl
    · intro cs' heq
      cases heq
      exact hminus _ rfl

lemma exponentPart_append {n : Option Int} (h : exponentPart cs = .ok (n, rest)) (hr : rest ≠ [])
    (xs : List Char) : exponentPart (cs ++ xs) = .ok (n, rest ++ xs) := by
  unfold exponentPart at h
  split at h
  · obtain ⟨⟨n, rest'⟩, hd, heq⟩ := map_eq_ok h
    cases heq
    rw [List.cons_append, exponentPart, exponentDigits_append hd hr]
    rfl
  · obtain ⟨⟨n, rest'⟩, hd, heq⟩ := map_eq_ok h
    cases heq
    rw [List.cons_append, exponentPart, exponentDigits_append hd hr]
    rfl
  · rename_i hsmall hbig
    cases h
    obtain ⟨c, cs, rfl⟩ := List.exists_cons_of_ne_nil hr
    rw [List.cons_append, exponentPart.eq_3]
    · intro cs' heq
      cases heq
      exact hsmall _ rfl
    · intro cs' heq
      cases heq
      exact hbig _ rfl

lemma ne_nil_of_length_le {as bs : List Char} (h : as.length ≤ bs.length) (ha : as ≠ []) :
    bs ≠ [] := by
  rintro rfl
  exact ha (List.length_eq_zero_iff.1 (Nat.le_zero.1 h))

lemma unsigned_append {negative : Bool} {p : NumberParts} (h : unsigned negative cs = .ok (p, rest))
    (hr : rest ≠ []) (xs : List Char) : unsigned negative (cs ++ xs) = .ok (p, rest ++ xs) := by
  obtain ⟨⟨integer, r₁⟩, h₁, h⟩ := bind_eq_ok h
  obtain ⟨⟨fraction, r₂⟩, h₂, h⟩ := bind_eq_ok h
  obtain ⟨⟨exponent, r₃⟩, h₃, h⟩ := bind_eq_ok h
  cases h
  have hr₂ := ne_nil_of_length_le (exponentPart_length h₃) hr
  have hr₁ := ne_nil_of_length_le (fractionPart_length h₂) hr₂
  simp only [unsigned, integerPart_append h₁ hr₁, fractionPart_append h₂ hr₂,
    exponentPart_append h₃ hr, bind, Except.bind]
  rfl

lemma number_append {p : NumberParts} (h : number cs = .ok (p, rest)) (hr : rest ≠ [])
    (xs : List Char) : number (cs ++ xs) = .ok (p, rest ++ xs) := by
  unfold number at h
  split at h
  · exact unsigned_append h hr xs
  · rename_i hminus
    obtain ⟨c, cs, rfl⟩ := List.exists_cons_of_ne_nil
      (ne_nil_of_length_le (Nat.le_of_lt (unsigned_length h)) hr)
    rw [List.cons_append, number.eq_2, ← List.cons_append, unsigned_append h hr]
    intro cs' heq
    cases heq
    exact hminus _ rfl

end Numbers

lemma string_append {g : Gathering} {cs rest : List Char} {t : Token}
    (h : string g cs = .ok (t, rest)) (xs : List Char) :
    string g (cs ++ xs) = .ok (t, rest ++ xs) := by
  fun_induction string g cs with
  | case2 g cs =>
    cases h
    rw [List.cons_append, string]
  | case3 g a b c d cs u hu ih =>
    simp only [List.cons_append, string, hu]
    exact ih h
  | case6 g e cs _ hu c hc ih =>
    rw [List.cons_append, List.cons_append, string.eq_5 _ _ _ (fun _ _ _ _ _ he _ => hu he) hu, hc]
    exact ih h
  | case10 g c cs hquote _ _ hescape hend hc ih =>
    have hslash : c ≠ '\\' := by
      rintro rfl
      cases cs with
      | nil => exact hend rfl rfl
      | cons e cs => exact hescape e cs rfl rfl
    rw [List.cons_append, string.eq_7, if_neg hc]
    · exact ih h
    · exact hquote
    all_goals simp [hslash]
  -- in the other cases no string is read
  | case1 => cases h
  | case4 => cases h
  | case5 => cases h
  | case7 => cases h
  | case8 => cases h
  | case9 => cases h

lemma letters_append {t u : Token} {expected cs rest : List Char}
    (h : letters t expected cs = (u, rest)) (hu : ∀ b, u ≠ .stray b) (xs : List Char) :
    letters t expected (cs ++ xs) = (u, rest ++ xs) := by
  unfold letters at h
  split at h
  · rename_i hpre
    cases h
    obtain ⟨more, rfl⟩ := List.isPrefixOf_iff_prefix.1 hpre
    rw [letters, if_pos (List.isPrefixOf_iff_prefix.2 ?_), List.append_assoc]
    · simp
    · simp [List.append_assoc]
  · cases h
    exact absurd rfl (hu _)

def Token.Legible (t : Token) : Prop := (∀ b, t ≠ .torn b) ∧ ∀ b, t ≠ .stray b

/-- A word is the same in a longer text, unless it is a number that the text ends with. -/
lemma word_append {c : Char} {cs rest : List Char} {t : Token} (h : word c cs = (t, rest))
    (ht : t.Legible) (hr : rest = [] → ∀ n, t ≠ .number n) (xs : List Char) :
    word c (cs ++ xs) = (t, rest ++ xs) := by
  unfold word at h
  split at h
  case h_7 => exact letters_append h ht.2 xs
  case h_8 => exact letters_append h ht.2 xs
  case h_9 => exact letters_append h ht.2 xs
  case h_10 =>
    split at h
    · rename_i r hs
      subst h
      simp only [word, string_append hs xs]
    · cases h
      exact absurd rfl (ht.1 _)
  case h_11 =>
    split at h
    · rename_i hc
      split at h
      · rename_i p cs' hn
        cases h
        -- a number could go on at the end of the text
        have hne : rest ≠ [] := fun hnil => hr hnil _ rfl
        rw [word_number _ hc, ← List.cons_append, number_append hn hne]
      · cases h
        exact absurd rfl (ht.2 _)
    · cases h
      exact absurd rfl (ht.2 _)
  all_goals
    cases h
    rfl

/-- The words of a text are the first ones of every longer text, if all of them can be read and
the last one is not a number. -/
theorem tokens_append {cs : List Char} (h : ∀ t ∈ tokens cs, t.Legible)
    (hlast : ∀ n, (tokens cs).getLast? ≠ some (.number n)) (xs : List Char) :
    tokens (cs ++ xs) = tokens cs ++ tokens xs := by
  fun_induction tokens cs with
  | case1 => rfl
  | case2 c cs hc ih =>
    rw [List.cons_append, tokens, if_pos hc]
    exact ih h hlast
  | case3 c cs hc ih =>
    obtain ⟨hfirst, hrest⟩ := List.forall_mem_cons.1 h
    -- a number that nothing follows would be the last word
    have hnumber : (word c cs).2 = [] → ∀ n, (word c cs).1 ≠ .number n := by
      intro hnil n heq
      refine hlast n ?_
      rw [hnil, heq, tokens]
      rfl
    rw [List.cons_append, tokens, if_neg hc, word_append rfl hfirst hnumber, List.cons_append]
    refine congrArg _ (ih hrest fun n hn => hlast n ?_)
    rw [List.getLast?_cons, hn]
    rfl

/-! ### Documents in front of more text -/

namespace Assembly

variable {a : Assembly} {d e : Document} {ts : List Token}

lemma foldl_faulty (d : Document) (ts : List Token) : ts.foldl step (.faulty d) = .faulty d := by
  induction ts with
  | nil => rfl
  | cons t ts ih => exact ih

lemma foldl_complete (h : ts.foldl step (.complete d) = .complete e) : e = d := by
  cases ts with
  | nil => exact (Assembly.complete.inj h).symm
  | cons t ts =>
    rw [List.foldl_cons, step, foldl_faulty] at h
    cases h

lemma onLabel_halts {t : Token} (hs : ∀ s, t ≠ .string s) (hu : ∀ f, t ≠ .unpaired f)
    (stack : List Frame) : ∃ d, onLabel stack t = .faulty d := by
  unfold onLabel
  split
  · exact absurd rfl (hs _)
  · exact absurd rfl (hu _)
  · exact ⟨_, rfl⟩
  · exact ⟨_, rfl⟩

lemma onSeparator_halts {t : Token} (hc : t ≠ .comma) (ha : t ≠ .closeArray)
    (ho : t ≠ .closeObject) (stack : List Frame) : ∃ d, onSeparator stack t = .faulty d := by
  unfold onSeparator
  split
  · exact absurd rfl hc
  · exact absurd rfl ha
  · exact absurd rfl hc
  · exact absurd rfl ho
  · exact ⟨_, rfl⟩
  · exact ⟨_, rfl⟩

lemma step_of_scalar {t : Token} (hs : ∀ s, t ≠ .string s) (hu : ∀ f, t ≠ .unpaired f)
    (ht : t ∉ [.colon, .comma, .closeArray, .closeObject]) (a : Assembly) :
    (∃ d, a.step t = .faulty d) ∨ ∃ stack, a.step t = onValue stack t := by
  simp only [List.mem_cons, List.not_mem_nil, or_false, not_or] at ht
  obtain ⟨hcolon, hcomma, harray, hobject⟩ := ht
  unfold step
  split
  · exact .inl ⟨_, rfl⟩
  · exact .inl ⟨_, rfl⟩
  · exact .inr ⟨_, rfl⟩
  · exact .inr ⟨_, if_neg harray⟩
  · exact .inr ⟨_, if_neg harray⟩
  · rw [if_neg hobject]
    exact .inl (onLabel_halts hs hu _)
  · rw [if_neg hobject]
    exact .inl (onLabel_halts hs hu _)
  · rw [if_neg hcolon]
    exact .inl ⟨_, rfl⟩
  · exact .inl (onSeparator_halts hcomma harray hobject _)

lemma step_torn (a : Assembly) (b : Break) : ∃ d, a.step (.torn b) = .faulty d := by
  rcases step_of_scalar (t := .torn b) (by simp) (by simp) (by simp) a with h | ⟨stack, h⟩
  · exact h
  · exact ⟨_, h⟩

lemma step_stray (a : Assembly) (b : Break) : ∃ d, a.step (.stray b) = .faulty d := by
  rcases step_of_scalar (t := .stray b) (by simp) (by simp) (by simp) a with h | ⟨stack, h⟩
  · exact h
  · exact ⟨_, h⟩

/-- A number brings only itself to its end. -/
lemma step_number {n : Option Number} (h : a.step (.number n) = .complete d) : d = .number n := by
  rcases step_of_scalar (t := .number n) (by simp) (by simp) (by simp) a with ⟨e, he⟩ | ⟨stack, he⟩
  · rw [he] at h
    cases h
  · rw [he, onValue, deliver.eq_def] at h
    split at h <;> cases h
    rfl

lemma legible_of_complete (h : ts.foldl step a = .complete d) : ∀ t ∈ ts, t.Legible := by
  induction ts generalizing a with
  | nil => simp
  | cons t ts ih =>
    refine List.forall_mem_cons.2 ⟨⟨?_, ?_⟩, ih h⟩
    · rintro b rfl
      obtain ⟨e, he⟩ := step_torn a b
      rw [List.foldl_cons, he, foldl_faulty] at h
      cases h
    · rintro b rfl
      obtain ⟨e, he⟩ := step_stray a b
      rw [List.foldl_cons, he, foldl_faulty] at h
      cases h

lemma getLast?_of_complete (h : ts.foldl step a = .complete d) (hd : ∀ n, d ≠ .number n)
    (n : Option Number) : ts.getLast? ≠ some (.number n) := by
  intro hlast
  obtain ⟨us, rfl⟩ := List.getLast?_eq_some_iff.1 hlast
  rw [List.foldl_append] at h
  exact hd n (step_number h)

end Assembly

lemma ofText_eq {s : String} {d : Document} (h : Document.ofText s = (d, true)) :
    (tokens s.toList).foldl Assembly.step (.reading [] .value) = .complete d :=
  Assembly.finish_eq h

/-- **Documents at the beginning of a text**: where a text is a document, no other document than
a number is at its beginning. -/
theorem ofText_append {s t : String} {d e : Document} (h : Document.ofText s = (d, true))
    (hd : ∀ n, d ≠ .number n) (hst : Document.ofText (s ++ t) = (e, true)) : e = d := by
  have hs := ofText_eq h
  have hst := ofText_eq hst
  rw [String.toList_append, tokens_append (Assembly.legible_of_complete hs)
    (Assembly.getLast?_of_complete hs hd), List.foldl_append, hs] at hst
  exact Assembly.foldl_complete hst

lemma exists_append_of_extract {s t : String} {n : Nat}
    (h : String.fromUTF8? (s.toUTF8.extract 0 n) = some t) : ∃ u, s = t ++ u := by
  rw [String.toUTF8_eq_toByteArray, String.fromUTF8?] at h
  split at h
  · rename_i hvalid
    have ht : t.toByteArray = s.toByteArray.extract 0 n := congrArg _ (Option.some.inj h).symm
    by_cases hn : n ≤ s.utf8ByteSize
    · have hpos : String.Pos.Raw.IsValid s ⟨n⟩ :=
        String.Pos.Raw.isValid_iff_isValidUTF8_extract_zero.2 ⟨hn, hvalid⟩
      obtain ⟨a, b, rfl, hp⟩ := String.Pos.Raw.isValid_iff_exists_append.1 hpos
      have hsize : n = a.toByteArray.size := congrArg String.Pos.Raw.byteIdx hp
      rw [String.toByteArray_append, ByteArray.extract_append_eq_left hsize] at ht
      exact ⟨b, by rw [String.toByteArray_inj.1 ht]⟩
    · have hall : s.toByteArray.extract 0 n = s.toByteArray := by
        rw [← Nat.max_eq_left (Nat.le_of_not_ge hn)]
        exact ByteArray.extract_zero_max_size
      rw [hall] at ht
      exact ⟨"", by rw [String.toByteArray_inj.1 ht, String.append_empty]⟩
  · cases h

end TaskCorpus.Json
