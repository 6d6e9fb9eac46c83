import TaskCorpus.Proofs.Launch.Pieces
import TaskCorpus.Proofs.List.Split

/-!
Values that are told by how they are written.

The pieces of a part of a list or table go up to a token that ends an item. `Tells` says that up to
there they say which part it is: a value by the kind of its first token, then by its own text, its
items or its entries. As the text of a plain value says what its pieces are, it says what the value
is.
-/

namespace TaskCorpus.Launch

/-- The tokens that end an item of a list or table. -/
def closers : List Token := [.mark ',', .mark ']', .mark '}']

/-- The tokens end here, or an item does. -/
def Ends (ts : List Token) : Prop := ∀ t ∈ ts.head?, t ∈ closers

/-- The tokens do not begin with the end of an item. -/
def Opens (ts : List Token) : Prop := ∃ t rest, ts = t :: rest ∧ t ∉ closers

/-- Up to the end of an item, the tokens of a part say which of the two it is. -/
def Tells {α : Type} (f : α → List Token) (a b : α) : Prop :=
  ∀ ts us, Ends ts → Ends us → f a ++ ts = f b ++ us → a = b ∧ ts = us

/-! ### Parts with commas between them -/

section Separated

variable {α : Type} {f : α → List Token} {as bs : List α} {close : Char} {follows : Bool}
  {ts us : List Token}

lemma mem_closers (hclose : close = ']' ∨ close = '}') : Token.mark close ∈ closers := by
  rcases hclose with rfl | rfl <;> decide

lemma ends_separated (hclose : close = ']' ∨ close = '}') :
    Ends (separated f true as ++ .mark close :: ts) := by
  cases as with
  | nil => simpa [Ends, separated] using mem_closers hclose
  | cons a as => simp [Ends, separated, closers]

lemma separated_cons_ne {a : α} (hclose : close = ']' ∨ close = '}') (ha : Opens (f a)) :
    separated f follows (a :: as) ++ ts ≠ .mark close :: us := by
  intro h
  cases follows with
  | true =>
    have hcomma : ',' = close := by simpa [separated] using congrArg List.head? h
    subst hcomma
    exact absurd hclose (by decide)
  | false =>
    obtain ⟨t, rest, hfa, ht⟩ := ha
    have htclose : t = .mark close := by simpa [separated, hfa] using congrArg List.head? h
    exact ht (htclose ▸ mem_closers hclose)

lemma separated_inj (hclose : close = ']' ∨ close = '}') (htells : ∀ a ∈ as, ∀ b ∈ bs, Tells f a b)
    (has : ∀ a ∈ as, Opens (f a)) (hbs : ∀ b ∈ bs, Opens (f b))
    (h : separated f follows as ++ .mark close :: ts =
      separated f follows bs ++ .mark close :: us) : as = bs ∧ ts = us := by
  induction as generalizing bs follows with
  | nil =>
    cases bs with
    | nil => exact ⟨rfl, (List.cons.inj h).2⟩
    | cons b bs => exact absurd h.symm (separated_cons_ne hclose (hbs b (by simp)))
  | cons a as ih =>
    cases bs with
    | nil => exact absurd h (separated_cons_ne hclose (has a (by simp)))
    | cons b bs =>
      have hparts : f a ++ (separated f true as ++ .mark close :: ts) =
          f b ++ (separated f true bs ++ .mark close :: us) := by
        simpa [separated] using h
      obtain ⟨rfl, hrest⟩ := htells a (by simp) b (by simp) _ _ (ends_separated hclose)
        (ends_separated hclose) hparts
      obtain ⟨rfl, htail⟩ := ih (fun x hx y hy => htells x (by simp [hx]) y (by simp [hy]))
        (fun x hx => has x (by simp [hx])) (fun y hy => hbs y (by simp [hy])) hrest
      exact ⟨rfl, htail⟩

end Separated

/-! ### The first piece -/

inductive Shape where
  | text
  | number
  | flag
  | list
  | table

def Token.shape? : Token → Option Shape
  | .text _ => some .text
  | .mark c =>
    if c = '-' ∨ c.isDigit then some .number
    else if c = 't' ∨ c = 'f' then some .flag
    else if c = '[' then some .list
    else if c = '{' then some .table
    else none

namespace Value

variable {v w : Value} {ts us : List Token}

def shape : Value → Shape
  | .string _ => .text
  | .integer _ => .number
  | .float _ => .number
  | .boolean _ => .flag
  | .datetime _ => .text
  | .list _ => .list
  | .table _ => .table

lemma exists_shape? (h : v.Plain) : ∃ t rest, v.tokens = t :: rest ∧ t.shape? = some v.shape := by
  cases h with
  | string s => exact ⟨_, _, rfl, rfl⟩
  | integer n =>
    obtain ⟨c, cs, hcs⟩ := List.exists_cons_of_ne_nil (Decimal.Layout.integer_ne_nil n)
    have hc : c = '-' ∨ c.isDigit = true := Decimal.Layout.mem_integer (n := n) (by simp [hcs])
    exact ⟨.mark c, marks cs, by simp [tokens, hcs], if_pos hc⟩
  | boolean b => cases b <;> exact ⟨_, _, rfl, rfl⟩
  | list vs _ => exact ⟨_, _, by rw [tokens], rfl⟩
  | table es _ _ => exact ⟨_, _, by rw [tokens], rfl⟩

lemma opens_tokens (h : v.Plain) : Opens v.tokens := by
  obtain ⟨t, rest, htokens, hshape⟩ := exists_shape? h
  have hnone : ∀ t ∈ closers, t.shape? = none := by decide
  refine ⟨t, rest, htokens, fun ht => ?_⟩
  rw [hnone t ht] at hshape
  cases hshape

lemma shape_eq (hv : v.Plain) (hw : w.Plain) (h : v.tokens ++ ts = w.tokens ++ us) :
    v.shape = w.shape := by
  obtain ⟨t, rest, hvt, htv⟩ := exists_shape? hv
  obtain ⟨u, rest', hwu, huw⟩ := exists_shape? hw
  rw [hvt, hwu] at h
  obtain ⟨rfl, -⟩ := List.cons.inj h
  exact Option.some.inj (htv.symm.trans huw)

/-! ### All pieces -/

lemma mark_not_mem_closers {c : Char} (h : c ∉ structural) : Token.mark c ∉ closers := by
  have hclosers : ∀ d, Token.mark d ∈ closers → d ∈ structural := by
    intro d hd
    simp only [closers, List.mem_cons, Token.mark.injEq, List.not_mem_nil, or_false] at hd
    rcases hd with rfl | rfl | rfl <;> decide
  exact fun hc => h (hclosers c hc)

lemma opens_entryTokens {e : String × Value} (hk : ∀ c ∈ e.1.toList, c ∉ structural) :
    Opens (entryTokens e) := by
  rw [entryTokens_eq]
  cases hkey : e.1.toList with
  | nil => exact ⟨.mark ':', _, rfl, by decide⟩
  | cons c cs => exact ⟨.mark c, _, rfl, mark_not_mem_closers (hk c (by simp [hkey]))⟩

lemma tells_entry {e e' : String × Value} (hk : ∀ c ∈ e.1.toList, c ∉ structural)
    (hk' : ∀ c ∈ e'.1.toList, c ∉ structural) (h : Tells tokens e.2 e'.2) :
    Tells entryTokens e e' := by
  intro ts us hts hus heq
  have hcolon : ∀ {k : String}, (∀ c ∈ k.toList, c ∉ structural) →
      ∀ t ∈ marks k.toList, t ≠ .mark ':' := by
    intro k hk t ht
    obtain ⟨c, hc, rfl⟩ := List.mem_map.1 ht
    rintro ⟨⟩
    exact hk _ hc (by decide)
  rw [entryTokens_eq, entryTokens_eq, List.append_assoc, List.append_assoc] at heq
  obtain ⟨hkeys, hvalues⟩ := append_inj_of_head (hcolon hk) (hcolon hk') (by simp) (by simp) heq
  obtain ⟨hvalue, hrest⟩ := h ts us hts hus (List.cons.inj hvalues).2
  exact ⟨Prod.ext (String.toList_inj.1 (marks_inj hkeys)) hvalue, hrest⟩

/-- Up to the end of an item, the pieces of a plain value say which one it is. -/
theorem tells_tokens (hv : v.Plain) (hw : w.Plain) : Tells tokens v w := by
  -- the induction is on the one value; the first piece says that the other one is of its kind
  induction hv generalizing w with
  | string s =>
    intro ts us _ _ h
    have hshape := shape_eq (.string s) hw h
    cases hw <;> cases hshape
    case string t =>
      obtain ⟨htext, hrest⟩ := List.cons.inj h
      exact ⟨congrArg Value.string (String.toList_inj.1 (Token.text.inj htext)), hrest⟩
  | integer n =>
    intro ts us hts hus h
    have hshape := shape_eq (.integer n) hw h
    cases hw <;> cases hshape
    case integer m =>
      have hdigits : ∀ k, ∀ t ∈ marks (Decimal.Layout.integer k), t ∉ closers := by
        intro k t ht
        obtain ⟨c, hc, rfl⟩ := List.mem_map.1 ht
        exact mark_not_mem_closers (not_structural_of_mem_integer hc)
      obtain ⟨hmarks, hrest⟩ := append_inj_of_head (hdigits n) (hdigits m)
        (fun t ht => not_not_intro (hts t ht)) (fun u hu => not_not_intro (hus u hu)) h
      exact ⟨congrArg Value.integer (Decimal.Layout.integer_inj (marks_inj hmarks)), hrest⟩
  | boolean b =>
    intro ts us _ _ h
    have hshape := shape_eq (.boolean b) hw h
    cases hw <;> cases hshape
    case boolean b' => cases b <;> cases b' <;> simp [tokens, chars] at h ⊢ <;> exact h
  | list vs hvs ih =>
    intro ts us _ _ h
    have hshape := shape_eq (.list vs hvs) hw h
    cases hw <;> cases hshape
    case list ws hws =>
      have hitems : separated tokens false vs ++ .mark ']' :: ts =
          separated tokens false ws ++ .mark ']' :: us := by
        simpa [tokens, itemsTokens_eq] using h
      obtain ⟨rfl, hrest⟩ := separated_inj (.inl rfl) (fun v hv w hw => ih v hv (hws w hw))
        (fun v hv => opens_tokens (hvs v hv)) (fun w hw => opens_tokens (hws w hw)) hitems
      exact ⟨rfl, hrest⟩
  | table es hk hes ih =>
    intro ts us _ _ h
    have hshape := shape_eq (.table es hk hes) hw h
    cases hw <;> cases hshape
    case table fs hk' hfs =>
      have hentries : separated entryTokens false es ++ .mark '}' :: ts =
          separated entryTokens false fs ++ .mark '}' :: us := by
        simpa [tokens, entriesTokens_eq] using h
      obtain ⟨rfl, hrest⟩ := separated_inj (.inr rfl)
        (fun e he f hf => tells_entry (hk e he) (hk' f hf) (ih e he (hfs f hf)))
        (fun e he => opens_entryTokens (hk e he)) (fun f hf => opens_entryTokens (hk' f hf))
        hentries
      exact ⟨rfl, hrest⟩

def Nests : Value → Prop
  | .list _ => True
  | .table _ => True
  | _ => False

/-- Lists and tables are written in the same way everywhere. -/
lemma render_of_nests (h : v.Nests) : v.render = v.renderItem := by
  cases v with
  | list vs => simp [render, renderItem, chars]
  | table es => simp [render, renderItem, chars]
  | _ => exact h.elim

/-- **Plain values** are told by how they are written inside a list or table, and lists and tables
by the argument that sets a key to them. -/
theorem renderItem_inj (hv : v.Plain) (hw : w.Plain) :
    (v.renderItem = w.renderItem ↔ v = w) ∧
      (v.Nests → w.Nests → ∀ key, override key v = override key w ↔ v = w) := by
  have hitem : v.renderItem = w.renderItem → v = w := by
    intro h
    have htokens := tokens_of_chars hv hw (String.ofList_injective h)
    have hend : Ends [] := by simp [Ends]
    exact (tells_tokens hv hw [] [] hend hend (by rw [htokens])).1
  refine ⟨⟨hitem, fun h => by rw [h]⟩, fun hnv hnw key => ⟨fun h => hitem ?_, fun h => by rw [h]⟩⟩
  rw [← render_of_nests hnv, ← render_of_nests hnw]
  exact (String.append_right_inj _).1 h

/-- Two tables of a list of texts with a quote, a comma and a backslash, which are written
`{n:['\',',b']}` and `{n:['\',','b']}`. -/
theorem renderItem_inj_sample :
    let v : Value := .table [("n", .list [.string "\\", .string ",b"])]
    let w : Value := .table [("n", .list [.string "',", .string "b"])]
    v.Plain ∧ w.Plain ∧ v.Nests ∧ w.Nests ∧
      v.renderItem ≠ w.renderItem ∧ override "k" v ≠ override "k" w := by
  intro v w
  have hplain : ∀ s t, Plain (.table [("n", .list [.string s, .string t])]) := by
    intro s t
    have hkey : ∀ c ∈ "n".toList, c ∉ structural := by simp [structural]
    have hlist : Plain (.list [.string s, .string t]) := .list _ (by simp [Plain.string])
    exact .table _ (List.forall_mem_singleton.2 hkey) (List.forall_mem_singleton.2 hlist)
  have hv : v.Plain := hplain _ _
  have hw : w.Plain := hplain _ _
  have hne : v ≠ w := by simp [v, w]
  exact ⟨hv, hw, trivial, trivial, fun h => hne ((renderItem_inj hv hw).1.1 h),
    fun h => hne (((renderItem_inj hv hw).2 trivial trivial "k").1 h)⟩

end Value

end TaskCorpus.Launch
