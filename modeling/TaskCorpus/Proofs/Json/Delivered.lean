import TaskCorpus.Json.Shape
import TaskCorpus.Proofs.Json.Printed

/-!
What readers deliver.

A value that has been read from a text has its fields in order, is nested no deeper than the
reader may go, and its integers have 64 bits. Such a value, if it has no binary64 number, is
read again from its own text. `Shape.Yields` is what a record that has been read says of its
fields.
-/

namespace TaskCorpus.Json

namespace Value

/-- The value has at most that many levels, with the fields of objects in increasing order. -/
inductive Tidy : Nat → Value → Prop
  | null (n : Nat) : Tidy n .null
  | boolean (n : Nat) (b : Bool) : Tidy n (.boolean b)
  | number (n : Nat) (x : Number) : Tidy n (.number x)
  | string (n : Nat) (s : String) : Tidy n (.string s)
  | array (n : Nat) (items : List Value) (h : ∀ v ∈ items, Tidy n v) : Tidy (n + 1) (.array items)
  | object (n : Nat) (fields : List (String × Value)) (hi : Increasing fields)
      (h : ∀ f ∈ fields, Tidy n f.2) : Tidy (n + 1) (.object fields)

inductive Integral : Value → Prop
  | null : Integral .null
  | boolean (b : Bool) : Integral (.boolean b)
  | integer (n : Int) : Integral (.number (.integer n))
  | string (s : String) : Integral (.string s)
  | array (items : List Value) (h : ∀ v ∈ items, Integral v) : Integral (.array items)
  | object (fields : List (String × Value)) (h : ∀ f ∈ fields, Integral f.2) :
      Integral (.object fields)

namespace Tidy

variable {v w : Value} {k l : String} {n : Nat}

lemma mono {m : Nat} (hmn : m ≤ n) (h : v.Tidy m) : v.Tidy n := by
  induction h generalizing n with
  | null => exact .null n
  | boolean _ b => exact .boolean n b
  | number _ x => exact .number n x
  | string _ s => exact .string n s
  | array m items _ ih =>
    obtain ⟨n, rfl⟩ : ∃ k, n = k + 1 := ⟨n - 1, by omega⟩
    exact .array n items fun v hv => ih v hv (by omega)
  | object m fields hi _ ih =>
    obtain ⟨n, rfl⟩ : ∃ k, n = k + 1 := ⟨n - 1, by omega⟩
    exact .object n fields hi fun f hf => ih f hf (by omega)

lemma map {α : Type} {f : α → Value} {as : List α} (h : ∀ a ∈ as, (f a).Tidy n) :
    (Value.array (as.map f)).Tidy (n + 1) := by
  refine .array n _ fun v hv => ?_
  obtain ⟨a, ha, rfl⟩ := List.mem_map.1 hv
  exact h a ha

lemma single (h : v.Tidy n) : (Value.object [(k, v)]).Tidy (n + 1) :=
  .object n _ (by simp [Increasing]) (by simpa using h)

lemma pair (hkl : k < l) (hv : v.Tidy n) (hw : w.Tidy n) :
    (Value.object [(k, v), (l, w)]).Tidy (n + 1) :=
  .object n _ (by simpa [Increasing] using hkl) (by simpa using ⟨hv, hw⟩)

end Tidy

end Value

/-! ### Reading a document back -/

lemma setEntry_append {ν : Type} {k : String} {v : ν} {es : List (String × ν)}
    (h : ∀ e ∈ es, e.1 < k) : setEntry k v es = es ++ [(k, v)] := by
  induction es with
  | nil => rfl
  | cons e es ih =>
    have he : e.1 < k := h e (by simp)
    have hn : ¬ k < e.1 := fun hk => Key.irrefl k (Key.trans _ _ _ hk he)
    rw [setEntry, if_neg hn, if_pos he, ih fun x hx => h x (by simp [hx]), List.cons_append]

lemma entries_fieldsDocuments {α : Type} {read : Document → Except Failure α} {write : α → Value}
    {es fs : List (String × α)} (hi : Increasing (es ++ fs))
    (h : ∀ f ∈ fs, read (write f.2).document = .ok f.2) :
    Reader.entries read es (Value.fieldsDocuments (fs.map fun f => (f.1, write f.2))) none =
      .ok (es ++ fs) := by
  induction fs generalizing es with
  | nil => simp [Value.fieldsDocuments, Reader.entries]
  | cons f fs ih =>
    obtain ⟨k, a⟩ := f
    have hlt : ∀ e ∈ es, e.1 < k := fun e he =>
      (List.pairwise_append.1 hi).2.2 e he (k, a) (by simp)
    have hfs : Reader.entries read (es ++ [(k, a)])
        (Value.fieldsDocuments (fs.map fun f => (f.1, write f.2))) none =
          .ok (es ++ [(k, a)] ++ fs) := by
      refine ih ?_ fun x hx => h x (by simp [hx])
      rw [List.append_assoc]
      exact hi
    have ha : read (write a).document = .ok a := h (k, a) (by simp)
    simp only [List.map_cons, Value.fieldsDocuments, Reader.entries, ha, setEntry_append hlt, bind,
      Except.bind, hfs]
    simp

lemma entries_fieldsDocuments_id {read : Document → Except Failure Value}
    {fs : List (String × Value)} (hi : Increasing fs)
    (h : ∀ f ∈ fs, read f.2.document = .ok f.2) :
    Reader.entries read [] (Value.fieldsDocuments fs) none = .ok fs := by
  have hentries : Reader.entries read [] (Value.fieldsDocuments (fs.map fun f => (f.1, id f.2)))
      none = .ok ([] ++ fs) := entries_fieldsDocuments hi h
  simpa using hentries

lemma Reader.text_document (n : Nat) (s : String) :
    Reader.text n (Value.string s).document = .ok s := rfl

lemma Reader.optional_document {α : Type} {read : Reader α} {v : Value} {a : α} {n : Nat}
    (hv : v ≠ .null) (h : read n v.document = .ok a) :
    Reader.optional read n v.document = .ok (some a) := by
  have hd : v.document ≠ .null := by
    cases v with
    | null => exact absurd rfl hv
    | _ => simp [Value.document]
  rw [Reader.optional, h]
  · rfl
  · exact hd

lemma Reader.list_document {α : Type} {read : Reader α} {write : α → Value} {as : List α} {n : Nat}
    (h : ∀ a ∈ as, read n (write a).document = .ok a) :
    Reader.list read (n + 1) (Value.array (as.map write)).document = .ok as := by
  have hitems := Value.items_itemsDocuments (g := id) h
  rwa [List.map_id] at hitems

lemma Reader.texts_document (n : Nat) (ss : List String) :
    Reader.list Reader.text (n + 1) (Value.array (ss.map .string)).document = .ok ss :=
  Reader.list_document fun s _ => Reader.text_document n s

lemma Reader.map_document {α : Type} {read : Reader α} {write : α → Value}
    {es : List (String × α)} {n : Nat} (hi : Increasing es)
    (h : ∀ e ∈ es, read n (write e.2).document = .ok e.2) :
    Reader.map read (n + 1) (Value.object (es.map fun e => (e.1, write e.2))).document = .ok es :=
  entries_fieldsDocuments hi h

theorem value_document {n : Nat} {v : Value} (h : v.Tidy n) :
    Reader.value n v.document = .ok v := by
  induction h with
  | null n => simp [Value.document, Reader.value]
  | boolean n b => simp [Value.document, Reader.value]
  | number n x => simp [Value.document, Reader.value]
  | string n s => simp [Value.document, Reader.value]
  | array n items _ ih =>
    have hitems : Reader.items (Reader.value n) (Value.itemsDocuments items) none = .ok items := by
      simpa using Value.items_itemsDocuments (f := id) (g := id) ih
    simp only [Value.document, Reader.value, hitems]
    rfl
  | object n fields hi _ ih =>
    have hfields : Reader.entries (Reader.value n) [] (Value.fieldsDocuments fields) none =
        .ok fields := entries_fieldsDocuments_id hi ih
    simp only [Value.document, Reader.value, hfields]
    rfl

theorem readText_of_document {α : Type} {read : Reader α} {v : Value} {a : α} (he : v.Exact)
    (h : read levels v.document = .ok a) : readText read v.compact = .ok a := by
  simp only [readText, Value.ofText_compact he, h]
  rfl

/-- A tidy value without binary64 numbers is read from its own text. -/
theorem readText_compact {v : Value} (he : v.Exact) (ht : v.Tidy levels) :
    readText Reader.value v.compact = .ok v :=
  readText_of_document he (value_document ht)

/-! ### Integers of a text -/

inductive Document.Sized : Document → Prop
  | broken (b : Break) : Sized (.broken b)
  | null : Sized .null
  | boolean (b : Bool) : Sized (.boolean b)
  | number (x : Option Number) (h : ∀ n, x = some (.integer n) → IsWord n) : Sized (.number x)
  | string (s : String) : Sized (.string s)
  | unpaired (f : Flaw) : Sized (.unpaired f)
  | array (items : List Document) (cut : Option Break) (h : ∀ d ∈ items, Sized d) :
      Sized (.array items cut)
  | object (fields : List (Label × Document)) (cut : Option Break) (h : ∀ f ∈ fields, Sized f.2) :
      Sized (.object fields cut)

lemma Document.Sized.items {ds : List Document} {cut : Option Break}
    (h : (Document.array ds cut).Sized) : ∀ d ∈ ds, d.Sized := by
  cases h with
  | array _ _ h => exact h

lemma Document.Sized.fields {fs : List (Label × Document)} {cut : Option Break}
    (h : (Document.object fs cut).Sized) : ∀ f ∈ fs, f.2.Sized := by
  cases h with
  | object _ _ h => exact h

lemma gatherInteger_lt (ds : List Char) : (gatherInteger ds).1.significand < UInt64.size := by
  unfold gatherInteger
  have h : ∀ (s : Gathered × Bool), s.1.significand < UInt64.size →
      (ds.foldl (fun (s : Gathered × Bool) d =>
        let n := 10 * s.1.significand + (d.toNat - '0'.toNat)
        if s.2 ∧ n < UInt64.size then (⟨n, s.1.exponent⟩, true)
        else (⟨s.1.significand, s.1.exponent + 1⟩, false)) s).1.significand < UInt64.size := by
    induction ds with
    | nil => exact fun s hs => hs
    | cons d ds ih =>
      intro s hs
      rw [List.foldl_cons]
      refine ih _ ?_
      dsimp only
      split
      · rename_i hn
        exact hn.2
      · exact hs
  exact h (⟨0, 0⟩, true) (by decide)

lemma isWord_of_value {p : NumberParts} {n : Int} (h : p.value = some (.integer n)) :
    IsWord n := by
  have hlt := gatherInteger_lt p.integer
  unfold NumberParts.value at h
  split at h
  rename_i g whole hg
  rw [hg] at hlt
  dsimp only at h hlt
  split at h
  · split at h
    · cases h
      exact ⟨by omega, by omega⟩
    · split at h
      · -- a negative integer is no smaller than the signed words allow
        rename_i hneg
        have h63 : g.significand ≤ Nat.pow 2 63 := hneg.2
        cases h
        exact ⟨by omega, by omega⟩
      · cases h
  · simp only [Option.map_eq_some_iff] at h
    obtain ⟨x, -, hx⟩ := h
    cases hx

lemma string_result {g : Gathering} {cs rest : List Char} {t : Token}
    (h : string g cs = .ok (t, rest)) : (∃ s, t = .string s) ∨ ∃ f, t = .unpaired f := by
  fun_induction string g cs with
  | case2 g cs =>
    simp only [Except.ok.injEq, Prod.mk.injEq] at h
    rw [← h.1, Gathering.result]
    split
    · exact .inr ⟨_, rfl⟩
    · exact .inl ⟨_, rfl⟩
  | case3 g a b c d cs u hu ih => exact ih h
  | case6 g e cs _ _ c hc ih => exact ih h
  | case10 g c cs _ _ _ _ _ _ ih => exact ih h
  | case1 => cases h
  | case4 => cases h
  | case5 => cases h
  | case7 => cases h
  | case8 => cases h
  | case9 => cases h

def Token.Sized (t : Token) : Prop := ∀ n, t = .number (some (.integer n)) → IsWord n

lemma letters_sized {t : Token} (ht : ∀ x, t ≠ .number x) (expected cs : List Char) :
    (letters t expected cs).1.Sized := by
  intro n h
  unfold letters at h
  split at h
  · exact absurd h (ht _)
  · cases h

lemma word_sized (c : Char) (cs : List Char) : (word c cs).1.Sized := by
  unfold word
  split
  case h_7 => exact letters_sized (by simp) _ _
  case h_8 => exact letters_sized (by simp) _ _
  case h_9 => exact letters_sized (by simp) _ _
  case h_10 =>
    intro n hn
    split at hn
    · rename_i r hr
      obtain ⟨t, rest⟩ := r
      rcases string_result hr with ⟨s, hs⟩ | ⟨f, hf⟩
      · simp [hs] at hn
      · simp [hf] at hn
    · cases hn
  case h_11 =>
    intro n hn
    split at hn
    · split at hn
      · simp only [Token.number.injEq] at hn
        exact isWord_of_value hn
      · cases hn
    · cases hn
  all_goals
    intro n hn
    cases hn

lemma tokens_sized (cs : List Char) : ∀ t ∈ tokens cs, t.Sized := by
  fun_induction tokens cs with
  | case1 => simp
  | case2 c cs hc ih => exact ih
  | case3 c cs hc ih =>
    intro t ht
    rcases List.mem_cons.1 ht with rfl | ht
    · exact word_sized c cs
    · exact ih t ht

def Frame.Sized : Frame → Prop
  | .array done => ∀ d ∈ done, d.Sized
  | .object done => ∀ f ∈ done, f.2.Sized
  | .field done _ => ∀ f ∈ done, f.2.Sized

/-- Every integer of the text so far has 64 bits, unless it is no JSON anyway. -/
def Assembly.Sized : Assembly → Prop
  | .reading stack _ => ∀ f ∈ stack, f.Sized
  | .complete d => d.Sized
  | .faulty _ => True

namespace Assembly

lemma deliver_sized {d : Document} {stack : List Frame} (hd : d.Sized)
    (hs : ∀ f ∈ stack, f.Sized) : (deliver d stack).Sized := by
  unfold deliver
  split
  · exact hd
  · rename_i done stack
    obtain ⟨hf, hs⟩ := List.forall_mem_cons.1 hs
    exact List.forall_mem_cons.2 ⟨List.forall_mem_cons.2 ⟨hd, hf⟩, hs⟩
  · rename_i done l stack
    obtain ⟨hf, hs⟩ := List.forall_mem_cons.1 hs
    exact List.forall_mem_cons.2 ⟨List.forall_mem_cons.2 ⟨hd, hf⟩, hs⟩
  · trivial

lemma onValue_sized {stack : List Frame} {t : Token} (ht : t.Sized) (hs : ∀ f ∈ stack, f.Sized) :
    (onValue stack t).Sized := by
  unfold onValue
  split
  · exact List.forall_mem_cons.2 ⟨by simp [Frame.Sized], hs⟩
  · exact List.forall_mem_cons.2 ⟨by simp [Frame.Sized], hs⟩
  · exact deliver_sized .null hs
  · exact deliver_sized (.boolean _) hs
  · exact deliver_sized (.number _ fun n hn => ht n (by rw [hn])) hs
  · exact deliver_sized (.string _) hs
  · exact deliver_sized (.unpaired _) hs
  all_goals trivial

lemma onLabel_sized {stack : List Frame} {t : Token} (hs : ∀ f ∈ stack, f.Sized) :
    (onLabel stack t).Sized := by
  unfold onLabel
  split
  · obtain ⟨hf, hs⟩ := List.forall_mem_cons.1 hs
    exact List.forall_mem_cons.2 ⟨hf, hs⟩
  · obtain ⟨hf, hs⟩ := List.forall_mem_cons.1 hs
    exact List.forall_mem_cons.2 ⟨hf, hs⟩
  all_goals trivial

lemma onSeparator_sized {stack : List Frame} {t : Token} (hs : ∀ f ∈ stack, f.Sized) :
    (onSeparator stack t).Sized := by
  unfold onSeparator
  split
  · exact hs
  · obtain ⟨hf, hs⟩ := List.forall_mem_cons.1 hs
    exact deliver_sized (.array _ _ fun d hd => hf d (List.mem_reverse.1 hd)) hs
  · exact hs
  · obtain ⟨hf, hs⟩ := List.forall_mem_cons.1 hs
    exact deliver_sized (.object _ _ fun f h => hf f (List.mem_reverse.1 h)) hs
  all_goals trivial

lemma step_sized {a : Assembly} {t : Token} (ht : t.Sized) (ha : a.Sized) : (a.step t).Sized := by
  unfold step
  split
  · trivial
  · trivial
  · exact onValue_sized ht ha
  · split
    · exact onSeparator_sized ha
    · exact onValue_sized ht ha
  · split
    · trivial
    · exact onValue_sized ht ha
  · split
    · exact onSeparator_sized ha
    · exact onLabel_sized ha
  · split
    · trivial
    · exact onLabel_sized ha
  · split
    · exact ha
    · trivial
  · exact onSeparator_sized ha

lemma foldl_sized {ts : List Token} (ht : ∀ t ∈ ts, t.Sized) {a : Assembly} (ha : a.Sized) :
    (ts.foldl step a).Sized := by
  induction ts generalizing a with
  | nil => exact ha
  | cons t ts ih =>
    exact ih (fun x hx => ht x (by simp [hx])) (step_sized (ht t (by simp)) ha)

lemma finish_eq {a : Assembly} {d : Document} (h : a.finish = (d, true)) : a = .complete d := by
  cases a <;> simp_all [finish]

end Assembly

lemma ofText_sized {s : String} {d : Document} (h : Document.ofText s = (d, true)) : d.Sized := by
  have hs : (((tokens s.toList).foldl Assembly.step (.reading [] .value))).Sized :=
    Assembly.foldl_sized (tokens_sized _) (by simp [Assembly.Sized])
  rw [Assembly.finish_eq h] at hs
  exact hs

/-- What is read from a text is read from a document with integers of 64 bits. -/
theorem readText_eq_ok {α : Type} {read : Reader α} {s : String} {a : α}
    (h : readText read s = .ok a) :
    ∃ d, Document.ofText s = (d, true) ∧ d.Sized ∧ read levels d = .ok a := by
  unfold readText at h
  rcases ht : Document.ofText s with ⟨d, whole⟩
  rw [ht] at h
  obtain ⟨a', hr, h⟩ := bind_eq_ok h
  cases whole with
  | false => cases h
  | true =>
    cases h
    exact ⟨d, rfl, ofText_sized ht, hr⟩

end TaskCorpus.Json
