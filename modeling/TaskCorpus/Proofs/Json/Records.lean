import TaskCorpus.Proofs.Json.Delivered

/-!
Values and records that have been read.

Reading any value delivers a tidy one with integers of 64 bits. For a record, `Shape.Yields`
says where each of its values comes from: the reader of its field, or a default.
-/

namespace TaskCorpus.Json

variable {α : Type}

lemma items_delivers {read : Document → Except Failure α} {ds : List Document}
    {cut : Option Break} {as : List α} (h : Reader.items read ds cut = .ok as) {a : α}
    (ha : a ∈ as) : ∃ d ∈ ds, read d = .ok a := by
  induction ds generalizing as with
  | nil =>
    cases cut with
    | none => cases h; cases ha
    | some b => cases h
  | cons d ds ih =>
    obtain ⟨b, hb, h⟩ := bind_eq_ok h
    obtain ⟨as', has, h⟩ := bind_eq_ok h
    cases h
    rcases List.mem_cons.1 ha with rfl | ha
    · exact ⟨d, by simp, hb⟩
    · obtain ⟨d', hd', hread⟩ := ih has ha
      exact ⟨d', by simp [hd'], hread⟩

lemma list_delivers {read : Reader α} {n : Nat} {d : Document} {as : List α} (hd : d.Sized)
    (h : Reader.list read n d = .ok as) {a : α} (ha : a ∈ as) :
    ∃ m < n, ∃ d : Document, d.Sized ∧ read m d = .ok a := by
  unfold Reader.list at h
  split at h
  · cases h
  · rename_i n ds cut
    obtain ⟨d, hmem, hread⟩ := items_delivers h ha
    exact ⟨n, by omega, d, hd.items d hmem, hread⟩
  · cases h

lemma entries_delivers {read : Document → Except Failure α} {P : α → Prop}
    {fs : List (Label × Document)} {cut : Option Break} {es out : List (String × α)}
    (hr : ∀ f ∈ fs, ∀ a, read f.2 = .ok a → P a) (hi : Increasing es) (hp : ∀ e ∈ es, P e.2)
    (h : Reader.entries read es fs cut = .ok out) : Increasing out ∧ ∀ e ∈ out, P e.2 := by
  induction fs generalizing es with
  | nil =>
    cases cut with
    | none => cases h; exact ⟨hi, hp⟩
    | some b => cases h
  | cons f fs ih =>
    obtain ⟨l, d⟩ := f
    cases l with
    | unpaired u => cases h
    | text k =>
      obtain ⟨a, ha, h⟩ := bind_eq_ok h
      refine ih (fun f hf => hr f (by simp [hf])) (hi.setEntry k a) ?_ h
      intro e he
      rcases mem_setEntry he with rfl | he
      · exact hr (.text k, d) (by simp) a ha
      · exact hp e he

/-- What every value that has been read is like. -/
def Value.Delivered (n : Nat) (v : Value) : Prop := v.Tidy n ∧ (v.Integral → v.Exact)

lemma Value.Delivered.mono {m n : Nat} (hmn : m ≤ n) {v : Value} (h : v.Delivered m) :
    v.Delivered n := ⟨h.1.mono hmn, h.2⟩

lemma Value.Integral.items {vs : List Value} (h : (Value.array vs).Integral) :
    ∀ v ∈ vs, v.Integral := by
  cases h with
  | array _ h => exact h

lemma Value.Integral.fields {fs : List (String × Value)} (h : (Value.object fs).Integral) :
    ∀ f ∈ fs, f.2.Integral := by
  cases h with
  | object _ h => exact h

lemma delivered_array {n : Nat} {vs : List Value} (h : ∀ v ∈ vs, v.Delivered n) :
    (Value.array vs).Delivered (n + 1) :=
  ⟨.array n vs fun v hv => (h v hv).1,
    fun hint => .array vs fun v hv => (h v hv).2 (hint.items v hv)⟩

lemma delivered_object {n : Nat} {fs : List (String × Value)} (hi : Increasing fs)
    (h : ∀ f ∈ fs, f.2.Delivered n) : (Value.object fs).Delivered (n + 1) :=
  ⟨.object n fs hi fun f hf => (h f hf).1,
    fun hint => .object fs fun f hf => (h f hf).2 (hint.fields f hf)⟩

theorem value_delivers {n : Nat} {d : Document} {v : Value} (hd : d.Sized)
    (h : Reader.value n d = .ok v) : v.Delivered n := by
  induction hd generalizing n v with
  | broken b => simp only [Reader.value] at h; cases h
  | unpaired f => simp only [Reader.value] at h; cases h
  | null => simp only [Reader.value] at h; cases h; exact ⟨.null n, fun _ => .null⟩
  | boolean b =>
    simp only [Reader.value] at h
    cases h
    exact ⟨.boolean n b, fun _ => .boolean b⟩
  | string s =>
    simp only [Reader.value] at h
    cases h
    exact ⟨.string n s, fun _ => .string s⟩
  | number x hx =>
    cases x with
    | none => simp only [Reader.value] at h; cases h
    | some x =>
      simp only [Reader.value] at h
      cases h
      refine ⟨.number n x, fun hint => ?_⟩
      cases hint with
      | integer k => exact .integer k (hx k rfl)
  | array ds cut hds ih =>
    cases n with
    | zero => cases h
    | succ n =>
      obtain ⟨vs, hvs, rfl⟩ := map_eq_ok h
      refine delivered_array fun v hv => ?_
      obtain ⟨d, hd, hread⟩ := items_delivers hvs hv
      exact ih d hd hread
  | object fs cut hfs ih =>
    cases n with
    | zero => cases h
    | succ n =>
      obtain ⟨es, hes, rfl⟩ := map_eq_ok h
      obtain ⟨hi, hall⟩ := entries_delivers (P := Value.Delivered n)
        (fun f hf a ha => ih f hf ha) List.Pairwise.nil (by simp) hes
      exact delivered_object hi hall

theorem map_value_delivers {n : Nat} {d : Document} {es : List (String × Value)} (hd : d.Sized)
    (h : Reader.map Reader.value n d = .ok es) : (Value.object es).Delivered n := by
  unfold Reader.map at h
  split at h
  · cases h
  · rename_i n fs cut
    obtain ⟨hi, hall⟩ := entries_delivers (P := Value.Delivered n)
      (fun f hf a ha => value_delivers (hd.fields f hf) ha) List.Pairwise.nil (by simp) h
    exact delivered_object hi hall
  · cases h

/-! ### Records -/

namespace Shape

/-- Each value of a record comes from a document that its field has been read from, or is a
default of the field. -/
def Yields (P : Document → Prop) : {αs : List Type} → Shape αs → Tuple αs → Prop
  | _, .nil, _ => True
  | _, .cons f rest, (a, as) =>
    ((∃ d, P d ∧ f.read d = .ok a) ∨ f.absent = some a ∨ f.short = some a) ∧ rest.Yields P as

def Holds (P : Document → Prop) : {αs : List Type} → Shape αs → Slots αs → Prop
  | _, .nil, _ => True
  | _, .cons f rest, (slot, slots) =>
    (∀ a, slot = some a → ∃ d, P d ∧ f.read d = .ok a) ∧ rest.Holds P slots

variable {P : Document → Prop} {αs : List Type}

lemma holds_blank (shape : Shape αs) : shape.Holds P shape.blank := by
  induction shape with
  | nil => trivial
  | cons f rest ih => exact ⟨by simp, ih⟩

lemma offer_holds {shape : Shape αs} {name : String} {d : Document} {s s' : Slots αs} (hd : P d)
    (hs : shape.Holds P s) (h : shape.offer name d s = .ok s') : shape.Holds P s' := by
  induction shape with
  | nil => trivial
  | cons f rest ih =>
    obtain ⟨slot, slots⟩ := s
    simp only [offer] at h
    split at h
    · cases slot with
      | some a => cases h
      | none =>
        obtain ⟨a, ha, h⟩ := bind_eq_ok h
        cases h
        refine ⟨fun b hb => ?_, hs.2⟩
        cases hb
        exact ⟨d, hd, ha⟩
    · obtain ⟨slots', hslots, h⟩ := bind_eq_ok h
      cases h
      exact ⟨hs.1, ih hs.2 hslots⟩

lemma fill_yields {shape : Shape αs} {s : Slots αs} {as : Tuple αs} (hs : shape.Holds P s)
    (h : shape.fill s = .ok as) : shape.Yields P as := by
  induction shape with
  | nil => trivial
  | cons f rest ih =>
    obtain ⟨slot, slots⟩ := s
    simp only [fill] at h
    cases slot with
    | some b =>
      obtain ⟨a, ha, h⟩ := bind_eq_ok h
      obtain ⟨as', has, h⟩ := bind_eq_ok h
      cases ha
      cases h
      exact ⟨.inl (hs.1 _ rfl), ih hs.2 has⟩
    | none =>
      cases hf : f.absent with
      | some b =>
        simp only [hf] at h
        obtain ⟨a, ha, h⟩ := bind_eq_ok h
        obtain ⟨as', has, h⟩ := bind_eq_ok h
        cases ha
        cases h
        exact ⟨.inr (.inl hf), ih hs.2 has⟩
      | none =>
        simp only [hf] at h
        cases h

lemma fromFields_yields {shape : Shape αs} {s : Slots αs} {fs : List (Label × Document)}
    {cut : Option Break} {as : Tuple αs} (hfs : ∀ f ∈ fs, P f.2) (hs : shape.Holds P s)
    (h : shape.fromFields s fs cut = .ok as) : shape.Yields P as := by
  induction fs generalizing s with
  | nil =>
    cases cut with
    | none => exact fill_yields hs h
    | some b => cases h
  | cons f fs ih =>
    obtain ⟨l, d⟩ := f
    cases l with
    | unpaired u => cases h
    | text k =>
      obtain ⟨s', hs', h⟩ := bind_eq_ok h
      exact ih (fun f hf => hfs f (by simp [hf]))
        (offer_holds (hfs (.text k, d) (by simp)) hs hs') h

lemma fromItems_yields {shape : Shape αs} {wanted : String} {n : Nat} {ds : List Document}
    {cut : Option Break} {as : Tuple αs} (hds : ∀ d ∈ ds, P d)
    (h : shape.fromItems wanted n ds cut = .ok as) : shape.Yields P as := by
  induction shape generalizing n ds with
  | nil => trivial
  | cons f rest ih =>
    cases ds with
    | cons d ds =>
      obtain ⟨a, ha, h⟩ := bind_eq_ok h
      obtain ⟨as', has, h⟩ := bind_eq_ok h
      cases h
      exact ⟨.inl ⟨d, hds d (by simp), ha⟩, ih (fun x hx => hds x (by simp [hx])) has⟩
    | nil =>
      cases cut with
      | some b => cases h
      | none =>
        cases hf : f.short with
        | none => simp [fromItems, hf] at h
        | some a =>
          simp only [fromItems, hf] at h
          obtain ⟨as', has, h⟩ := bind_eq_ok h
          cases h
          exact ⟨.inr (.inr hf), ih (by simp) has⟩

/-- A record that has been read from a document with integers of 64 bits. -/
theorem reader_yields {shape : Nat → Shape αs} {name : String} {n : Nat} {d : Document}
    {as : Tuple αs} (hd : d.Sized) (h : Shape.reader shape name n d = .ok as) :
    ∃ m < n, (shape m).Yields Document.Sized as := by
  cases n with
  | zero => cases h
  | succ n =>
    refine ⟨n, by omega, ?_⟩
    cases d with
    | array ds cut => exact fromItems_yields hd.items h
    | object fs cut => exact fromFields_yields hd.fields (holds_blank _) h
    | broken b => cases h
    | null => cases h
    | boolean b => cases h
    | number x => cases h
    | string s => cases h
    | unpaired f => cases h

end Shape

end TaskCorpus.Json
