import TaskCorpus.Proofs.Task.Loaded

/-!
Calls in normal form.

The arguments of a call may be written in many ways: with blanks and escapes, in any order, with a
name given twice. The call of the action that they are read as is one way among them, and the
only one that converting it again leaves alone.
-/

namespace TaskCorpus

open Json (Value)

variable {a b : Action} {c : Call}

lemma Json.Value.Exact.integral {v : Value} (h : v.Exact) : v.Integral := by
  induction h with
  | null => exact .null
  | boolean b => exact .boolean b
  | integer n _ => exact .integer n
  | string s => exact .string s
  | array items _ ih => exact .array items ih
  | object fields _ ih => exact .object fields ih

namespace Action

/-- The arguments are maps, nested at most 127 levels, and all numbers in them are integers of 64
bits. -/
structure Plain (a : Action) : Prop where
  tidy : (Value.object a.arguments).Tidy Json.levels
  exact : (Value.object a.arguments).Exact

lemma Plain.integral (h : a.Plain) : a.Integral := h.exact.integral

lemma Plain.loaded (h : a.Plain) : a.Loaded := ⟨h.tidy, fun _ => h.exact⟩

lemma Loaded.plain (h : a.Loaded) (hi : a.Integral) : a.Plain := ⟨h.1, h.2 hi⟩

lemma loaded_of_toAction (h : c.toAction = .ok a) : a.Loaded := by
  unfold Call.toAction at h
  split at h
  · cases h
  · rename_i arguments hread
    cases h
    obtain ⟨d, -, hd, hvalue⟩ := Json.readText_eq_ok hread
    exact Json.value_delivers hd hvalue
  · cases h

lemma Plain.toAction_toCall (h : a.Plain) : a.toCall.toAction = .ok a :=
  Action.toAction_toCall h.loaded h.integral

lemma plain_iff : a.Plain ↔ a.Integral ∧ a.toCall.toAction = .ok a :=
  ⟨fun h => ⟨h.integral, h.toAction_toCall⟩, fun ⟨hi, h⟩ => (loaded_of_toAction h).plain hi⟩

lemma Plain.toCall_inj (ha : a.Plain) (hb : b.Plain) : a.toCall = b.toCall ↔ a = b := by
  constructor
  · intro h
    have hread := ha.toAction_toCall
    rw [h, hb.toAction_toCall] at hread
    exact (Except.ok.inj hread).symm
  · exact congrArg toCall

/-- **Normal forms**: the actions without binary64 numbers that their call gives back are the
plain ones, which have different calls. Any call that is read as an action without such numbers
has the call of that action as its normal form: it is read as the same action, converting it
changes nothing, and two calls are read alike exactly if they have one normal form. -/
theorem toCall_normalForm :
    (∀ a : Action, a.Plain ↔ a.Integral ∧ a.toCall.toAction = .ok a) ∧
    (∀ a b : Action, a.Plain → b.Plain → a.toCall = b.toCall → a = b) ∧
    (∀ (c : Call) (a : Action), c.toAction = .ok a → a.Integral →
      a.toCall.toAction = .ok a ∧ a.toCall.toAction.map toCall = .ok a.toCall) ∧
    ∀ (c d : Call) (a b : Action), c.toAction = .ok a → d.toAction = .ok b → a.Integral →
      b.Integral → (c.toAction = d.toAction ↔ a.toCall = b.toCall) := by
  refine ⟨fun a => plain_iff, fun a b ha hb => (ha.toCall_inj hb).1, ?_, ?_⟩
  · intro c a h hi
    have hread := ((loaded_of_toAction h).plain hi).toAction_toCall
    exact ⟨hread, by rw [hread]; rfl⟩
  · intro c d a b hc hd ha hb
    rw [hc, hd, ((loaded_of_toAction hc).plain ha).toCall_inj ((loaded_of_toAction hd).plain hb),
      Except.ok.injEq]

/-! ### A call that is not in normal form -/

/-- Blanks, an escape, a name given twice, names out of order, and the largest integer. -/
def looseCall : Call :=
  ⟨"f", "\t\x7b \"b\" : 1, \"\\u0061\" : [-1, \"\\/\"],\n" ++
    "\"b\" : \x7b\"y\": 18446744073709551615\x7d \x7d "⟩

def looseAction : Action :=
  ⟨"f", [("a", .array [.number (.integer (-1)), .string "/"]),
    ("b", .object [("y", .number (.integer 18446744073709551615))])]⟩

lemma integral_looseAction : looseAction.Integral := by
  refine .object _ ?_
  simp only [looseAction, List.forall_mem_cons]
  refine ⟨.array _ ?_, .object _ ?_, by simp⟩
  · simp only [List.forall_mem_cons]
    exact ⟨.integer _, .string _, by simp⟩
  · simp only [List.forall_mem_cons]
    exact ⟨.integer _, by simp⟩

theorem toCall_normalForm_sample :
    looseCall.toAction = .ok looseAction ∧ looseAction.Integral ∧
    looseAction.toCall ≠ looseCall ∧ looseAction.toCall.toAction = .ok looseAction ∧
    looseAction.Plain := by
  have hread : looseCall.toAction = .ok looseAction := by decide +kernel
  have hnormal := toCall_normalForm.2.2.1 looseCall looseAction hread integral_looseAction
  have hplain := (toCall_normalForm.1 looseAction).2 ⟨integral_looseAction, hnormal.1⟩
  exact ⟨hread, integral_looseAction, by decide +kernel, hnormal.1, hplain⟩

end Action

end TaskCorpus
