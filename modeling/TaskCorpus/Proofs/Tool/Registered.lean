import Mathlib.Data.Finset.Card
import TaskCorpus.Proofs.Text.Bytes
import TaskCorpus.Proofs.Tool.Accepted
import TaskCorpus.Rollout
import TaskCorpus.Tool.Retail

/-!
What a catalog shows of the tools that have been registered.

`Shows` describes the views of a catalog by a relation between names and tools, and `IsCurrent` is
that relation after some tools have been registered: the last one of a name counts, whatever was
there before. Only its own name is touched when a tool is registered, so tools of different names
may come in any order.
-/

namespace TaskCorpus.Tool.Catalog

variable {c d start : Catalog} {e f : Entry} {es later : List Entry} {name : String} {strict : Bool}
  {a : Action}

/-- The tool of a name after some tools have been registered: the last one of them with the name,
or the one that the catalog had at the start if there is none among them. -/
def IsCurrent (start : Catalog) (es : List Entry) (name : String) (e : Entry) : Prop :=
  IsLast es name e ∨ (∀ x ∈ es, x.schema.name ≠ name) ∧ start.tools.find? name = some e

structure Shows (c : Catalog) (tool : String → Entry → Prop) : Prop where
  get : ∀ name s, c.get? name = some s ↔ ∃ e, tool name e ∧ e.schema = s
  /-- No name is listed twice, and the names are in the order of their bytes. -/
  ordered : (c.schemas.map (·.name)).Pairwise Text.Before
  listed : ∀ name, name ∈ c.schemas.map (·.name) ↔ ∃ e, tool name e
  schemas : ∀ s ∈ c.schemas, c.get? s.name = some s
  size : ∀ names : Finset String, (∀ name, name ∈ names ↔ ∃ e, tool name e) → c.size = names.card
  permitted : ∀ name, name ∈ c.permitted ↔ ∃ e, tool name e ∧ e.mutating = true
  /-- Permitted names are in the order of all names. -/
  sublist : c.permitted.Sublist (c.schemas.map (·.name))
  bindings : ∀ package, (Rollout.bindings c package).map (·.schema) = c.schemas

/-! ### Views -/

lemma get?_eq_some_iff {s : Schema} :
    c.get? name = some s ↔ ∃ e, c.tools.find? name = some e ∧ e.schema = s :=
  Option.map_eq_some_iff

lemma names_eq (c : Catalog) : c.schemas.map (·.name) = c.tools.keys := by
  rw [schemas, KeyMap.values, List.map_map, List.map_map, KeyMap.keys]
  exact List.map_congr_left fun x hx => c.keyed x.1 x.2 (KeyMap.mem_entries_iff.1 hx)

lemma shows (c : Catalog) : c.Shows fun name e => c.tools.find? name = some e where
  get _ _ := get?_eq_some_iff
  ordered := by
    rw [c.names_eq]
    exact c.tools.increasing.pairwise_keys.imp Text.before_iff_lt.2
  listed name := by rw [c.names_eq, KeyMap.mem_keys_iff]
  schemas s hs := by
    rw [schemas, KeyMap.values, List.map_map] at hs
    obtain ⟨⟨name, e⟩, hmem, rfl⟩ := List.mem_map.1 hs
    have hfind := KeyMap.mem_entries_iff.1 hmem
    have hname : e.schema.name = name := c.keyed name e hfind
    exact get?_eq_some_iff.2 ⟨e, hname ▸ hfind, rfl⟩
  size names hnames := by
    have hkeys : names = c.tools.keys.toFinset := by
      ext name
      rw [hnames, List.mem_toFinset, KeyMap.mem_keys_iff]
    rw [hkeys, List.toFinset_card_of_nodup c.tools.nodup_keys, KeyMap.keys, List.length_map]
    rfl
  permitted name := by
    simp [permitted, KeyMap.mem_entries_iff, and_comm]
  sublist := by
    rw [c.names_eq]
    exact List.filter_sublist.map _
  bindings package := by
    rw [Rollout.bindings, List.map_map]
    exact List.map_id _

/-! ### Names -/

lemma exists_isLast_iff : (∃ e, IsLast es name e) ↔ ∃ x ∈ es, x.schema.name = name := by
  induction es with
  | nil => simp [isLast_nil]
  | cons x es ih =>
    simp only [isLast_cons, exists_or, ih, List.exists_mem_cons_iff]
    by_cases hlater : ∃ y ∈ es, y.schema.name = name
    · simp [hlater]
    · simp only [hlater, false_or, or_false, exists_and_left, exists_eq', and_true]
      push Not at hlater
      exact and_iff_right hlater

lemma exists_isCurrent_iff : (∃ e, IsCurrent start es name e) ↔
    (∃ x ∈ es, x.schema.name = name) ∨ ∃ s, start.get? name = some s := by
  simp only [IsCurrent, exists_or, exists_isLast_iff, exists_and_left, get?_eq_some_iff]
  by_cases hname : ∃ x ∈ es, x.schema.name = name
  · simp [hname]
  · simp only [hname, false_or]
    push Not at hname
    rw [and_iff_right hname]
    exact ⟨fun ⟨e, he⟩ => ⟨_, e, he, rfl⟩, fun ⟨_, e, he, _⟩ => ⟨e, he⟩⟩

/-! ### One name and the others -/

lemma check_congr (h : c.tools.find? a.name = d.tools.find? a.name) :
    c.check strict a = d.check strict a := by
  rw [check, check, h]

lemma find?_register_of_ne (h : name ≠ e.schema.name) :
    (c.register e.schema e.mutating).tools.find? name = c.tools.find? name := by
  rw [find?_register, if_neg h.symm]

lemma register_comm (h : e.schema.name ≠ f.schema.name) :
    (c.register e.schema e.mutating).register f.schema f.mutating =
      (c.register f.schema f.mutating).register e.schema e.mutating :=
  Catalog.ext (KeyMap.insert_comm h)

lemma registerAll_append (c : Catalog) (es fs : List Entry) :
    c.registerAll (es ++ fs) = (c.registerAll es).registerAll fs := List.foldl_append

/-- **Registering**: after any tools have been registered in any catalog, such as the empty one or
that of the retail tools, all views of the catalog show the last tool of each name, and the names
are those of the start and those that have been registered. To register one more tool does not touch
any other name, and two tools of different names may be registered in either order, whatever comes
before and after them. -/
theorem registerAll_shows (start : Catalog) (es : List Entry) :
    (start.registerAll es).Shows (IsCurrent start es) ∧
    (∀ name, (∃ e, IsCurrent start es name e) ↔
      (∃ x ∈ es, x.schema.name = name) ∨ ∃ s, start.get? name = some s) ∧
    (∀ (e : Entry) (name : String), name ≠ e.schema.name →
      (start.registerAll (es ++ [e])).get? name = (start.registerAll es).get? name ∧
      ∀ strict a, a.name = name → (start.registerAll (es ++ [e])).check strict a =
        (start.registerAll es).check strict a) ∧
    ∀ (e f : Entry) (later : List Entry), e.schema.name ≠ f.schema.name →
      start.registerAll (es ++ e :: f :: later) = start.registerAll (es ++ f :: e :: later) := by
  have hcurrent : IsCurrent start es =
      fun name e => (start.registerAll es).tools.find? name = some e := by
    funext name e
    exact propext find?_registerAll.symm
  refine ⟨?_, fun name => exists_isCurrent_iff, fun e name hname => ?_, fun e f later hne => ?_⟩
  · rw [hcurrent]
    exact shows _
  · have hfind : (start.registerAll (es ++ [e])).tools.find? name =
        (start.registerAll es).tools.find? name := by
      rw [registerAll_append]
      exact find?_register_of_ne hname
    refine ⟨congrArg (Option.map Entry.schema) hfind, ?_⟩
    rintro strict a rfl
    exact check_congr hfind
  · simp only [registerAll_append, registerAll_cons, register_comm hne]

def refund : Schema := .function "refund" "Gives money back." [("amount", .string "How much.")]

/-- The new tool is a look-up at first and changes the database afterwards, cancelling an order the
other way round. -/
def laterTools : List Entry :=
  [⟨refund, false⟩, ⟨Retail.cancelPendingOrder, false⟩, ⟨refund, true⟩]

theorem registerAll_shows_sample :
    (Retail.catalog.registerAll laterTools).get? "refund" = some refund ∧
    "refund" ∈ (Retail.catalog.registerAll laterTools).permitted ∧
    (Retail.catalog.registerAll laterTools).permitted =
      ["exchange_delivered_order_items", "refund"] ∧
    Retail.catalog.registerAll laterTools = Retail.catalog.registerAll
      [⟨Retail.cancelPendingOrder, false⟩, ⟨refund, false⟩, ⟨refund, true⟩] := by
  obtain ⟨hshows, -, -⟩ := registerAll_shows Retail.catalog laterTools
  have hcurrent : IsCurrent Retail.catalog laterTools "refund" ⟨refund, true⟩ :=
    .inl ⟨[⟨refund, false⟩, ⟨Retail.cancelPendingOrder, false⟩], [], rfl, rfl, by simp⟩
  refine ⟨(hshows.get _ _).2 ⟨_, hcurrent, rfl⟩, (hshows.permitted _).2 ⟨_, hcurrent, rfl⟩,
    by decide +kernel, ?_⟩
  exact (registerAll_shows Retail.catalog []).2.2.2 ⟨refund, false⟩
    ⟨Retail.cancelPendingOrder, false⟩
    [⟨refund, true⟩] (by decide)

end TaskCorpus.Tool.Catalog
