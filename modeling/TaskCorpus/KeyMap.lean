/-!
# Maps ordered by key

A `KeyMap` holds its entries in strictly increasing order of their keys, so equal maps are equal
values and the order of the entries says nothing about how the map was built. `find?_insert` and
`find?_erase` are all that later modules need to know about the two operations.
-/

namespace TaskCorpus

/-- Keys with a decidable strict linear order. -/
class Key (κ : Type) extends LT κ where
  decLt : DecidableLT κ
  decEq : DecidableEq κ
  irrefl : ∀ a : κ, ¬ a < a
  trans : ∀ a b c : κ, a < b → b < c → a < c
  tri : ∀ a b : κ, ¬ a < b → ¬ b < a → a = b

attribute [reducible, instance] Key.decLt Key.decEq

instance : Key String where
  decLt := inferInstance
  decEq := inferInstance
  irrefl := fun a => Std.Irrefl.irrefl (r := (· < · : String → String → Prop)) a
  trans := fun _ _ _ h₁ h₂ => String.lt_trans h₁ h₂
  tri := fun a b h₁ h₂ =>
    Std.Trichotomous.trichotomous (r := (· < · : String → String → Prop)) a b h₁ h₂

instance : Key (List String) where
  decLt := inferInstance
  decEq := inferInstance
  irrefl := fun a => Std.Irrefl.irrefl (r := (· < · : List String → List String → Prop)) a
  trans := fun _ _ _ h₁ h₂ => List.lt_trans h₁ h₂
  tri := fun a b h₁ h₂ =>
    Std.Trichotomous.trichotomous (r := (· < · : List String → List String → Prop)) a b h₁ h₂

section Entries

variable {κ ν : Type} [Key κ]

/-- Entries in strictly increasing order of their keys. -/
def Increasing (es : List (κ × ν)) : Prop := es.Pairwise fun a b => a.1 < b.1

/-- Sets the value of a key, in the place that the order gives it. -/
def setEntry (k : κ) (v : ν) : List (κ × ν) → List (κ × ν)
  | [] => [(k, v)]
  | e :: es =>
    if k < e.1 then (k, v) :: e :: es
    else if e.1 < k then e :: setEntry k v es
    else (k, v) :: es

/-- Drops the entry of a key. -/
def dropEntry (k : κ) (es : List (κ × ν)) : List (κ × ν) := es.filter fun e => e.1 ≠ k

/-- The value of a key in a list of entries, the first one if there are several. -/
def findEntry (k : κ) : List (κ × ν) → Option ν
  | [] => none
  | e :: es => if e.1 = k then some e.2 else findEntry k es

theorem mem_setEntry {k : κ} {v : ν} {es : List (κ × ν)} {x : κ × ν}
    (h : x ∈ setEntry k v es) : x = (k, v) ∨ x ∈ es := by
  induction es with
  | nil => simpa [setEntry] using h
  | cons e es ih =>
    rw [setEntry] at h
    split at h
    · simpa using h
    · split at h
      · rcases List.mem_cons.1 h with rfl | h
        · exact Or.inr List.mem_cons_self
        · exact (ih h).imp id (List.mem_cons_of_mem _)
      · exact (List.mem_cons.1 h).imp id (List.mem_cons_of_mem _)

theorem Increasing.setEntry {es : List (κ × ν)} (h : Increasing es) (k : κ) (v : ν) :
    Increasing (setEntry k v es) := by
  induction es with
  | nil => simp [Increasing, TaskCorpus.setEntry]
  | cons e es ih =>
    have he := List.pairwise_cons.1 h
    rw [TaskCorpus.setEntry]
    split
    · rename_i hk
      refine List.pairwise_cons.2 ⟨?_, h⟩
      intro x hx
      rcases List.mem_cons.1 hx with rfl | hx
      · exact hk
      · exact Key.trans _ _ _ hk (he.1 x hx)
    · split
      · rename_i hk
        refine List.pairwise_cons.2 ⟨?_, ih he.2⟩
        intro x hx
        rcases mem_setEntry hx with rfl | hx
        · exact hk
        · exact he.1 x hx
      · rename_i h₁ h₂
        have hk : e.1 = k := (Key.tri _ _ h₁ h₂).symm
        exact List.pairwise_cons.2 ⟨fun x hx => hk ▸ he.1 x hx, he.2⟩

theorem Increasing.dropEntry {es : List (κ × ν)} (h : Increasing es) (k : κ) :
    Increasing (dropEntry k es) := List.Pairwise.filter _ h

theorem findEntry_setEntry (k k' : κ) (v : ν) (es : List (κ × ν)) :
    findEntry k' (setEntry k v es) = if k = k' then some v else findEntry k' es := by
  induction es with
  | nil => simp [setEntry, findEntry]
  | cons e es ih =>
    rw [setEntry]
    split
    · rw [findEntry]
    · split
      · rename_i hek
        rw [findEntry, ih, findEntry]
        by_cases hk : k = k'
        · have : e.1 ≠ k' := fun heq => Key.irrefl k' (by rw [heq, hk] at hek; exact hek)
          simp [hk, this]
        · simp [hk]
      · rename_i h₁ h₂
        have hek : e.1 = k := (Key.tri _ _ h₁ h₂).symm
        rw [findEntry, findEntry, hek]
        by_cases hk : k = k' <;> simp [hk]

theorem findEntry_dropEntry (k k' : κ) (es : List (κ × ν)) :
    findEntry k' (dropEntry k es) = if k = k' then none else findEntry k' es := by
  induction es with
  | nil => simp [dropEntry, findEntry]
  | cons e es ih =>
    rw [dropEntry] at ih ⊢
    by_cases he : e.1 = k
    · rw [List.filter_cons_of_neg (by simpa using he), ih, findEntry]
      by_cases hk : k = k' <;> simp [hk, he]
    · rw [List.filter_cons_of_pos (by simpa using he), findEntry, ih, findEntry]
      by_cases hk : k = k'
      · simp [hk, hk ▸ he]
      · simp [hk]

end Entries

/-- A finite map whose entries stand in increasing order of their keys. -/
structure KeyMap (κ ν : Type) [Key κ] where
  entries : List (κ × ν)
  increasing : Increasing entries

namespace KeyMap

variable {κ ν : Type} [Key κ]

instance [DecidableEq ν] : DecidableEq (KeyMap κ ν) := fun a b =>
  if h : a.entries = b.entries then
    isTrue (by cases a; cases b; cases h; rfl)
  else isFalse fun hab => h (hab ▸ rfl)

def empty : KeyMap κ ν := ⟨[], List.Pairwise.nil⟩

instance : Inhabited (KeyMap κ ν) := ⟨empty⟩

def insert (m : KeyMap κ ν) (k : κ) (v : ν) : KeyMap κ ν :=
  ⟨setEntry k v m.entries, m.increasing.setEntry k v⟩

def erase (m : KeyMap κ ν) (k : κ) : KeyMap κ ν :=
  ⟨dropEntry k m.entries, m.increasing.dropEntry k⟩

def find? (m : KeyMap κ ν) (k : κ) : Option ν := findEntry k m.entries

def keys (m : KeyMap κ ν) : List κ := m.entries.map (·.1)

def values (m : KeyMap κ ν) : List ν := m.entries.map (·.2)

def size (m : KeyMap κ ν) : Nat := m.entries.length

/-- Inserts entries one after the other, so a later one replaces an earlier one. -/
def insertAll (m : KeyMap κ ν) (es : List (κ × ν)) : KeyMap κ ν :=
  es.foldl (fun m e => m.insert e.1 e.2) m

def ofList (es : List (κ × ν)) : KeyMap κ ν := empty.insertAll es

@[simp] theorem find?_empty (k : κ) : (empty : KeyMap κ ν).find? k = none := rfl

theorem find?_insert (m : KeyMap κ ν) (k k' : κ) (v : ν) :
    (m.insert k v).find? k' = if k = k' then some v else m.find? k' :=
  findEntry_setEntry k k' v m.entries

theorem find?_erase (m : KeyMap κ ν) (k k' : κ) :
    (m.erase k).find? k' = if k = k' then none else m.find? k' :=
  findEntry_dropEntry k k' m.entries

end KeyMap

end TaskCorpus
