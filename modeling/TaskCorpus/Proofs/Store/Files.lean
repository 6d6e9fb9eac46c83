import TaskCorpus.Proofs.KeyMap.Entries
import TaskCorpus.Proofs.Path.Location
import TaskCorpus.Store.Files

/-!
What operations do to the files of a store.

`Store.file?` is the view: the bytes at a location, if there is a file. `Within L s t` says that
`t` has all directories of `s` and the same files but for those at `L`; a path that leads
somewhere in `s` then leads there in `t` too. Every operation that succeeds changes the file at
the location of its path, or none.
-/

namespace TaskCorpus.Store

open Json (bind_eq_ok)

variable {here : Location} {s t u : Store here} {L : Location → Prop}

/-- The bytes of the file at a location. -/
def file? (s : Store here) (l : Location) : Option ByteArray :=
  match s.node? l with
  | some (.file bytes) => some bytes
  | _ => none

/-- No directory is lost, and only files at the given locations differ. -/
structure Within (L : Location → Prop) (s t : Store here) : Prop where
  directories : ∀ l, s.node? l = some .directory → t.node? l = some .directory
  files : ∀ l, ¬ L l → t.file? l = s.file? l

namespace Within

lemma refl (L : Location → Prop) (s : Store here) : Within L s s := ⟨fun _ h => h, fun _ _ => rfl⟩

lemma trans (h : Within L s t) (h' : Within L t u) : Within L s u :=
  ⟨fun l hl => h'.directories l (h.directories l hl),
    fun l hl => (h'.files l hl).trans (h.files l hl)⟩

lemma mono {K : Location → Prop} (h : Within L s t) (hLK : ∀ l, L l → K l) : Within K s t :=
  ⟨h.directories, fun l hl => h.files l fun hL => hl (hLK l hL)⟩

end Within

abbrev Keeps (s t : Store here) : Prop := Within (fun _ => False) s t

structure Makes (W : Location → Prop) (s t : Store here) : Prop
    extends Within (fun _ => False) s t where
  opens : ∀ l, t.node? l = some .directory → s.node? l = some .directory ∨ W l

namespace Makes

variable {W : Location → Prop}

lemma refl (W : Location → Prop) (s : Store here) : Makes W s s := ⟨.refl _ _, fun _ h => .inl h⟩

lemma trans (h : Makes W s t) (h' : Makes W t u) : Makes W s u where
  toWithin := h.toWithin.trans h'.toWithin
  opens l hl := by
    rcases h'.opens l hl with hl | hW
    · exact h.opens l hl
    · exact .inr hW

lemma mono {V : Location → Prop} (h : Makes W s t) (hWV : ∀ l, W l → V l) : Makes V s t :=
  ⟨h.toWithin, fun l hl => (h.opens l hl).imp_right (hWV l)⟩

lemma within (h : Makes W s t) (L : Location → Prop) : Within L s t :=
  h.toWithin.mono fun _ h => h.elim

end Makes

structure Puts (l : Location) (bytes : Option ByteArray) (s t : Store here) : Prop
    extends Within (· = l) s t where
  opens : ∀ k, t.node? k = some .directory → s.node? k = some .directory
  there : t.file? l = bytes

lemma Puts.trans {l : Location} {b b' : Option ByteArray} (h : Puts l b s t) (h' : Puts l b' t u) :
    Puts l b' s u :=
  ⟨h.toWithin.trans h'.toWithin, fun k hk => h.opens k (h'.opens k hk), h'.there⟩

/-! ### Nodes -/

lemma not_prefix_of_ne {l : Location} (h : s.node? l ≠ some .directory) : ¬ l <+: here :=
  fun hl => h (by rw [node?, if_pos hl])

lemma not_prefix_of_none {l : Location} (h : s.node? l = none) : ¬ l <+: here := by
  refine not_prefix_of_ne (s := s) fun hd => ?_
  rw [h] at hd
  cases hd

lemma node?_set_self {l : Location} (hl : ¬ l <+: here) (s : Store here) (n : Node) :
    (s.set l n).node? l = some n := by
  simp [node?, set, KeyMap.find?_insert, hl]

lemma node?_set_of_ne {l k : Location} (h : l ≠ k) (s : Store here) (n : Node) :
    (s.set l n).node? k = s.node? k := by
  simp [node?, set, KeyMap.find?_insert, h]

lemma node?_drop_self {l : Location} (hl : ¬ l <+: here) (s : Store here) :
    (s.drop l).node? l = none := by
  simp [node?, drop, KeyMap.find?_erase, hl]

lemma node?_drop_of_ne {l k : Location} (h : l ≠ k) (s : Store here) :
    (s.drop l).node? k = s.node? k := by
  simp [node?, drop, KeyMap.find?_erase, h]

lemma puts_set {l : Location} (hd : s.node? l ≠ some .directory) (bytes : ByteArray) :
    Puts l (some bytes) s (s.set l (.file bytes)) where
  directories k hk := by
    have hlk : l ≠ k := fun h => hd (h ▸ hk)
    rw [node?_set_of_ne hlk, hk]
  files k hk := by
    rw [file?, node?_set_of_ne (fun h => hk h.symm), file?]
  opens k hk := by
    by_cases hlk : l = k
    · rw [← hlk, node?_set_self (not_prefix_of_ne hd)] at hk
      cases hk
    · rwa [node?_set_of_ne hlk] at hk
  there := by rw [file?, node?_set_self (not_prefix_of_ne hd)]

lemma puts_drop {l : Location} (hd : s.node? l ≠ some .directory) :
    Puts l none s (s.drop l) where
  directories k hk := by
    have hlk : l ≠ k := fun h => hd (h ▸ hk)
    rw [node?_drop_of_ne hlk, hk]
  files k hk := by
    rw [file?, node?_drop_of_ne (fun h => hk h.symm), file?]
  opens k hk := by
    by_cases hlk : l = k
    · rw [← hlk, node?_drop_self (not_prefix_of_ne hd)] at hk
      cases hk
    · rwa [node?_drop_of_ne hlk] at hk
  there := by rw [file?, node?_drop_self (not_prefix_of_ne hd)]

lemma makes_set {l : Location} (hn : s.node? l = none) :
    Makes (· = l) s (s.set l .directory) where
  directories k hk := by
    have hlk : l ≠ k := fun h => by rw [← h, hn] at hk; cases hk
    rw [node?_set_of_ne hlk, hk]
  files k _ := by
    by_cases hlk : l = k
    · subst hlk
      rw [file?, node?_set_self (not_prefix_of_none hn), file?, hn]
    · rw [file?, node?_set_of_ne hlk, file?]
  opens k hk := by
    by_cases hlk : l = k
    · exact .inr hlk.symm
    · rw [node?_set_of_ne hlk] at hk
      exact .inl hk

lemma node?_of_file? {l : Location} {bytes : ByteArray} (h : s.file? l = some bytes) :
    s.node? l = some (.file bytes) := by
  unfold file? at h
  split at h
  · rename_i c hc
    rw [hc, Option.some.inj h]
  · cases h

lemma not_prefix_of_file? {l : Location} {bytes : ByteArray} (h : s.file? l = some bytes) :
    ¬ l <+: here := by
  refine not_prefix_of_ne (s := s) fun hd => ?_
  rw [node?_of_file? h] at hd
  cases hd

lemma find?_of_file? {l : Location} {bytes : ByteArray} (h : s.file? l = some bytes) :
    s.nodes.find? l = some (.file bytes) := by
  have hn := node?_of_file? h
  rwa [node?, if_neg (not_prefix_of_file? h)] at hn

lemma set_eq_self {l : Location} {bytes : ByteArray} (h : s.file? l = some bytes) :
    s.set l (.file bytes) = s := by
  rw [set, KeyMap.insert_eq_self (find?_of_file? h)]

lemma set_drop_eq_self {l : Location} {bytes : ByteArray} (h : s.file? l = some bytes) :
    (s.drop l).set l (.file bytes) = s := by
  rw [set, drop, KeyMap.insert_erase_eq_self (find?_of_file? h)]

/-! ### Ways through a store -/

lemma walk_cons {l l' : Location} {name : String} {names : List String} :
    s.walk l (name :: names) = .ok l' ↔
      (name = "." ∧ s.walk l names = .ok l') ∨
      (name = ".." ∧ s.walk l.dropLast names = .ok l') ∨
      (name ≠ "." ∧ name ≠ ".." ∧ name.utf8ByteSize ≤ longestName ∧
        s.node? (l ++ [name]) = some .directory ∧ s.walk (l ++ [name]) names = .ok l') := by
  rw [walk]
  by_cases hh : name = "."
  · simp [hh]
  by_cases hu : name = ".."
  · simp [hu]
  by_cases hb : longestName < name.utf8ByteSize
  · simp [hh, hu, hb, Nat.not_le.2 hb]
  · rcases hn : s.node? (l ++ [name]) with _ | (_ | c) <;> simp [hh, hu, hb, Nat.le_of_not_lt hb]

lemma walk_eq_ok {l l' : Location} {names : List String} (h : s.walk l names = .ok l') :
    l' = Path.follow l names := by
  induction names generalizing l with
  | nil => cases h; rfl
  | cons name names ih =>
    rcases walk_cons.1 h with ⟨rfl, h⟩ | ⟨rfl, h⟩ | ⟨hh, hu, -, -, h⟩
    · simpa [Path.follow] using ih h
    · simpa [Path.follow] using ih h
    · simpa [Path.follow, hh, hu] using ih h

lemma Within.walk (h : Within L s t) {l l' : Location} {names : List String}
    (hw : s.walk l names = .ok l') : t.walk l names = .ok l' := by
  induction names generalizing l with
  | nil => exact hw
  | cons name names ih =>
    rcases walk_cons.1 hw with ⟨rfl, hw⟩ | ⟨rfl, hw⟩ | ⟨hh, hu, hb, hd, hw⟩
    · exact walk_cons.2 (.inl ⟨rfl, ih hw⟩)
    · exact walk_cons.2 (.inr (.inl ⟨rfl, ih hw⟩))
    · exact walk_cons.2 (.inr (.inr ⟨hh, hu, hb, h.directories _ hd, ih hw⟩))

lemma walk_append {l m l' : Location} {xs ys : List String} (hx : s.walk l xs = .ok m)
    (hy : s.walk m ys = .ok l') : s.walk l (xs ++ ys) = .ok l' := by
  induction xs generalizing l with
  | nil => cases hx; exact hy
  | cons x xs ih =>
    rcases walk_cons.1 hx with ⟨rfl, hx⟩ | ⟨rfl, hx⟩ | ⟨hh, hu, hb, hd, hx⟩
    · exact walk_cons.2 (.inl ⟨rfl, ih hx⟩)
    · exact walk_cons.2 (.inr (.inl ⟨rfl, ih hx⟩))
    · exact walk_cons.2 (.inr (.inr ⟨hh, hu, hb, hd, ih hx⟩))

structure IsEntry (s : Store here) (p : Path) (parent : Location) (name : String) : Prop where
  segments : ∃ before, p.segments = before ++ [name] ∧ s.walk (p.origin here) before = .ok parent
  ne_here : name ≠ "."
  ne_up : name ≠ ".."
  fits : name.utf8ByteSize ≤ longestName

lemma IsEntry.location {p : Path} {parent : Location} {name : String}
    (h : IsEntry s p parent name) : parent ++ [name] = p.location here := by
  obtain ⟨before, hs, hw⟩ := h.segments
  rw [Path.location, hs, Path.follow_append, ← walk_eq_ok hw]
  simp [Path.follow, h.ne_here, h.ne_up]

lemma IsEntry.within {p : Path} {parent : Location} {name : String} (h : IsEntry s p parent name)
    (hwithin : Within L s t) : IsEntry t p parent name := by
  obtain ⟨before, hsegments, hw⟩ := h.segments
  exact ⟨⟨before, hsegments, hwithin.walk hw⟩, h.ne_here, h.ne_up, h.fits⟩

structure IsPlace (s : Store here) (p : Path) (l : Location) : Prop where
  dots : ∀ name ∈ p.segments.getLast?, name = "." ∨ name = ".."
  walk : s.walk (p.origin here) p.segments = .ok l

/-- A path that leads anywhere at all. -/
structure IsLegal (p : Path) : Prop where
  ne_empty : p.text ≠ ""
  noNull : p.hasNull = false
  fits : p.text.utf8ByteSize ≤ longestPath

lemma IsPlace.target {p : Path} {l : Location} (h : IsPlace s p l) (hp : IsLegal p) :
    s.target p = .ok (.place l) := by
  unfold Store.target
  rw [if_neg hp.ne_empty, if_neg (by simp [hp.noNull]), if_neg (Nat.not_lt.2 hp.fits)]
  rcases List.eq_nil_or_concat p.segments with hs | ⟨before, last, hs⟩
  · have hw := h.walk
    rw [hs] at hw ⊢
    cases hw
    rfl
  · have hlast : last = "." ∨ last = ".." := h.dots last (by simp [hs])
    rw [h.walk]
    simp [hs, hlast, Except.map]

lemma IsEntry.target {p : Path} {parent : Location} {name : String} (h : IsEntry s p parent name)
    (hp : IsLegal p) :
    s.target p = .ok (.entry parent name (p.text.toList.getLast? == some '/')) := by
  unfold Store.target
  rw [if_neg hp.ne_empty, if_neg (by simp [hp.noNull]), if_neg (Nat.not_lt.2 hp.fits)]
  obtain ⟨before, hs, hw⟩ := h.segments
  simp [hs, h.ne_here, h.ne_up, hw, Nat.not_lt.2 h.fits, bind, Except.bind]

lemma target_eq_ok_iff {p : Path} {x : Target} : s.target p = .ok x ↔
    IsLegal p ∧ ((∃ l, IsPlace s p l ∧ x = .place l) ∨ ∃ parent name, IsEntry s p parent name ∧
      x = .entry parent name (p.text.toList.getLast? == some '/')) := by
  constructor
  · intro h
    unfold Store.target at h
    split_ifs at h with htext hnull hlong
    refine ⟨⟨htext, by simpa using hnull, by omega⟩, ?_⟩
    split at h
    · rename_i hr
      rw [List.reverse_eq_nil_iff] at hr
      cases h
      exact .inl ⟨_, ⟨by simp [hr], by rw [hr]; rfl⟩, rfl⟩
    · rename_i last before hr
      have hs : p.segments = before.reverse ++ [last] := by simpa using congrArg List.reverse hr
      split at h
      · rename_i hdots
        rcases hw : s.walk (p.origin here) p.segments with f | l
        · simp [hw, Except.map] at h
        · rw [hw] at h
          cases h
          exact .inl ⟨l, ⟨by simp [hs, hdots], hw⟩, rfl⟩
      · rename_i hdots
        obtain ⟨hhere, hup⟩ := not_or.1 hdots
        obtain ⟨parent, hw, h⟩ := bind_eq_ok h
        split at h
        · cases h
        · rename_i hfits
          cases h
          exact .inr ⟨parent, last, ⟨⟨_, hs, hw⟩, hhere, hup, Nat.le_of_not_lt hfits⟩, rfl⟩
  · rintro ⟨hp, ⟨l, hplace, rfl⟩ | ⟨parent, name, hentry, rfl⟩⟩
    · exact hplace.target hp
    · exact hentry.target hp

lemma isEntry_of_target {p : Path} {parent : Location} {name : String} {slash : Bool}
    (h : s.target p = .ok (.entry parent name slash)) : IsEntry s p parent name := by
  obtain ⟨-, ⟨l, -, hx⟩ | ⟨parent, name, hentry, hx⟩⟩ := target_eq_ok_iff.1 h
  · cases hx
  · cases hx
    exact hentry

lemma walk_of_target {p : Path} {l : Location} (h : s.target p = .ok (.place l)) :
    s.walk (p.origin here) p.segments = .ok l := by
  obtain ⟨-, ⟨l, hplace, hx⟩ | ⟨parent, name, -, hx⟩⟩ := target_eq_ok_iff.1 h
  · cases hx
    exact hplace.walk
  · cases hx

lemma Within.target (h : Within L s t) {p : Path} {x : Target} (ht : s.target p = .ok x) :
    t.target p = .ok x := by
  obtain ⟨hp, ⟨l, hplace, rfl⟩ | ⟨parent, name, hentry, rfl⟩⟩ := target_eq_ok_iff.1 ht
  · exact IsPlace.target ⟨hplace.dots, h.walk hplace.walk⟩ hp
  · exact (hentry.within h).target hp

/-! ### Operations -/

/-- A path leads to an entry, which need not be a directory. -/
def Reaches (s : Store here) (p : Path) : Prop :=
  ∃ parent name, s.target p = .ok (.entry parent name false)

lemma Within.reaches (h : Within L s t) {p : Path} (hp : s.Reaches p) : t.Reaches p := by
  obtain ⟨parent, name, hp⟩ := hp
  exact ⟨parent, name, h.target hp⟩

theorem read_eq_ok_iff {p : Path} {bytes : ByteArray} :
    s.read p = .ok bytes ↔ s.Reaches p ∧ s.file? (p.location here) = some bytes := by
  constructor
  · intro h
    obtain ⟨n, hn, h⟩ := bind_eq_ok h
    obtain ⟨x, hx, hn⟩ := bind_eq_ok hn
    cases x with
    | place l => cases hn; cases h
    | entry parent name slash =>
      dsimp only at hn
      split at hn
      · cases hn
      · cases hn; cases h
      · rename_i c hc
        cases slash with
        | true => cases hn
        | false =>
          cases hn
          cases h
          refine ⟨⟨parent, name, hx⟩, ?_⟩
          rw [← (isEntry_of_target hx).location, file?, hc]
  · rintro ⟨⟨parent, name, hx⟩, hf⟩
    rw [← (isEntry_of_target hx).location, file?] at hf
    split at hf
    · rename_i c hc
      cases hf
      simp [read, find, hx, hc, bind, Except.bind, pure, Except.pure]
    · cases hf

lemma Within.read (h : Within L s t) {p : Path} {bytes : ByteArray} (hr : s.read p = .ok bytes)
    (hp : ¬ L (p.location here)) : t.read p = .ok bytes := by
  obtain ⟨hp', hf⟩ := read_eq_ok_iff.1 hr
  exact read_eq_ok_iff.2 ⟨h.reaches hp', by rw [h.files _ hp, hf]⟩

lemma look_of_read {p : Path} {bytes : ByteArray} (h : s.read p = .ok bytes) :
    s.look p = some .file := by
  obtain ⟨n, hn, h⟩ := bind_eq_ok h
  cases n with
  | directory => cases h
  | file bytes =>
    rw [look, hn]
    rfl

lemma puts_set_entry {p : Path} {parent : Location} {name : String} (h : IsEntry s p parent name)
    (hd : s.node? (parent ++ [name]) ≠ some .directory) (bytes : ByteArray) :
    Puts (p.location here) (some bytes) s (s.set (parent ++ [name]) (.file bytes)) := by
  rw [← h.location]
  exact puts_set hd bytes

/-- What opening a file for writing and moving one into its place have in common. -/
lemma puts_of_placed {p : Path} {x : Target} {bytes : ByteArray} {atPlace atSlash : Fault}
    (h : (match x with
      | .place _ => .error atPlace
      | .entry parent name slash =>
        if slash then .error atSlash
        else
          match s.node? (parent ++ [name]) with
          | some .directory => .error .isDirectory
          | _ => pure (s.set (parent ++ [name]) (.file bytes)) : Except Fault (Store here)) = .ok t)
    (hx : s.target p = .ok x) :
    Puts (p.location here) (some bytes) s t ∧ t.Reaches p := by
  cases x with
  | place l => cases h
  | entry parent name slash =>
    cases slash with
    | true => cases h
    | false =>
      simp only [Bool.false_eq_true, if_false] at h
      split at h
      · cases h
      · rename_i hd
        cases h
        have hput := puts_set_entry (isEntry_of_target hx) hd bytes
        exact ⟨hput, hput.reaches ⟨parent, name, hx⟩⟩

lemma moveIn_eq_ok {p : Path} {bytes : ByteArray} (h : s.moveIn bytes p = .ok t) :
    Puts (p.location here) (some bytes) s t ∧ t.Reaches p := by
  unfold moveIn at h
  dsimp only at h
  split at h
  · cases h
  obtain ⟨x, hx, h⟩ := bind_eq_ok h
  exact puts_of_placed h hx

lemma truncate_eq_ok {p : Path} (h : s.truncate p = .ok t) :
    Puts (p.location here) (some .empty) s t ∧ t.Reaches p := by
  obtain ⟨x, hx, h⟩ := bind_eq_ok h
  exact puts_of_placed h hx

lemma fill_eq_ok {p : Path} {bytes : ByteArray} (h : s.fill p bytes = .ok t) :
    Puts (p.location here) (some bytes) s t := by
  unfold fill at h
  obtain ⟨x, hx, h⟩ := bind_eq_ok h
  cases x with
  | place l => cases h
  | entry parent name slash =>
    dsimp only at h
    split at h
    · rename_i c hc
      cases h
      exact puts_set_entry (isEntry_of_target hx) (by simp [hc]) bytes
    · cases h
    · cases h

lemma remove_eq_ok {p : Path} (h : s.remove p = .ok t) : Puts (p.location here) none s t := by
  unfold remove at h
  obtain ⟨x, hx, h⟩ := bind_eq_ok h
  cases x with
  | place l => cases h
  | entry parent name slash =>
    dsimp only at h
    split at h
    · cases h
    · cases h
    · rename_i c hc
      cases slash with
      | true => cases h
      | false =>
        cases h
        rw [← (isEntry_of_target hx).location]
        exact puts_drop (by simp [hc])

lemma remove_eq_notFound {dir : Path} {name : String} (hn : Path.IsFileName name)
    (hw : s.walk (dir.origin here) dir.segments = .ok (dir.location here))
    (h : s.remove (dir.join ⟨name⟩) = .error .notFound) :
    s.file? (dir.location here ++ [name]) = none := by
  have hseg := Path.segments_join dir hn
  have horigin := Path.origin_join here dir hn
  have htext := Path.text_join_ne dir hn
  unfold remove target at h
  rw [if_neg htext] at h
  split at h
  · cases h
  split at h
  · cases h
  simp only [hseg, horigin, List.reverse_append, List.reverse_cons, List.reverse_nil,
    List.nil_append, List.cons_append, hn.ne_here, hn.ne_up, or_self, if_false,
    List.reverse_reverse, hw, bind, Except.bind] at h
  by_cases hb : longestName < name.utf8ByteSize
  · simp [hb] at h
  · simp only [hb, if_false] at h
    split at h
    · rename_i hnone
      rw [file?, hnone]
    · cases h
    · split at h <;> cases h

lemma IsEntry.walk {p : Path} {parent : Location} {name : String} (h : IsEntry s p parent name)
    (hd : s.node? (parent ++ [name]) = some .directory) :
    s.walk (p.origin here) p.segments = .ok (p.location here) := by
  obtain ⟨before, hs, hw⟩ := h.segments
  rw [hs, ← h.location]
  refine walk_append hw (walk_cons.2 (.inr (.inr ⟨h.ne_here, h.ne_up, h.fits, hd, rfl⟩)))

end TaskCorpus.Store
