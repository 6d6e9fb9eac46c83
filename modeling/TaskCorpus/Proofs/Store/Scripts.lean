import TaskCorpus.Proofs.Path.Passage
import TaskCorpus.Proofs.Store.Directories
import TaskCorpus.Proofs.Store.Execution

/-!
What the scripts for whole files attain, with refusals at any operation.

For every operation there is one lemma on what its outcomes say of the store, and for every
script one on what it attains; callers need no more than that. Until a file is committed the
store stays as it is.
-/

namespace TaskCorpus.Store

variable {here : Location} {d e : Desk here} {s t u : Store here}

/-! ### Outcomes -/

namespace Operation.Outcome

lemma cases_of_not_breaks {op : Operation} {r : op.Result} (h : op.Outcome d r e)
    (hop : ¬ op.Breaks d e) : (r, e) = op.run d ∨ ∃ f, op.refusal? f = some r ∧ e = d :=
  h.imp_right fun ⟨f, hr, he⟩ => ⟨f, hr, he.resolve_right hop⟩

lemma look {p : Path} {r : Option Kind} (h : Outcome (.look p) d r e) :
    e = d ∧ (r = some .directory → d.store.look p = some .directory) := by
  rcases h.cases_of_not_breaks id with h | ⟨f, hr, rfl⟩
  · cases h
    exact ⟨rfl, fun h => h⟩
  · cases hr
    exact ⟨rfl, fun h => by cases h⟩

lemma read {p : Path} {r : Except Fault ByteArray} (h : Outcome (.read p) d r e) :
    e = d ∧ ∀ bytes, r = .ok bytes → d.store.read p = .ok bytes := by
  rcases h.cases_of_not_breaks id with h | ⟨f, hr, rfl⟩
  · cases h
    exact ⟨rfl, fun _ h => h⟩
  · cases hr
    exact ⟨rfl, fun _ h => by cases h⟩

lemma settle {d : Desk here} {x : Except Fault (Store here)} {r : Except Fault Unit} {e : Desk here}
    (h : (r, e) = d.settle x) :
    (r = .ok () ∧ x = .ok e.store) ∨ ∃ f, r = .error f ∧ e = d ∧ x = .error f := by
  cases x with
  | ok t =>
    cases h
    exact .inl ⟨rfl, rfl⟩
  | error f =>
    cases h
    exact .inr ⟨f, rfl, rfl, rfl⟩

lemma makeDirectory {p : Path} {r : Except Fault Unit} (h : Outcome (.makeDirectory p) d r e) :
    Makes (· = p.location here) d.store e.store ∧
      (r = .ok () → e.store.look p = some .directory) := by
  rcases h.cases_of_not_breaks id with h | ⟨f, hr, rfl⟩
  · rcases settle h with ⟨-, hm⟩ | ⟨f, rfl, rfl, -⟩
    · obtain ⟨hmakes, hlook⟩ := makeDirectory_eq_ok hm
      exact ⟨hmakes, fun _ => hlook⟩
    · exact ⟨.refl _ _, fun h => by cases h⟩
  · cases hr
    exact ⟨.refl _ _, fun h => by cases h⟩

lemma remove {p : Path} {r : Except Fault Unit} (h : Outcome (.remove p) d r e) :
    (r = .ok () ∧ Puts (p.location here) none d.store e.store) ∨
      ∃ f, r = .error f ∧ e = d ∧ (f = .notFound → d.store.remove p = .error .notFound) := by
  rcases h.cases_of_not_breaks id with h | ⟨f, hr, rfl⟩
  · rcases settle h with ⟨hr, hm⟩ | ⟨f, hr, he, hm⟩
    · exact .inl ⟨hr, remove_eq_ok hm⟩
    · exact .inr ⟨f, hr, he, fun hf => by rw [hm, hf]⟩
  · simp only [refusal?] at hr
    split at hr
    · cases hr
    · rename_i hf
      cases hr
      exact .inr ⟨f, rfl, rfl, fun h => absurd h hf⟩

lemma truncate {p : Path} {r : Except Fault Unit} (h : Outcome (.truncate p) d r e) :
    (r = .ok () ∧ Puts (p.location here) (some .empty) d.store e.store ∧ e.store.Reaches p) ∨
      ∃ f, r = .error f ∧ e = d := by
  rcases h.cases_of_not_breaks id with h | ⟨f, hr, rfl⟩
  · rcases settle h with ⟨hr, hm⟩ | ⟨f, hr, he, -⟩
    · exact .inl ⟨hr, truncate_eq_ok hm⟩
    · exact .inr ⟨f, hr, he⟩
  · cases hr
    exact .inr ⟨f, rfl, rfl⟩

/-- A file that is filled holds all bytes, or the first of them, or what it held before. -/
lemma fill {p : Path} {bytes : ByteArray} {r : Except Fault Unit}
    (h : Outcome (.fill p bytes) d r e) :
    (r = .ok () ∧ Puts (p.location here) (some bytes) d.store e.store) ∨
      ∃ f, r = .error f ∧ (e = d ∨
        ∃ n, Puts (p.location here) (some (bytes.extract 0 n)) d.store e.store) := by
  rcases h with h | ⟨f, hr, rfl | ⟨n, he⟩⟩
  · rcases settle h with ⟨hr, hm⟩ | ⟨f, hr, he, -⟩
    · exact .inl ⟨hr, fill_eq_ok hm⟩
    · exact .inr ⟨f, hr, .inl he⟩
  · cases hr
    exact .inr ⟨f, rfl, .inl rfl⟩
  · cases hr
    refine .inr ⟨f, rfl, ?_⟩
    rcases settle (Prod.ext rfl he : (_, e) = d.settle _) with ⟨-, hm⟩ | ⟨-, -, he, -⟩
    · exact .inr ⟨n, fill_eq_ok hm⟩
    · exact .inl he

lemma stage {dir : Path} {name : String} {r : Except Fault Unit}
    (h : Outcome (.stage dir name) d r e) :
    e.store = d.store ∧ (r = .ok () → d.store.admits dir name = .ok ()) := by
  rcases h.cases_of_not_breaks id with h | ⟨f, hr, rfl⟩
  · simp only [run] at h
    split at h
    · rename_i hadmits
      cases h
      exact ⟨rfl, fun _ => hadmits⟩
    · cases h
      exact ⟨rfl, fun h => by cases h⟩
  · cases hr
    exact ⟨rfl, fun h => by cases h⟩

lemma write {bytes : ByteArray} {r : Except Fault Unit} (h : Outcome (.write bytes) d r e) :
    e.store = d.store ∧ (r = .ok () → e.temporary = some bytes) := by
  have hstore : ∀ b, ((Operation.write b).run d).2.store = d.store := by
    intro b
    simp only [run]
    split <;> rfl
  rcases h with h | ⟨f, hr, rfl | ⟨n, rfl⟩⟩
  · simp only [run] at h
    split at h
    · cases h
      exact ⟨rfl, fun _ => rfl⟩
    · cases h
      exact ⟨rfl, fun h => by cases h⟩
  · cases hr
    exact ⟨rfl, fun h => by cases h⟩
  · cases hr
    exact ⟨hstore _, fun h => by cases h⟩

lemma commit {p : Path} {bytes : ByteArray} {r : Except Fault Unit} (h : Outcome (.commit p) d r e)
    (hd : d.temporary = some bytes) :
    (r = .ok () ∧ Puts (p.location here) (some bytes) d.store e.store ∧ e.store.Reaches p) ∨
      ∃ f, r = .error f ∧ e = d := by
  rcases h.cases_of_not_breaks id with h | ⟨f, hr, rfl⟩
  · simp only [run] at h
    split at h
    · rename_i c hc
      rw [hc] at hd
      cases hd
      split at h
      · rename_i t ht
        cases h
        exact .inl ⟨rfl, moveIn_eq_ok ht⟩
      · cases h
        exact .inr ⟨_, rfl, rfl⟩
    · rename_i hc
      rw [hc] at hd
      cases hd
  · cases hr
    exact .inr ⟨f, rfl, rfl⟩

lemma discard {r : Unit} (h : Outcome .discard d r e) : e.store = d.store := by
  rcases h.cases_of_not_breaks id with h | ⟨f, hr, rfl⟩
  · cases h
    rfl
  · rfl

end Operation.Outcome

/-! ### Scripts -/

open Script (Attains Ensures)

lemma attains_read (unread : Fault → Error) (p : Path) :
    (attempt unread (Script.perform (.read p))).run.Attains (fun e => e = d)
      (fun bytes e => e = d ∧ d.store.read p = .ok bytes) d := by
  refine Attains.attempt ⟨rfl, fun r e ho => ?_⟩
  obtain ⟨rfl, hread⟩ := ho.read
  cases r with
  | ok bytes => exact ⟨rfl, hread bytes rfl⟩
  | error f => exact rfl

lemma attains_settle {p : Path} {f : Fault} {I : Desk here → Prop} (hd : I d) :
    (makeFirst.settle p f).Attains I (fun _ e => I e ∧ e.store.look p = some .directory) d := by
  refine Ensures.bind (P := fun r e => I e ∧ (r = some .directory →
    e.store.look p = some .directory)) ⟨hd, fun r e ho => ?_⟩ fun r e ⟨hI, hlook⟩ => ?_
  · obtain ⟨rfl, hlook⟩ := ho.look
    exact ⟨hd, hlook⟩
  · split
    · rename_i hr
      exact ⟨hI, hlook hr⟩
    · exact hI

lemma attains_makeFirst {W : Location → Prop} {ps : List Path}
    (hW : ∀ p ∈ ps, W (p.location here)) (hd : Makes W s d.store) :
    (makeFirst ps).Attains (fun e => Makes W s e.store)
      (fun _ e => Makes W s e.store ∧ ∀ p ∈ ps.head?, e.store.IsDirectory p) d := by
  induction ps generalizing d with
  | nil => exact hd
  | cons p above ih =>
    obtain ⟨hp, habove⟩ := List.forall_mem_cons.1 hW
    have hmade : ∀ {e e' : Desk here}, Makes W s e.store →
        Makes (· = p.location here) e.store e'.store → Makes W s e'.store := by
      intro e e' he hmakes
      exact he.trans (hmakes.mono fun l hl => hl ▸ hp)
    have hsettle : ∀ (f : Fault) (e : Desk here), Makes W s e.store →
        (makeFirst.settle p f).Attains (fun e => Makes W s e.store)
          (fun _ e => Makes W s e.store ∧ ∀ q ∈ (p :: above).head?, e.store.IsDirectory q) e := by
      intro f e he
      exact (attains_settle he).mono (fun _ h => h) fun _ _ h => ⟨h.1, by simpa using .inr h.2⟩
    unfold makeFirst
    split
    · -- an empty path stands for the working directory
      rename_i htext
      exact ⟨hd, by simpa using .inl htext⟩
    · refine ⟨hd, fun r e ho => ?_⟩
      obtain ⟨hmakes, hlook⟩ := ho.makeDirectory
      have he := hmade hd hmakes
      dsimp only [Script.bind]
      split
      · exact ⟨he, by simpa using .inr (hlook rfl)⟩
      · -- not found: the directories above are missing
        refine Ensures.bind (ih habove he) fun r e' hr => ?_
        cases r with
        | error f => exact hr
        | ok _ =>
          refine ⟨hr.1, fun r e'' ho => ?_⟩
          obtain ⟨hmakes', hlook'⟩ := ho.makeDirectory
          dsimp only [Script.bind]
          split
          · exact ⟨hmade hr.1 hmakes', by simpa using .inr (hlook' rfl)⟩
          · exact hsettle _ _ (hmade hr.1 hmakes')
      · exact hsettle _ _ he

lemma passes_of_mem_ancestors {n : Nat} {p q : Path} (h : q ∈ ancestors n p) :
    p.Passes here (q.location here) := by
  induction n generalizing p with
  | zero => cases h
  | succ n ih =>
    rw [ancestors, List.mem_cons] at h
    rcases h with rfl | h
    · exact q.passes_location here
    · split at h
      · rename_i parent hparent
        exact (ih h).of_parent? hparent
      · cases h

/-- To make directories changes no file, makes none off the way, and ends at a directory. -/
theorem attains_makeDirectories (p : Path) :
    (makeDirectories p).Attains (fun e => Makes (p.Passes here) d.store e.store)
      (fun _ e => Makes (p.Passes here) d.store e.store ∧ e.store.IsDirectory p) d := by
  refine (attains_makeFirst (fun q hq => passes_of_mem_ancestors hq) (.refl _ _)).mono
    (fun _ h => h) fun _ e h => ⟨h.1, h.2 p ?_⟩
  simp [ancestors]

lemma attains_giveUp {error : Error} {I : Desk here → Prop} {P : Unit → Desk here → Prop}
    (hI : ∀ e, e.store = d.store → I e) : (replaceFile.giveUp error).Attains I P d := by
  refine ⟨hI d rfl, fun r e ho => ?_⟩
  exact hI e ho.discard

/-- To replace a file leaves the store as it is until the new file is complete, and a temporary
file could be made for it. -/
theorem attains_replaceFile (temporaryName : String) (unwritten : Fault → Error) (p : Path)
    (bytes : ByteArray) :
    (replaceFile temporaryName unwritten p bytes).run.Attains (fun e => e.store = d.store)
      (fun _ e => Puts (p.location here) (some bytes) d.store e.store ∧ e.store.Reaches p ∧
        d.store.admits p.directory temporaryName = .ok ()) d := by
  refine ⟨rfl, fun r e ho => ?_⟩
  obtain ⟨he, hadmits⟩ := ho.stage
  cases r with
  | error f => exact he
  | ok _ =>
    refine ⟨he, fun r e' ho => ?_⟩
    obtain ⟨hs, htemp⟩ := ho.write
    have he' := hs.trans he
    cases r with
    | error f => exact attains_giveUp fun _ h => h.trans he'
    | ok _ =>
      refine ⟨he', fun r e'' ho => ?_⟩
      -- the store changes only when the temporary file is moved
      rcases ho.commit (htemp rfl) with ⟨rfl, hput, hreach⟩ | ⟨f, rfl, rfl⟩
      · rw [he'] at hput
        exact ⟨hput, hreach, hadmits rfl⟩
      · exact attains_giveUp fun _ h => h.trans he'

/-- Of a file that is being written, the first bytes are there. -/
def PutsFirst (l : Location) (bytes : ByteArray) (s t : Store here) : Prop :=
  ∃ n, Puts l (some (bytes.extract 0 n)) s t

lemma Puts.first {l : Location} (h : Puts l (some .empty) s t) (bytes : ByteArray) :
    PutsFirst l bytes s t := ⟨0, by rwa [ByteArray.extract_same]⟩

lemma Puts.fill {p : Path} {bytes : ByteArray} {r : Except Fault Unit}
    (h : Puts (p.location here) (some .empty) s d.store) (hr : d.store.Reaches p)
    (ho : (Operation.fill p bytes).Outcome d r e) :
    (r = .ok () ∧ Puts (p.location here) (some bytes) s e.store ∧ e.store.Reaches p) ∨
      ∃ f, r = .error f ∧ PutsFirst (p.location here) bytes s e.store := by
  rcases ho.fill with ⟨rfl, hfill⟩ | ⟨f, rfl, rfl | ⟨n, hfill⟩⟩
  · exact .inl ⟨rfl, h.trans hfill, hfill.reaches hr⟩
  · exact .inr ⟨f, rfl, h.first bytes⟩
  · exact .inr ⟨f, rfl, n, h.trans hfill⟩

/-- A file that is written over is as it was, or holds the first of the bytes, until it holds
them all. -/
theorem attains_writeFile (p : Path) (bytes : ByteArray) :
    (writeFile p bytes).Attains
      (fun e => e.store = d.store ∨ PutsFirst (p.location here) bytes d.store e.store)
      (fun _ e => Puts (p.location here) (some bytes) d.store e.store ∧ e.store.Reaches p) d := by
  refine ⟨.inl rfl, fun r e ho => ?_⟩
  rcases ho.truncate with ⟨rfl, hput, hreach⟩ | ⟨f, rfl, rfl⟩
  · refine ⟨.inr (hput.first bytes), fun r e' ho => ?_⟩
    rcases hput.fill hreach ho with ⟨rfl, hfill⟩ | ⟨f, rfl, hfirst⟩
    · exact hfill
    · exact .inr hfirst
  · exact .inl rfl

/-- The bytes that a copy ends with: a target that is the source has been emptied by then. -/
def copied (source target : Location) (bytes : ByteArray) : ByteArray :=
  if source = target then .empty else bytes

/-- What is read for a copy is no longer what was found if the target is the source. -/
lemma Puts.read_eq {source target : Path} {bytes bytes' : ByteArray}
    (h : Puts (target.location here) (some .empty) s t)
    (hs : s.file? (source.location here) = some bytes)
    (ht : t.read source = .ok bytes') :
    bytes' = copied (source.location here) (target.location here) bytes := by
  have hfile := (read_eq_ok_iff.1 ht).2
  unfold copied
  split
  · rename_i heq
    rw [heq, h.there] at hfile
    exact (Option.some.inj hfile).symm
  · rename_i hne
    rw [h.files _ hne, hs] at hfile
    exact (Option.some.inj hfile).symm

lemma PutsFirst.of_copied {l source target : Location} {bytes : ByteArray}
    (h : PutsFirst l (copied source target bytes) s t) : PutsFirst l bytes s t := by
  unfold copied at h
  split at h
  · obtain ⟨n, h⟩ := h
    have hempty : ByteArray.empty.extract 0 n = .empty :=
      ByteArray.extract_eq_empty_iff.2 (Nat.min_le_right _ _)
    rw [hempty] at h
    exact h.first bytes
  · exact h

/-- A copy that does not get to its end leaves its target as it was, or with the first bytes of
its source. -/
theorem attains_copyFile (source target : Path) :
    (copyFile source target).Attains
      (fun e => e.store = d.store ∨ ∃ bytes, d.store.file? (source.location here) = some bytes ∧
        PutsFirst (target.location here) bytes d.store e.store)
      (fun _ e => ∃ bytes, d.store.file? (source.location here) = some bytes ∧
        Puts (target.location here)
          (some (copied (source.location here) (target.location here) bytes)) d.store e.store ∧
        e.store.Reaches target) d := by
  refine ⟨.inl rfl, fun r e ho => ?_⟩
  obtain ⟨rfl, hread⟩ := ho.read
  cases r with
  | error f => exact .inl rfl
  | ok bytes =>
    have hbytes := (read_eq_ok_iff.1 (hread bytes rfl)).2
    refine ⟨.inl rfl, fun r e' ho => ?_⟩
    rcases ho.truncate with ⟨rfl, hput, hreach⟩ | ⟨f, rfl, rfl⟩
    · -- the target is empty now; if it is the source then so is what is read next
      have hfirst := hput.first bytes
      refine ⟨.inr ⟨bytes, hbytes, hfirst⟩, fun r e'' ho => ?_⟩
      obtain ⟨rfl, hread'⟩ := ho.read
      cases r with
      | error f => exact .inr ⟨bytes, hbytes, hfirst⟩
      | ok bytes' =>
        obtain rfl := hput.read_eq hbytes (hread' bytes' rfl)
        refine ⟨.inr ⟨bytes, hbytes, hfirst⟩, fun r e ho => ?_⟩
        rcases hput.fill hreach ho with ⟨rfl, hfill⟩ | ⟨f, rfl, hpart⟩
        · exact ⟨bytes, hbytes, hfill⟩
        · exact .inr ⟨bytes, hbytes, hpart.of_copied⟩
    · exact .inl rfl

end TaskCorpus.Store
