import TaskCorpus.Proofs.Path.Passage

/-!
The home directory in a path.

The parts of a path are what it starts with and its names. What is dropped at the ends of the rest
of a path has no names, and the rest does not start with a slash, so the parts of the rest come
after those of the home directory, however the path is written.
-/

namespace TaskCorpus.Path

variable {p home base below : Path} {a b cs : List Char}

/-! ### Parts of a text -/

/-- The parts that are no start. -/
def named (cs : List Char) : List Part :=
  (((segmentsFrom [] cs).filter (· ≠ "")).filter (· ≠ ".")).map partOf

/-- The part that a text starts with, unless it starts with a name. -/
def start (cs : List Char) : List Part :=
  match cs with
  | '/' :: _ => [.root]
  | _ => if (segmentsFrom [] cs).head? = some "." then [.here] else []

lemma start_of_ne (h : ∀ b, cs ≠ '/' :: b) :
    start cs = if (segmentsFrom [] cs).head? = some "." then [.here] else [] := by
  unfold start
  split
  · exact absurd rfl (h _)
  · rfl

lemma isAbsolute_eq_false_iff : p.isAbsolute = false ↔ ∀ b, p.text.toList ≠ '/' :: b := by
  unfold isAbsolute
  split <;> simp_all

lemma parts_eq (p : Path) : p.parts = start p.text.toList ++ named p.text.toList := by
  by_cases hroot : ∃ b, p.text.toList = '/' :: b
  · obtain ⟨b, hb⟩ := hroot
    simp [parts, isAbsolute, start, segments, named, hb]
  · have hnot := not_exists.1 hroot
    simp only [parts, isAbsolute_eq_false_iff.2 hnot, start_of_ne hnot, segments, named,
      Bool.false_eq_true, if_false]
    split
    · rename_i hfirst
      simp [hfirst]
    · rename_i hfirst
      have hhead : (segmentsFrom [] p.text.toList).head? ≠ some "." := by
        intro h
        obtain ⟨rest, hrest⟩ := List.head?_eq_some_iff.1 h
        exact hfirst rest hrest
      rw [if_neg hhead, List.nil_append]

lemma segmentsFrom_ne_nil (done cs : List Char) : segmentsFrom done cs ≠ [] := by
  fun_induction segmentsFrom done cs with
  | case1 => exact List.cons_ne_nil _ _
  | case2 => exact List.cons_ne_nil _ _
  | case3 _ _ _ _ ih => exact ih

lemma named_nil : named [] = [] := rfl

lemma named_append (a b : List Char) : named (a ++ '/' :: b) = named a ++ named b := by
  simp only [named, segmentsFrom_append, List.filter_append, List.map_append]

lemma named_slash (cs : List Char) : named ('/' :: cs) = named cs := named_append [] cs

lemma named_here_slash (cs : List Char) : named ('.' :: '/' :: cs) = named cs :=
  named_append ['.'] cs

lemma start_append (ha : a ≠ []) (b : List Char) : start (a ++ '/' :: b) = start a := by
  obtain ⟨c, as, rfl⟩ := List.exists_cons_of_ne_nil ha
  by_cases hc : c = '/'
  · subst hc
    rfl
  rw [start_of_ne (by simp [hc]), start_of_ne (by simp [hc]), segmentsFrom_append]
  obtain ⟨s, rest, hfirst⟩ := List.exists_cons_of_ne_nil (segmentsFrom_ne_nil [] (c :: as))
  rw [hfirst, List.cons_append, List.head?_cons, List.head?_cons]

lemma start_append_slash (a b : List Char) : start (a ++ '/' :: b) = start (a ++ ['/']) := by
  cases a with
  | nil => rfl
  | cons c as =>
    rw [start_append (List.cons_ne_nil _ _), start_append (List.cons_ne_nil _ _)]

lemma parts_append (h : p.text.toList = a ++ '/' :: b) :
    p.parts = start (a ++ ['/']) ++ named a ++ named b := by
  rw [parts_eq, h, start_append_slash, named_append, List.append_assoc]

def only (a : List Char) : Part := if a = ['.'] then .here else partOf (String.ofList a)

lemma start_append_named (ha : a ≠ []) (hslash : '/' ∉ a) : start a ++ named a = [only a] := by
  have hempty : String.ofList a ≠ "" := by simpa using ha
  have hhere : String.ofList a = "." ↔ a = ['.'] := by
    rw [← String.toList_inj]
    simp
  rw [start_of_ne (by rintro b rfl; simp at hslash), named, segmentsFrom_of_noSlash hslash, only]
  by_cases hdot : a = ['.']
  · simp [hdot]
  · simp [hdot, hempty, hhere]

/-! ### The first part -/

lemma parts_of_noSlash (ha : a ≠ []) (hslash : '/' ∉ a) (h : p.text.toList = a) :
    p.parts = [only a] := by
  rw [parts_eq, h, start_append_named ha hslash]

lemma parts_of_slash (ha : a ≠ []) (hslash : '/' ∉ a) (h : p.text.toList = a ++ '/' :: b) :
    p.parts = only a :: named b := by
  rw [parts_append h, start_append ha, start_append_named ha hslash, List.singleton_append]

lemma head?_parts (h : p.text ≠ "") : p.parts.head? = some .root ∨
    ∃ a, p.parts.head? = some (only a) ∧
      (p.text.toList = a ∨ ∃ b, p.text.toList = a ++ '/' :: b) := by
  have hne : p.text.toList ≠ [] := fun hnil => h (String.toList_eq_nil_iff.1 hnil)
  by_cases hslash : '/' ∈ p.text.toList
  · obtain ⟨a, b, htext, ha⟩ := List.eq_append_cons_of_mem hslash
    by_cases hnil : a = []
    · subst hnil
      have hroot : start ('/' :: b) = [.root] := rfl
      exact .inl (by rw [parts_eq, htext, List.nil_append, hroot]; rfl)
    · exact .inr ⟨a, by rw [parts_of_slash hnil ha htext]; rfl, .inr ⟨b, htext⟩⟩
  · exact .inr ⟨_, by rw [parts_of_noSlash hne hslash rfl]; rfl, .inl rfl⟩

lemma parts_ne_nil (h : p.text ≠ "") : p.parts ≠ [] := by
  intro hnil
  rcases head?_parts h with hroot | ⟨a, hfirst, -⟩
  · simp [hnil] at hroot
  · simp [hnil] at hfirst

lemma eq_of_only (h : only a = .name "~") : a = ['~'] := by
  unfold only partOf at h
  split_ifs at h
  have htilde := congrArg String.toList (Part.name.inj h)
  rwa [String.toList_ofList] at htilde

lemma text_of_head (h : p.parts.head? = some (.name "~")) :
    p.text.toList = ['~'] ∨ ∃ b, p.text.toList = '~' :: '/' :: b := by
  have hne : p.text ≠ "" := by
    intro hempty
    simp [parts_eq, hempty, start, named, segmentsFrom] at h
  rcases head?_parts hne with hroot | ⟨a, hfirst, htext⟩
  · simp [hroot] at h
  · rw [h, Option.some.injEq] at hfirst
    rwa [eq_of_only hfirst.symm] at htext

/-! ### What is dropped has no names -/

lemma named_dropEmpty (cs : List Char) : named (dropEmpty cs) = named cs := by
  induction cs using dropEmpty.induct with
  | case1 cs ih => rw [dropEmpty, ih, named_slash]
  | case2 cs ih => rw [dropEmpty, ih, named_here_slash]
  | case3 => rfl
  | case4 cs h₁ h₂ h₃ => rw [dropEmpty.eq_4 _ h₁ h₂ h₃]

lemma named_dropEmpty_reverse (cs : List Char) :
    named (dropEmpty cs).reverse = named cs.reverse := by
  induction cs using dropEmpty.induct with
  | case1 cs ih =>
    rw [dropEmpty, ih, List.reverse_cons, named_append, named_nil, List.append_nil]
  | case2 cs ih =>
    have hend : named (cs.reverse ++ ['/', '.']) = named cs.reverse ++ named ['.'] :=
      named_append _ _
    have hhere : named ['.'] = [] := rfl
    rw [dropEmpty, ih, List.reverse_cons, List.reverse_cons, List.append_assoc, List.cons_append,
      List.nil_append, hend, hhere, List.append_nil]
  | case3 => rfl
  | case4 cs h₁ h₂ h₃ => rw [dropEmpty.eq_4 _ h₁ h₂ h₃]

lemma named_trim (cs : List Char) : named (trim cs) = named cs := by
  rw [trim, named_dropEmpty_reverse, List.reverse_reverse, named_dropEmpty]

lemma dropEmpty_ne_slash (cs : List Char) : ∀ b, dropEmpty cs ≠ '/' :: b := by
  induction cs using dropEmpty.induct with
  | case1 cs ih => rwa [dropEmpty]
  | case2 cs ih => rwa [dropEmpty]
  | case3 => simp [dropEmpty]
  | case4 cs h₁ h₂ h₃ =>
    rw [dropEmpty.eq_4 _ h₁ h₂ h₃]
    exact h₁

lemma trim_ne_slash (cs : List Char) : ∀ b, trim cs ≠ '/' :: b := by
  intro b hb
  obtain ⟨dropped, hdropped, -⟩ := dropEmpty_eq (dropEmpty cs).reverse
  have hcs : dropEmpty cs = '/' :: (b ++ dropped.reverse) := by
    rw [← List.reverse_reverse (dropEmpty cs), hdropped, List.reverse_append, ← trim, hb,
      List.cons_append]
  exact dropEmpty_ne_slash _ _ hcs

/-! ### Joining and expanding -/

lemma parts_join (hbase : base.text ≠ "") (hbelow : below.isAbsolute = false) :
    (base.join below).parts = base.parts ++ named below.text.toList := by
  rw [join, if_neg (by simp [hbelow])]
  split
  · rename_i hnil
    exact absurd (by simpa using hnil) hbase
  · -- the slash at the end of the base serves as the separator
    rename_i cs hcs
    have hend : base.text.toList = cs.reverse ++ ['/'] := by
      simpa using congrArg List.reverse hcs
    have hjoined : (base.text ++ below.text).toList = cs.reverse ++ '/' :: below.text.toList := by
      simp [hend]
    rw [parts_append hjoined, parts_append hend, named_nil, List.append_nil]
  · have hne : base.text.toList ≠ [] := fun h => hbase (String.toList_eq_nil_iff.1 h)
    have hjoined : (base.text ++ "/" ++ below.text).toList =
        base.text.toList ++ '/' :: below.text.toList := by simp
    rw [parts_append hjoined, start_append hne, ← parts_eq]

lemma exists_belowHome? (h : p.parts.head? = some (.name "~")) :
    ∃ rest, p.belowHome? = some rest ∧ rest.isAbsolute = false ∧
      named rest.text.toList = p.parts.tail := by
  rcases text_of_head h with htext | ⟨cs, htext⟩
  · have hparts : p.parts = [only ['~']] := parts_of_noSlash (by simp) (by simp) htext
    exact ⟨⟨""⟩, by simp [belowHome?, htext], rfl, by rw [hparts]; rfl⟩
  · have hparts : p.parts = only ['~'] :: named cs := parts_of_slash (by simp) (by simp) htext
    refine ⟨⟨String.ofList (trim cs)⟩, by simp [belowHome?, htext], ?_, ?_⟩
    · simpa [isAbsolute_eq_false_iff] using trim_ne_slash cs
    · rw [String.toList_ofList, named_trim, hparts, List.tail_cons]

lemma belowHome?_eq_none (h : p.parts.head? ≠ some (.name "~")) : p.belowHome? = none := by
  unfold belowHome?
  split
  · rename_i htext
    exact absurd (congrArg List.head? (parts_of_noSlash (by simp) (by simp) htext)) h
  · rename_i cs htext
    have hparts : p.parts = only ['~'] :: named cs := parts_of_slash (by simp) (by simp) htext
    exact absurd (congrArg List.head? hparts) h
  · rfl

lemma expandHome_of_head_ne (h : p.parts.head? ≠ some (.name "~")) : p.expandHome home = p := by
  rw [expandHome, belowHome?_eq_none h]

lemma parts_expandHome (hhome : home.text ≠ "") (h : p.parts.head? = some (.name "~")) :
    (p.expandHome home).parts = home.parts ++ p.parts.tail := by
  obtain ⟨rest, hrest, hrelative, hnamed⟩ := exists_belowHome? h
  rw [expandHome, hrest]
  rw [parts_join hhome hrelative, hnamed]

/-- **Home**: a path stays as it is unless its first part is `~`. Then its other parts come after
those of the home directory, however they are written. A path that has been expanded stays as it is,
unless the home directory starts with `~` itself. -/
theorem expandHome_replaces_tilde (hhome : home.text ≠ "") (p : Path) :
    (p.parts.head? ≠ some (.name "~") → p.expandHome home = p) ∧
    (p.parts.head? = some (.name "~") →
      (p.expandHome home).parts = home.parts ++ p.parts.tail) ∧
    (home.parts.head? ≠ some (.name "~") →
      (p.expandHome home).expandHome home = p.expandHome home) := by
  refine ⟨expandHome_of_head_ne, parts_expandHome hhome, fun hne => expandHome_of_head_ne ?_⟩
  by_cases h : p.parts.head? = some (.name "~")
  · obtain ⟨first, others, hparts⟩ := List.exists_cons_of_ne_nil (parts_ne_nil hhome)
    rwa [parts_expandHome hhome h, hparts, List.cons_append, List.head?_cons, ← List.head?_cons,
      ← hparts]
  · rwa [expandHome_of_head_ne h]

def homeSample : Path := ⟨"/h/"⟩

/-- A tilde in a name, and one that is not first. -/
def userSample : Path := ⟨"~user/~"⟩

/-- After the tilde, a part that would make the rest absolute, and parts that say nothing. -/
def dottedSample : Path := ⟨"~//./x/.././"⟩

theorem expandHome_replaces_tilde_sample : homeSample.text ≠ "" ∧
    (userSample.parts.head? ≠ some (.name "~") ∧ userSample.expandHome homeSample = userSample) ∧
    (dottedSample.parts.head? = some (.name "~") ∧
      (dottedSample.expandHome homeSample).parts = [.root, .name "h", .name "x", .up]) ∧
    homeSample.parts.head? ≠ some (.name "~") ∧
    (dottedSample.expandHome homeSample).expandHome homeSample =
      dottedSample.expandHome homeSample := by
  have htext : homeSample.text ≠ "" := by decide
  have huser : userSample.parts.head? ≠ some (.name "~") := by decide +kernel
  have hdotted : dottedSample.parts.head? = some (.name "~") := by decide +kernel
  have hhome : homeSample.parts.head? ≠ some (.name "~") := by decide +kernel
  have hparts : homeSample.parts ++ dottedSample.parts.tail =
      [.root, .name "h", .name "x", .up] := by decide +kernel
  obtain ⟨hkept, -, -⟩ := expandHome_replaces_tilde htext userSample
  obtain ⟨-, hbelow, htwice⟩ := expandHome_replaces_tilde htext dottedSample
  exact ⟨htext, ⟨huser, hkept huser⟩, ⟨hdotted, (hbelow hdotted).trans hparts⟩, hhome, htwice hhome⟩

end TaskCorpus.Path
