import TaskCorpus.Proofs.Table.Correspondence
import TaskCorpus.Table.Codec

/-!
Records are read back from batches of their rows.

`Codec.Lawful` is what is relied on of a codec: it reads the rows of a table that it has written
in order, however many of them stand in one batch. A batch of the table of records is the table of
some of them, so the batches together give the records.

The lists of a batch may be kept with offsets into items that it shares with other batches. A row
has the items from its offset to the next one, wherever the first offset is.
-/

namespace TaskCorpus.Table

/-- The rows of every table of the schema that has been written are read in order, batch by
batch. -/
structure Codec.Lawful (codec : Codec) : Prop where
  restores : ∀ {n : Nat} {columns : Columns}, IsTable n columns →
    ∃ ns : List Nat, ns.sum = n ∧
      codec.batches? (codec.write columns) = some ((columns.batches 0 ns).map some)

/-! ### Rows of records -/

lemma itemCount_eq_sum (ns : List Nat) : itemCount ns = ns.sum := by
  induction ns with
  | nil => rfl
  | cons n ns ih => rw [itemCount, ih, List.sum_cons]

section Items

variable {α β : Type} (f : α → List β) (as : List α)

lemma drop_flatMap (n : Nat) :
    (as.flatMap f).drop ((as.take n).map fun a => (f a).length).sum = (as.drop n).flatMap f := by
  conv_lhs => rw [← List.take_append_drop n as, List.flatMap_append]
  rw [← List.length_flatMap, List.take_append_drop, List.drop_left]

lemma take_flatMap (n : Nat) :
    (as.flatMap f).take ((as.take n).map fun a => (f a).length).sum = (as.take n).flatMap f := by
  conv_lhs => rw [← List.take_append_drop n as, List.flatMap_append]
  rw [← List.length_flatMap, List.take_append_drop, List.take_left]

lemma slice_flatMap (start n : Nat) :
    ((as.flatMap f).drop ((as.map fun a => (f a).length).take start).sum).take
        (((as.map fun a => (f a).length).drop start).take n).sum =
      ((as.drop start).take n).flatMap f := by
  rw [← List.map_take, ← List.map_drop, ← List.map_take, drop_flatMap, take_flatMap]

end Items

lemma slice_messageItems (start n : Nat) (ms : List Message) :
    (messageItems ms).slice start n = messageItems ((ms.drop start).take n) := by
  simp [messageItems, Column.slice, sliceFields, sliceField, List.map_take, List.map_drop]

lemma slice_callItems (start n : Nat) (cs : List Call) :
    (callItems cs).slice start n = callItems ((cs.drop start).take n) := by
  simp [callItems, Column.slice, sliceFields, sliceField, List.map_take, List.map_drop]

lemma slice_scoringColumn (start n : Nat) (ss : List Scoring) :
    (scoringColumn ss).slice start n = scoringColumn ((ss.drop start).take n) := by
  simp [scoringColumn, Column.slice, sliceFields, sliceField, itemCount_eq_sum, slice_callItems,
    slice_flatMap, List.map_take, List.map_drop]

lemma slice_extraColumn (start n : Nat) (es : List Extra) :
    (extraColumn es).slice start n = extraColumn ((es.drop start).take n) := by
  simp [extraColumn, Column.slice, sliceFields, sliceField, List.map_take, List.map_drop]

theorem sliceFields_ofRecords (start n : Nat) (rs : List Record) :
    sliceFields start n (ofRecords rs) = ofRecords ((rs.drop start).take n) := by
  simp [ofRecords, Column.slice, sliceFields, sliceField, itemCount_eq_sum, slice_messageItems,
    slice_flatMap, slice_scoringColumn, slice_extraColumn, List.map_take, List.map_drop]

/-- The batches of the table of records are the tables of the pieces that the records are cut
into. -/
lemma batches_ofRecords (rs : List Record) (start : Nat) (ns : List Nat) :
    (ofRecords rs).batches start ns = (cut ns (rs.drop start)).map ofRecords := by
  induction ns generalizing start with
  | nil => rfl
  | cons n ns ih =>
    simp only [Columns.batches, cut, List.map_cons, sliceFields_ofRecords, ih, List.drop_drop]

/-! ### Lists with offsets -/

section Offsets

variable {α : Type} {offsets : List Nat} {fields : Columns} {rows : Nat}

/-- The items from each offset to the next one. -/
def piecesAt (offsets : List Nat) (as : List α) : List (List α) :=
  List.zipWith (fun start stop => (as.drop start).take (stop - start)) offsets offsets.tail

lemma cut_lengthsOf (h : offsets.Pairwise (· ≤ ·)) (as : List α) :
    cut (lengthsOf offsets) ((as.drop (offsets.headD 0)).take (itemCount (lengthsOf offsets))) =
      piecesAt offsets as := by
  induction offsets with
  | nil => rfl
  | cons start offsets ih =>
    cases offsets with
    | nil => rfl
    | cons stop offsets =>
      have hle : start ≤ stop := List.rel_of_pairwise_cons h List.mem_cons_self
      have hrest := ih h.of_cons
      simp only [lengthsOf, piecesAt, List.headD_cons, List.tail_cons, List.zipWith_cons_cons,
        itemCount, cut, List.take_take, Nat.min_eq_left (Nat.le_add_right _ _)] at hrest ⊢
      rw [List.drop_take, Nat.add_sub_cancel_left, List.drop_drop, Nat.add_sub_cancel' hle, hrest]

lemma texts?_slice (start n : Nat) (c : Column) :
    texts? (c.slice start n) = (texts? c).map fun values => (values.drop start).take n := by
  cases c <;> rfl

lemma findEntry_sliceFields (start n : Nat) (name : String) :
    findEntry name (sliceFields start n fields) =
      (findEntry name fields).map (·.slice start n) := by
  induction fields with
  | nil => rfl
  | cons f fields ih =>
    obtain ⟨other, c⟩ := f
    simp only [sliceFields, sliceField, findEntry, ih]
    split <;> rfl

lemma column_texts?_slice {name place : String} {values : List String} (start n : Nat)
    (h : column texts? fields name place = .ok values) :
    column texts? (sliceFields start n fields) name place = .ok ((values.drop start).take n) := by
  unfold column at h ⊢
  rw [findEntry_sliceFields]
  cases hfound : findEntry name fields with
  | none => simp [hfound] at h
  | some c =>
    cases hvalues : texts? c with
    | none => simp [hfound, hvalues] at h
    | some given =>
      simp only [hfound, hvalues, Except.ok.injEq] at h
      simp only [Option.map_some, texts?_slice, hvalues, h]

/-- **Messages with offsets**: a row has the messages from its offset to the next one. -/
theorem messageRows_ofOffsets {roles contents : List String} (h : offsets.Pairwise (· ≤ ·))
    (hroles : column texts? fields "role" "prompt.role" = .ok roles)
    (hcontents : column texts? fields "content" "prompt.content" = .ok contents) :
    ∃ lengths item, lists? (.ofOffsets offsets (.group rows fields)) = some (lengths, item) ∧
      messageRows lengths item =
        .ok (piecesAt offsets (List.zipWith Message.mk roles contents)) := by
  refine ⟨_, _, rfl, ?_⟩
  rw [← cut_lengthsOf h, List.drop_zipWith, List.take_zipWith]
  simp only [messageRows, itemFields, Column.slice, fields?, bind, Except.bind,
    column_texts?_slice _ _ hroles, column_texts?_slice _ _ hcontents]
  rfl

/-- **Calls with offsets**: a row has the calls from its offset to the next one. -/
theorem callRows_ofOffsets {names arguments : List String} (h : offsets.Pairwise (· ≤ ·))
    (hnames : column texts? fields "name" "ground_truth.name" = .ok names)
    (harguments : column texts? fields "kwargs" "ground_truth.kwargs" = .ok arguments) :
    ∃ lengths item, lists? (.ofOffsets offsets (.group rows fields)) = some (lengths, item) ∧
      callRows lengths item =
        .ok (piecesAt offsets (List.zipWith Call.mk names arguments)) := by
  refine ⟨_, _, rfl, ?_⟩
  rw [← cut_lengthsOf h, List.drop_zipWith, List.take_zipWith]
  simp only [callRows, itemFields, Column.slice, fields?, bind, Except.bind,
    column_texts?_slice _ _ hnames, column_texts?_slice _ _ harguments]
  rfl

end Offsets

/-! ### Batch by batch -/

lemma readBatches_ofRecords (rs : List Record) (pieces : List (List Record)) :
    readBatches rs ((pieces.map ofRecords).map some) = .ok (rs ++ pieces.flatten) := by
  induction pieces generalizing rs with
  | nil => simp [readBatches]
  | cons piece pieces ih =>
    rw [List.map_cons, List.map_cons, readBatches, toRecords_ofRecords]
    exact (ih (rs ++ piece)).trans (by rw [List.flatten_cons, List.append_assoc])

/-- **Round trip**: a lawful codec reads back the records that it has written. -/
theorem Codec.Lawful.readRecords {codec : Codec} (h : codec.Lawful) (rs : List Record) :
    codec.readRecords (codec.writeRecords rs) = .ok rs := by
  obtain ⟨ns, hsum, hbatches⟩ := h.restores (isTable_ofRecords rs)
  have hpieces : (cut ns rs).flatten = rs := (cut_eq hsum.symm).2
  rw [Codec.readRecords, writeRecords, hbatches, batches_ofRecords, List.drop_zero]
  simp only [readBatches_ofRecords, hpieces, List.nil_append]

end TaskCorpus.Table
