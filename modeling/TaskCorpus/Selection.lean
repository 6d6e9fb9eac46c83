import TaskCorpus.Task

/-!
# Selections

A source names a task file for a split and may select some of its tasks, by a range of positions
or by ids. Ids are settled before anything is selected, so a task has the same id under every
selection.
-/

namespace TaskCorpus

structure Source where
  split : Split
  path : Path
  /-- The first position to keep and the first one after it not to keep. -/
  range : Option (Nat × Nat)
  ids : Option (List String)
  deriving DecidableEq

namespace Source

/-- A source of all tasks of a file. -/
def whole (split : Split) (path : Path) : Source := ⟨split, path, none, none⟩

/-- Gives each task without an id the default id of its position, counted from `position`. -/
def identify (split : Split) : Nat → List Task → List Task
  | _, [] => []
  | position, t :: ts =>
    { t with id := some (t.resolvedId split position) } :: identify split (position + 1) ts

/-- The first id that has been seen before. -/
def firstRepeated? (seen : List String) : List Task → Option String
  | [] => none
  | t :: ts =>
    match t.id with
    | some id => if seen.contains id then some id else firstRepeated? (id :: seen) ts
    | none => firstRepeated? seen ts

/-- The members of a list in increasing order, each once. -/
def distinct (ids : List String) : List String :=
  (KeyMap.ofList (ids.map fun id => (id, ()))).keys

/-- Whether a task has one of the given ids. -/
def isListed (ids : List String) (t : Task) : Bool :=
  match t.id with
  | some id => ids.contains id
  | none => false

/-- Selects among tasks that have their ids, all of them different: then as many are found as are
wanted only if none is missing. -/
def pick (s : Source) (tasks : List Task) : Except SettingFlaw (List Task) :=
  match s.range, s.ids with
  | some _, some _ => .error (.rangeAndIds s.split)
  | some (start, stop), none =>
    if stop < start ∨ tasks.length < stop then
      .error (.rangeOutside s.split start stop tasks.length s.path)
    else .ok ((tasks.drop start).take (stop - start))
  | none, some ids =>
    let wanted := distinct ids
    let selected := tasks.filter (isListed ids)
    if selected.length = wanted.length then .ok selected
    else
      .error (.unknownIds s.split
        (wanted.filter fun id => ! selected.any fun t => t.id == some id))
  | none, none => .ok tasks

/-- Gives the tasks of the file their ids, which must differ, and selects. -/
def select (s : Source) (tasks : List Task) : Except SettingFlaw (List Task) :=
  let tasks := identify s.split 0 tasks
  match firstRepeated? [] tasks with
  | some id => .error (.repeatedId id s.path)
  | none => s.pick tasks

def toJson (s : Source) : Json.Value :=
  .object (
    [("split", s.split.toJson), ("path", .string s.path.text)] ++
    (match s.range with
      | some (a, b) => [("range", .array [.number (.integer a), .number (.integer b)])]
      | none => []) ++
    (match s.ids with
      | some ids => [("ids", .array (ids.map .string))]
      | none => []))

def shape (n : Nat) : Json.Shape [Split, String, Option (Nat × Nat), Option (List String)] :=
  .cons (.required "split" (Split.reader n))
    (.cons (.required "path" (Json.Reader.string "path string" n))
      (.cons (.defaulted "range" none (Json.Reader.optional Json.Reader.pair n))
        (.cons (.defaulted "ids" none
          (Json.Reader.optional (Json.Reader.list Json.Reader.text) n)) .nil)))

def reader : Json.Reader Source := fun n d => do
  let (split, path, range, ids, ()) ← Json.Shape.reader shape "SplitSource" n d
  pure ⟨split, ⟨path⟩, range, ids⟩

end Source

end TaskCorpus
