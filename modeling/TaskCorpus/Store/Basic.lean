import TaskCorpus.KeyMap
import TaskCorpus.Path
import TaskCorpus.Store.Fault

/-!
# Stores

A store is a tree of directories and files with a working directory in it. A node is kept under its
location, the list of names that leads to it from the root; the working directory and those above it
are always there. An absolute path starts at the root, a relative one at the working directory.

An operation either gives a new store or a fault, and a fault changes nothing. There are neither
symbolic nor hard links, so two locations never share a node. There are no permissions either: what
they forbid is refused by an execution, which may refuse any operation.
-/

namespace TaskCorpus

inductive Node where
  | directory
  | file (bytes : ByteArray)

/-- Names from the root to a node. -/
abbrev Location := List String

/-- Where the names of a path start, seen from a directory. -/
def Path.origin (here : Location) (p : Path) : Location := if p.isAbsolute then [] else here

/-- The nodes of a tree with its working directory. -/
structure Store (here : Location) where
  nodes : KeyMap Location Node

namespace Store

variable {here : Location}

inductive Kind where
  | directory
  | file
  deriving DecidableEq

def Kind.ofNode : Node → Kind
  | .directory => .directory
  | .file _ => .file

/-- The store with nothing in its working directory. -/
def empty : Store here := ⟨.empty⟩

def node? (s : Store here) (l : Location) : Option Node :=
  if l <+: here then some .directory else s.nodes.find? l

def set (s : Store here) (l : Location) (n : Node) : Store here := ⟨s.nodes.insert l n⟩

def drop (s : Store here) (l : Location) : Store here := ⟨s.nodes.erase l⟩

/-- What a path leads to. -/
inductive Target where
  /-- A directory that the path does not name. -/
  | place (l : Location)
  /-- A name in a directory. A slash at the end says that it should be a directory. -/
  | entry (parent : Location) (name : String) (slash : Bool)
  deriving DecidableEq

/-- The longest name and the longest path, in bytes. -/
def longestName : Nat := 255
def longestPath : Nat := 4095

/-- Goes down from a directory. -/
def walk (s : Store here) : Location → List String → Except Fault Location
  | l, [] => .ok l
  | l, name :: names =>
    if name = "." then walk s l names
    else if name = ".." then walk s l.dropLast names
    else if longestName < name.utf8ByteSize then .error .nameTooLong
    else
      match s.node? (l ++ [name]) with
      | none => .error .notFound
      | some (.file _) => .error .notDirectory
      | some .directory => walk s (l ++ [name]) names

/-- Finds what a path leads to. Everything before the last name has to exist. -/
def target (s : Store here) (p : Path) : Except Fault Target :=
  if p.text = "" then .error .notFound
  else if p.hasNull then .error .nullCharacter
  else if longestPath < p.text.utf8ByteSize then .error .nameTooLong
  else
    match p.segments.reverse with
    | [] => .ok (.place (p.origin here))
    | last :: before =>
      if last = "." ∨ last = ".." then (s.walk (p.origin here) p.segments).map .place
      else do
        let parent ← s.walk (p.origin here) before.reverse
        if longestName < last.utf8ByteSize then .error .nameTooLong
        else .ok (.entry parent last (p.text.toList.getLast? == some '/'))

/-- The node at the end of a path. -/
def find (s : Store here) (p : Path) : Except Fault Node := do
  match ← s.target p with
  | .place _ => pure .directory
  | .entry parent name slash =>
    match s.node? (parent ++ [name]) with
    | none => .error .notFound
    | some .directory => pure .directory
    | some (.file bytes) => if slash then .error .notDirectory else pure (.file bytes)

/-- Whether a path leads to a node, and to which kind. -/
def look (s : Store here) (p : Path) : Option Kind :=
  match s.find p with
  | .ok n => some (Kind.ofNode n)
  | .error _ => none

/-- The bytes of a file. -/
def read (s : Store here) (p : Path) : Except Fault ByteArray := do
  match ← s.find p with
  | .directory => .error .isDirectory
  | .file bytes => pure bytes

/-- Makes a directory in an existing one. -/
def makeDirectory (s : Store here) (p : Path) : Except Fault (Store here) := do
  match ← s.target p with
  | .place _ => .error .alreadyExists
  | .entry parent name _ =>
    match s.node? (parent ++ [name]) with
    | some _ => .error .alreadyExists
    | none => pure (s.set (parent ++ [name]) .directory)

/-- Removes a file. -/
def remove (s : Store here) (p : Path) : Except Fault (Store here) := do
  match ← s.target p with
  | .place _ => .error .isDirectory
  | .entry parent name slash =>
    match s.node? (parent ++ [name]) with
    | none => .error .notFound
    | some .directory => .error .isDirectory
    | some (.file _) =>
      if slash then .error .notDirectory else pure (s.drop (parent ++ [name]))

/-- Makes a file empty, or makes an empty file. -/
def truncate (s : Store here) (p : Path) : Except Fault (Store here) := do
  match ← s.target p with
  | .place _ => .error .isDirectory
  | .entry parent name slash =>
    if slash then .error .isDirectory
    else
      match s.node? (parent ++ [name]) with
      | some .directory => .error .isDirectory
      | _ => pure (s.set (parent ++ [name]) (.file .empty))

/-- Puts bytes into an existing file, in place of its own. -/
def fill (s : Store here) (p : Path) (bytes : ByteArray) : Except Fault (Store here) := do
  match ← s.target p with
  | .place _ => .error .isDirectory
  | .entry parent name _ =>
    match s.node? (parent ++ [name]) with
    | some (.file _) => pure (s.set (parent ++ [name]) (.file bytes))
    | some .directory => .error .isDirectory
    | none => .error .notFound

/-- Finds a directory. -/
def directory (s : Store here) (p : Path) : Except Fault Location := do
  match ← s.target p with
  | .place l => pure l
  | .entry parent name _ =>
    match s.node? (parent ++ [name]) with
    | none => .error .notFound
    | some (.file _) => .error .notDirectory
    | some .directory => pure (parent ++ [name])

/-- The bytes of the full form of a relative path in front of the path itself. -/
def leadingBytes (here : Location) : Nat :=
  (String.join (here.map ("/" ++ ·))).utf8ByteSize + 1

/-- Whether a temporary file can be made in a directory. It is made under its full path. -/
def admits (s : Store here) (dir : Path) (name : String) : Except Fault Unit := do
  let length := (dir.join ⟨name⟩).text.utf8ByteSize +
    if dir.isAbsolute then 0 else leadingBytes here
  if longestPath < length ∧ ¬ dir.hasNull then .error .nameTooLong
  else discard (s.directory dir)

/-- Moves a finished file to a path, in place of a file that is there. -/
def moveIn (s : Store here) (bytes : ByteArray) (p : Path) : Except Fault (Store here) := do
  if p.hasNull then .error .invalidArgument
  match ← s.target p with
  | .place _ => .error .busy
  | .entry parent name slash =>
    if slash then .error .notDirectory
    else
      match s.node? (parent ++ [name]) with
      | some .directory => .error .isDirectory
      | _ => pure (s.set (parent ++ [name]) (.file bytes))

end Store

end TaskCorpus
