/-!
# Paths

A path is kept as it was written. Its parts are separated by slashes; empty parts and parts `.`
say nothing, except for a `.` at the very start. Paths that are made from others keep as much of
the writing as they can.
-/

namespace TaskCorpus

structure Path where
  text : String
  deriving DecidableEq

namespace Path

/-- The pieces of a text between its slashes. -/
def segmentsFrom (done : List Char) : List Char → List String
  | [] => [String.ofList done.reverse]
  | c :: cs =>
    if c = '/' then String.ofList done.reverse :: segmentsFrom [] cs
    else segmentsFrom (c :: done) cs

def isAbsolute (p : Path) : Bool :=
  match p.text.toList with
  | '/' :: _ => true
  | _ => false

/-- Whether a path has a null character, which no name can have. -/
def hasNull (p : Path) : Bool := p.text.toList.contains '\x00'

/-- The pieces that are not empty. -/
def segments (p : Path) : List String := (segmentsFrom [] p.text.toList).filter (· ≠ "")

/-- A part of a path. -/
inductive Part where
  | root
  | here
  | up
  | name (s : String)
  deriving DecidableEq

def partOf (s : String) : Part := if s = ".." then .up else .name s

/-- The parts of a path. A `.` counts only at the start of a relative path. -/
def parts (p : Path) : List Part :=
  let named := (p.segments.filter (· ≠ ".")).map partOf
  if p.isAbsolute then .root :: named
  else
    match segmentsFrom [] p.text.toList with
    | "." :: _ => .here :: named
    | _ => named

/-- Drops separators and parts `.` at the start of the rest of a path. Read backwards, it drops
them at the end. -/
def dropEmpty : List Char → List Char
  | '/' :: cs => dropEmpty cs
  | '.' :: '/' :: cs => dropEmpty cs
  | ['.'] => []
  | cs => cs

/-- Drops separators and parts `.` at both ends. -/
def trim (cs : List Char) : List Char := (dropEmpty (dropEmpty cs).reverse).reverse

/-- The start of a path that is no named part, and what follows it. -/
def lead : List Char → List Char × List Char
  | '/' :: cs => (['/'], cs)
  | ['.'] => (['.'], [])
  | '.' :: '/' :: cs => (['.'], '/' :: cs)
  | cs => ([], cs)

/-- The last part backwards, and what stands before it backwards. -/
def lastBackwards (p : Path) : List Char × List Char :=
  let body := dropEmpty (lead p.text.toList).2.reverse
  (body.takeWhile (· ≠ '/'), body.dropWhile (· ≠ '/'))

/-- The path without its last part. -/
def parent? (p : Path) : Option Path :=
  let start := (lead p.text.toList).1
  let (last, before) := p.lastBackwards
  if last.isEmpty then
    if start = ['.'] then some ⟨""⟩ else none
  else some ⟨String.ofList (start ++ (dropEmpty before).reverse)⟩

/-- The last part, if it is a name. -/
def fileName? (p : Path) : Option String :=
  let last := String.ofList p.lastBackwards.1.reverse
  if last = "" ∨ last = ".." then none else some last

/-- What follows the last dot of the file name, unless the name starts with it. -/
def extension? (p : Path) : Option String := do
  let name ← p.fileName?
  let backwards := name.toList.reverse
  match backwards.dropWhile (· ≠ '.') with
  | [] => none
  | [_] => none
  | _ => some (String.ofList (backwards.takeWhile (· ≠ '.')).reverse)

/-- A path below another one; an absolute path stands for itself. -/
def join (base below : Path) : Path :=
  if below.isAbsolute then below
  else
    match base.text.toList.reverse with
    | [] => below
    | '/' :: _ => ⟨base.text ++ below.text⟩
    | _ => ⟨base.text ++ "/" ++ below.text⟩

/-- The directory that a file is written in: its parent, or the working directory. -/
def directory (p : Path) : Path :=
  match p.parent? with
  | some d => if d.text = "" then ⟨"."⟩ else d
  | none => ⟨"."⟩

/-- What follows a first part `~`. -/
def belowHome? (p : Path) : Option Path :=
  match p.text.toList with
  | ['~'] => some ⟨""⟩
  | '~' :: '/' :: cs => some ⟨String.ofList (trim cs)⟩
  | _ => none

/-- Replaces a first part `~` by the home directory. -/
def expandHome (p home : Path) : Path :=
  match p.belowHome? with
  | some rest => home.join rest
  | none => p

end Path

end TaskCorpus
