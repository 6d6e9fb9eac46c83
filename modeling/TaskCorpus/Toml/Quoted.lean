import TaskCorpus.Text.Digits

/-!
# TOML strings

Each reader starts after the opening quotes and answers with the text and what follows the closing
quotes.
-/

namespace TaskCorpus.Toml

/-- Characters of comments and strings: all but the controls other than the tab. -/
def isTextChar (c : Char) : Bool := c == '\t' || (0x20 ≤ c.toNat && c.toNat != 0x7f)

/-- The character that a letter after a backslash stands for. -/
def escaped? (c : Char) : Option Char :=
  match c with
  | 'b' => some '\x08'
  | 't' => some '\t'
  | 'n' => some '\n'
  | 'f' => some '\x0c'
  | 'r' => some '\r'
  | '"' => some '"'
  | '\\' => some '\\'
  | _ => none

/-- The character of a hexadecimal code point. -/
def codePoint? (cs : List Char) : Option Char :=
  let n := Text.valueOf 16 cs
  if cs.all (Text.isDigitOf 16) && (n < 0xd800 || (0xdfff < n && n ≤ 0x10ffff)) then
    some (Char.ofNat n)
  else none

/-- A string between double quotes. -/
def basic (done : List Char) : List Char → Option (String × List Char)
  | [] => none
  | '"' :: cs => some (String.ofList done.reverse, cs)
  | '\\' :: 'u' :: a :: b :: c :: d :: cs => do basic ((← codePoint? [a, b, c, d]) :: done) cs
  | '\\' :: 'U' :: a :: b :: c :: d :: e :: f :: g :: h :: cs => do
    basic ((← codePoint? [a, b, c, d, e, f, g, h]) :: done) cs
  | '\\' :: c :: cs => do basic ((← escaped? c) :: done) cs
  | c :: cs => if isTextChar c then basic (c :: done) cs else none

/-- A string between single quotes. -/
def literal (done : List Char) : List Char → Option (String × List Char)
  | [] => none
  | c :: cs =>
    if c = '\'' then some (String.ofList done.reverse, cs)
    else if isTextChar c then literal (c :: done) cs
    else none

/-- Where a reader of several lines stands. -/
inductive Place where
  | inside
  /-- After a backslash at the end of a line. -/
  | lineEnd
  /-- Before the first character after such a line. -/
  | margin
  deriving DecidableEq

/-- A string between three double quotes on each side. Up to two quotes may stand before the
closing ones. -/
def basicLines (place : Place) (done : List Char) : List Char → Option (String × List Char)
  | [] => none
  | '"' :: '"' :: '"' :: '"' :: '"' :: cs =>
    if place = .lineEnd then none else some (String.ofList ('"' :: '"' :: done).reverse, cs)
  | '"' :: '"' :: '"' :: '"' :: cs =>
    if place = .lineEnd then none else some (String.ofList ('"' :: done).reverse, cs)
  | '"' :: '"' :: '"' :: cs =>
    if place = .lineEnd then none else some (String.ofList done.reverse, cs)
  | '\\' :: 'u' :: a :: b :: c :: d :: cs =>
    if place = .lineEnd then none
    else do basicLines .inside ((← codePoint? [a, b, c, d]) :: done) cs
  | '\\' :: 'U' :: a :: b :: c :: d :: e :: f :: g :: h :: cs =>
    if place = .lineEnd then none
    else do basicLines .inside ((← codePoint? [a, b, c, d, e, f, g, h]) :: done) cs
  | '\r' :: '\n' :: cs =>
    if place = .inside then basicLines .inside ('\n' :: done) cs else basicLines .margin done cs
  | '\\' :: '\r' :: '\n' :: cs => if place = .lineEnd then none else basicLines .margin done cs
  | '\\' :: c :: cs =>
    if place = .lineEnd then none
    else if c = '\n' then basicLines .margin done cs
    else if c = ' ' ∨ c = '\t' then basicLines .lineEnd done cs
    else do basicLines .inside ((← escaped? c) :: done) cs
  | c :: cs =>
    if c = '\n' then
      if place = .inside then basicLines .inside ('\n' :: done) cs else basicLines .margin done cs
    else if place ≠ .inside ∧ (c = ' ' ∨ c = '\t') then basicLines place done cs
    else if place ≠ .lineEnd ∧ isTextChar c then basicLines .inside (c :: done) cs
    else none

/-- A string between three single quotes on each side. Up to two quotes may stand before the
closing ones. -/
def literalLines (done : List Char) : List Char → Option (String × List Char)
  | [] => none
  | '\'' :: '\'' :: '\'' :: '\'' :: '\'' :: cs =>
    some (String.ofList ('\'' :: '\'' :: done).reverse, cs)
  | '\'' :: '\'' :: '\'' :: '\'' :: cs => some (String.ofList ('\'' :: done).reverse, cs)
  | '\'' :: '\'' :: '\'' :: cs => some (String.ofList done.reverse, cs)
  | '\r' :: '\n' :: cs => literalLines ('\n' :: done) cs
  | c :: cs => if c = '\n' ∨ isTextChar c then literalLines (c :: done) cs else none

/-- A line break after the opening quotes does not count. -/
def dropLineBreak : List Char → List Char
  | '\n' :: cs => cs
  | '\r' :: '\n' :: cs => cs
  | cs => cs

/-- A string of any kind, from its opening quotes on. -/
def quoted? : List Char → Option (String × List Char)
  | '"' :: '"' :: '"' :: cs => basicLines .inside [] (dropLineBreak cs)
  | '\'' :: '\'' :: '\'' :: cs => literalLines [] (dropLineBreak cs)
  | '"' :: cs => basic [] cs
  | '\'' :: cs => literal [] cs
  | _ => none

end TaskCorpus.Toml
