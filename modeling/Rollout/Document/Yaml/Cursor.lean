/-!
# Places in a YAML text

A cursor stands somewhere in a text and knows its line and column.  Lines end with a line feed, a
carriage return or both, with the next-line character, or with one of the two Unicode separators; of
these only the separators are kept in a scalar as they are.
-/

namespace Rollout.Yaml

/-- The rest of a text, and where it starts. -/
structure Cursor where
  rest : List Char
  /-- How many characters stand before it. -/
  index : Nat
  line : Nat
  column : Nat
  /-- How many characters the whole text has. -/
  size : Nat

/-- Whether a character is a space or a tab. -/
def isBlank (c : Char) : Bool := c = ' ' || c = '\t'

/-- Whether a character ends a line. -/
def isBreak (c : Char) : Bool :=
  c = '\n' || c = '\r' || c = '\x85' || c = '\u2028' || c = '\u2029'

/-- Whether a word ends here: at a blank, the end of a line, or the end of the text. -/
def endsWord : List Char → Bool
  | [] => true
  | c :: _ => isBlank c || isBreak c

/-- Whether a character can stand in a text at all. -/
def isAllowed (c : Char) : Bool :=
  let n := c.toNat
  n == 0x09 || n == 0x0a || n == 0x0d || (0x20 ≤ n && n ≤ 0x7e) || n == 0x85 ||
    (0xa0 ≤ n && n ≤ 0xfffd) || 0x10000 ≤ n

/-- The mark that may stand at the start of a text or of a line. -/
def byteOrderMark : Char := '\ufeff'

namespace Cursor

/-- The start of a text. -/
def start (cs : List Char) : Cursor := ⟨cs, 0, 0, 0, cs.length⟩

/-- A number of steps that is enough to go to the end of the text, one character at a time. -/
def steps (c : Cursor) : Nat := c.size - c.index + 1

/-- The place behind `n` characters of this line. -/
def advance (c : Cursor) (n : Nat) : Cursor :=
  { c with rest := c.rest.drop n, index := c.index + n, column := c.column + n }

/-- The place behind all leading characters of this line that pass a test. -/
def skipWhile (c : Cursor) (p : Char → Bool) : Cursor := c.advance (c.rest.takeWhile p).length

/-- The place at the start of the next line, `n` characters further on. -/
def nextLine (c : Cursor) (n : Nat) : Cursor :=
  { c with rest := c.rest.drop n, index := c.index + n, line := c.line + 1, column := 0 }

/-- The end of a line, as it is kept in a scalar, and the place behind it.  Where no line ends there
is nothing to keep. -/
def takeBreak (c : Cursor) : List Char × Cursor :=
  match c.rest with
  | '\r' :: '\n' :: _ => (['\n'], c.nextLine 2)
  | b :: _ =>
    if b = '\u2028' || b = '\u2029' then ([b], c.nextLine 1)
    else if isBreak b then (['\n'], c.nextLine 1)
    else ([], c)
  | [] => ([], c)

/-- Whether the mark that starts or ends a document stands here. -/
def isMark (c : Cursor) : Option Bool :=
  if c.column ≠ 0 then none
  else
    match c.rest with
    | '-' :: '-' :: '-' :: r => if endsWord r then some true else none
    | '.' :: '.' :: '.' :: r => if endsWord r then some false else none
    | _ => none

/-- Whether a blank or the end of a line stands here. -/
def atSpace (c : Cursor) : Bool := !c.rest.isEmpty && endsWord c.rest

/-- Whether the end of a line stands here. -/
def atBreak (c : Cursor) : Bool := c.rest.head?.any isBreak

end Cursor

end Rollout.Yaml
