import Rollout.Document.Yaml.Cursor
import Rollout.Numeral
/-!
# Scalars in YAML

A scalar is plain, stands between quotes, or is a block of lines.  In plain and quoted scalars the
ends of lines are folded: a single one becomes a space, of several one is dropped, and the blanks
around them do not count.  A block keeps its lines or folds them, and says itself what becomes of
the ends of lines at its end.
-/

namespace Rollout.Yaml

/-- How a scalar is written, as far as its meaning depends on it. -/
inductive Style where
  | plain
  /-- As a block whose lines are kept. -/
  | literal
  /-- Between quotes, or as a block whose lines are folded. -/
  | quoted
deriving Repr, DecidableEq

/-! ## 1. Gaps

Between two words of a plain or a quoted scalar there is a gap of blanks and ends of lines. -/

/-- What stands between two words. -/
structure Gap where
  /-- The blanks, while no line has ended. -/
  blanks : List Char
  /-- Whether a line has ended. -/
  broken : Bool
  /-- The first end of a line. -/
  first : List Char
  /-- The ends of lines that come after it. -/
  more : List Char

namespace Gap

/-- Nothing. -/
def none : Gap := ⟨[], false, [], []⟩

/-- What the gap contributes to the scalar. -/
def folded (g : Gap) : List Char :=
  if !g.broken then g.blanks
  else if g.first.head? = some '\n' then if g.more.isEmpty then [' '] else g.more
  else g.first ++ g.more

/-- The gap with one more end of a line. -/
def addBreak (g : Gap) (text : List Char) : Gap :=
  if g.broken then { g with more := g.more ++ text } else ⟨[], true, text, []⟩

/-- The gap with one more blank. -/
def addBlank (g : Gap) (blank : Char) : Gap :=
  if g.broken then g else { g with blanks := g.blanks ++ [blank] }

end Gap

/-- The gap at a place and what follows it.  Before the column `indent` a line must not be indented
with a tab. -/
def takeGap (indent : Nat) : Nat → Gap → Cursor → Option (Gap × Cursor)
  | 0, _, _ => none
  | fuel + 1, g, c =>
    match c.rest with
    | [] => some (g, c)
    | b :: _ =>
      if isBlank b then
        if g.broken && c.column < indent && b = '\t' then none
        else takeGap indent fuel (g.addBlank b) (c.advance 1)
      else if isBreak b then
        let (text, next) := c.takeBreak
        takeGap indent fuel (g.addBreak text) next
      else some (g, c)

/-! ## 2. Plain scalars -/

/-- Whether a character separates the members of a collection between brackets. -/
def isFlowIndicator (c : Char) : Bool := c = ',' || c = '[' || c = ']' || c = '\x7b' || c = '\x7d'

/-- The leading word of a plain scalar.  A colon ends it in front of a gap; between brackets a comma
or a bracket ends it, and a colon must not stand in front of one. -/
def takePlainWord (flow : Bool) : List Char → Option (List Char)
  | [] => some []
  | c :: cs =>
    if endsWord (c :: cs) then some []
    else if flow && c = ':' && cs.head?.any (fun d => isFlowIndicator d || d = '?') then none
    else if (c = ':' && endsWord cs) || (flow && isFlowIndicator c) then some []
    else (takePlainWord flow cs).map (c :: ·)

/-- The rest of a plain scalar after its text so far and a gap: the text, whether the gap behind it
ends a line, and what follows the gap.  A line that is indented less than `indent` is not part of
it. -/
def takePlain (flow : Bool) (indent : Nat) :
    Nat → List Char → Gap → Cursor → Option (List Char × Bool × Cursor)
  | 0, _, _, _ => none
  | fuel + 1, text, gap, c =>
    if c.isMark.isSome || c.rest.head? = some '#' then some (text, gap.broken, c)
    else do
      let word ← takePlainWord flow c.rest
      let (text, gap) :=
        if word.isEmpty then (text, gap) else (text ++ gap.folded ++ word, Gap.none)
      let c := c.advance word.length
      if !c.atSpace then return (text, gap.broken, c)
      let (gap, c) ← takeGap indent c.steps Gap.none c
      if !flow && c.column < indent then return (text, gap.broken, c)
      takePlain flow indent fuel text gap c

/-- A plain scalar: its text, whether the gap behind it ends a line, and what follows the gap. -/
def plainScalar (flow : Bool) (indent : Nat) (c : Cursor) : Option (String × Bool × Cursor) :=
  (takePlain flow indent c.steps [] .none c).map fun (text, broken, c) =>
    (String.ofList text, broken, c)

/-! ## 3. Quoted scalars -/

/-- The character that a letter behind a backslash stands for. -/
def escaped? : Char → Option Char
  | '0' => some '\x00'
  | 'a' => some '\x07'
  | 'b' => some '\x08'
  | 't' | '\t' => some '\t'
  | 'n' => some '\n'
  | 'v' => some '\x0b'
  | 'f' => some '\x0c'
  | 'r' => some '\r'
  | 'e' => some '\x1b'
  | ' ' => some ' '
  | '"' => some '"'
  | '/' => some '/'
  | '\\' => some '\\'
  | 'N' => some '\x85'
  | '_' => some '\xa0'
  | 'L' => some '\u2028'
  | 'P' => some '\u2029'
  | _ => none

/-- The character of a number in hexadecimal digits. -/
def numbered? (digits : List Char) : Option Char :=
  (Numeral.natural? 16 digits).bind fun n =>
    if (0xd800 ≤ n ∧ n ≤ 0xdfff) ∨ 0x10ffff < n then none else some (Char.ofNat n)

/-- What ends a word of a quoted scalar. -/
inductive WordEnd where
  | quote
  | gap
  /-- An end of a line with a backslash in front of it. -/
  | escapedBreak
deriving DecidableEq

/-- A word of a quoted scalar: its text, how many characters spell it, and what ends it. -/
structure QuotedWord where
  text : List Char
  length : Nat
  ending : WordEnd

/-- The word with one more character in front, spelled by so many characters. -/
def QuotedWord.push (w : QuotedWord) (c : Char) (length : Nat) : QuotedWord :=
  ⟨c :: w.text, w.length + length, w.ending⟩

/-- The leading word of a scalar between single quotes. -/
def takeSingle : List Char → QuotedWord
  | [] => ⟨[], 0, .gap⟩
  | '\'' :: '\'' :: cs => (takeSingle cs).push '\'' 2
  | c :: cs =>
    if c = '\'' then ⟨[], 0, .quote⟩
    else if endsWord (c :: cs) then ⟨[], 0, .gap⟩
    else (takeSingle cs).push c 1

/-- The leading word of a scalar between double quotes. -/
def takeDouble : List Char → Option QuotedWord
  | [] => some ⟨[], 0, .gap⟩
  | '\\' :: 'x' :: a :: b :: cs => do
    let c ← numbered? [a, b]
    return (← takeDouble cs).push c 4
  | '\\' :: 'u' :: a :: b :: d :: e :: cs => do
    let c ← numbered? [a, b, d, e]
    return (← takeDouble cs).push c 6
  | '\\' :: 'U' :: a :: b :: d :: e :: f :: g :: h :: i :: cs => do
    let c ← numbered? [a, b, d, e, f, g, h, i]
    return (← takeDouble cs).push c 10
  | '\\' :: e :: cs =>
    if isBreak e then some ⟨[], 0, .escapedBreak⟩
    else do
      let c ← escaped? e
      return (← takeDouble cs).push c 2
  | c :: cs =>
    if c = '"' then some ⟨[], 0, .quote⟩
    else if c = '\\' then none
    else if endsWord (c :: cs) then some ⟨[], 0, .gap⟩
    else (takeDouble cs).map (·.push c 1)

/-- The rest of a quoted scalar after its text so far, and what follows its closing quote. -/
def takeQuoted (single : Bool) : Nat → List Char → Cursor → Option (List Char × Cursor)
  | 0, _, _ => none
  | fuel + 1, text, c => do
    if c.isMark.isSome || c.rest.isEmpty then none
    let word ← if single then some (takeSingle c.rest) else takeDouble c.rest
    let text := text ++ word.text
    let c := c.advance word.length
    match word.ending with
    | .quote => return (text, c.advance 1)
    | .gap =>
      let (gap, c) ← takeGap 0 c.steps Gap.none c
      takeQuoted single fuel (text ++ gap.folded) c
    | .escapedBreak =>
      let (gap, c) ← takeGap 0 c.steps ⟨[], true, [], []⟩ (c.advance 1).takeBreak.2
      takeQuoted single fuel (text ++ gap.folded) c

/-- A quoted scalar and what follows it. -/
def quotedScalar (single : Bool) (c : Cursor) : Option (String × Cursor) :=
  (takeQuoted single c.steps [] (c.advance 1)).map fun (text, c) =>
    (String.ofList text, c)

/-! ## 4. Blocks -/

/-- What becomes of the ends of lines at the end of a block. -/
inductive Chomping where
  | strip
  | clip
  | keep
deriving DecidableEq

/-- What a sign in the header of a block says of its end. -/
def chomping? : Char → Option Chomping
  | '+' => some .keep
  | '-' => some .strip
  | _ => none

/-- The header of a block: what becomes of its end, how far it is indented, if it says so, and how
many characters say it. -/
def takeHeader (cs : List Char) : Option (Chomping × Option Nat × Nat) :=
  let second := cs[1]?
  match cs.head?.bind chomping?, cs.head?.bind (Numeral.digit? 10) with
  | some chomping, _ =>
    match second.bind (Numeral.digit? 10) with
    | some 0 => none
    | some d => some (chomping, some d, 2)
    | none => some (chomping, none, 1)
  | none, some 0 => none
  | none, some d =>
    match second.bind chomping? with
    | some chomping => some (chomping, some d, 2)
    | none => some (.clip, some d, 1)
  | none, none => some (.clip, none, 0)

/-- The empty lines at a place, the widest indentation found before the first line that is not
empty, and the place in that line.  Where the indentation of the block is not known yet, all spaces
count as indentation. -/
def takeEmptyLines (indent : Option Nat) : Nat → List Char → Nat → Cursor →
    Option (List Char × Nat × Cursor)
  | 0, _, _, _ => none
  | fuel + 1, breaks, widest, c =>
    let spaces := (c.rest.takeWhile (· = ' ')).length
    let c := c.advance (match indent with
      | some n => min spaces (n - c.column)
      | none => spaces)
    let widest := max widest c.column
    let inside := match indent with
      | some n => decide (c.column < n)
      | none => true
    if inside && c.rest.head? = some '\t' then none
    else if c.atBreak then
      let (text, c) := c.takeBreak
      takeEmptyLines indent fuel (breaks ++ text) widest c
    else some (breaks, widest, c)

/-- The lines of a block so far, with the end of the last line and the empty lines after it. -/
structure BlockLines where
  text : List Char
  ending : List Char
  empty : List Char
  /-- Whether the last line starts with a blank. -/
  indented : Bool

/-- The lines of a block that is indented so far, and what follows them.  In a folded block two
lines that do not start with a blank become one. -/
def takeLines (literal : Bool) (indent : Nat) : Nat → BlockLines → Cursor →
    Option (BlockLines × Cursor)
  | 0, _, _ => none
  | fuel + 1, b, c =>
    if c.column ≠ indent || c.rest.isEmpty then some (b, c)
    else do
      let indented := c.rest.head?.any isBlank
      let joint :=
        if !literal && b.ending.head? = some '\n' && !b.indented && !indented then
          if b.empty.isEmpty then [' '] else b.empty
        else b.ending ++ b.empty
      let line := c.rest.takeWhile fun d => !isBreak d
      let (ending, c) := (c.advance line.length).takeBreak
      let (empty, _, c) ← takeEmptyLines (some indent) c.steps [] 0 c
      takeLines literal indent fuel ⟨b.text ++ joint ++ line, ending, empty, indented⟩ c

/-- A block and what follows it; `level` is the least column of what belongs to the collection that
it is in, and one less is where that collection stands. -/
def blockScalar (literal : Bool) (level : Nat) (c : Cursor) : Option (String × Cursor) := do
  let c := c.advance 1
  let (chomping, increment, length) ← takeHeader c.rest
  let c := (c.advance length).skipWhile isBlank
  let c := if c.rest.head? = some '#' then c.skipWhile fun d => !isBreak d else c
  if !c.rest.isEmpty && !c.atBreak then none
  let c := c.takeBreak.2
  let known := increment.map fun d => level - 1 + d
  let (empty, widest, c) ← takeEmptyLines known c.steps [] 0 c
  let indent := known.getD (max (max widest level) 1)
  let (b, c) ← takeLines literal indent c.steps ⟨[], [], empty, false⟩ c
  let tail := match chomping with
    | .strip => []
    | .clip => b.ending
    | .keep => b.ending ++ b.empty
  return (String.ofList (b.text ++ tail), c)

end Rollout.Yaml
