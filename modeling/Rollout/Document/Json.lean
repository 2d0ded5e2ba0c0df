import Rollout.Document.Json.Number
/-!
# Trees in JSON

A text is one value with blanks around it.  Half of a surrogate pair may be written, but a string
with one cannot be read as a text; it does no harm where nobody reads it.
-/

namespace Rollout.Json

/-! ## 1. Strings -/

/-- A part of a string: a character, or a unit of sixteen bits that is written by its number. -/
inductive Piece where
  | char (c : Char)
  | unit (n : Nat)

/-- The number of four hexadecimal digits. -/
def hex4? (a b c d : Char) : Option Nat := Numeral.natural? 16 [a, b, c, d]

/-- The character that a letter behind a backslash stands for. -/
def escaped? : Char → Option Char
  | '"' => some '"'
  | '\\' => some '\\'
  | '/' => some '/'
  | 'b' => some '\x08'
  | 'f' => some '\x0c'
  | 'n' => some '\n'
  | 'r' => some '\r'
  | 't' => some '\t'
  | _ => none

/-- The parts of a string up to its closing quote, and what follows it. -/
def takeString : List Char → Option (List Piece × List Char)
  | [] => none
  | '"' :: cs => some ([], cs)
  | '\\' :: 'u' :: a :: b :: c :: d :: cs => do
    let n ← hex4? a b c d
    let (pieces, rest) ← takeString cs
    return (.unit n :: pieces, rest)
  | '\\' :: e :: cs => do
    let c ← escaped? e
    let (pieces, rest) ← takeString cs
    return (.char c :: pieces, rest)
  | c :: cs => do
    if c.toNat < 0x20 ∨ c = '\\' then none
    let (pieces, rest) ← takeString cs
    return (.char c :: pieces, rest)

/-- The text of a string, in which two units that make a pair stand for one character; a unit of a
pair does not stand alone. -/
def join? : List Piece → Option (List Char)
  | [] => some []
  | .char c :: rest => (join? rest).map (c :: ·)
  | .unit n :: rest =>
    if n < 0xd800 ∨ 0xdfff < n then (join? rest).map (Char.ofNat n :: ·)
    else match rest with
      | .unit m :: rest =>
        if n < 0xdc00 ∧ 0xdc00 ≤ m ∧ m ≤ 0xdfff then
          (join? rest).map (Char.ofNat (0x10000 + (n - 0xd800) * 0x400 + (m - 0xdc00)) :: ·)
        else none
      | _ => none

/-- What a string can be read as. -/
def stringWord (pieces : List Piece) : Word :=
  let text := (join? pieces).map String.ofList
  { Word.unreadable with text, choice := text, scalar := text.map .string }

/-! ## 2. Values -/

/-- The word for a truth value. -/
def truthWord (b : Bool) : Word :=
  { Word.unreadable with truth := some b, scalar := some (.bool b) }

/-- The word for a value that is not given. -/
def nullWord : Word := { Word.unreadable with isNull := true }

/-- The text behind leading blanks. -/
def skipBlanks (cs : List Char) : List Char :=
  cs.dropWhile fun c => c = ' ' || c = '\t' || c = '\n' || c = '\r'

mutual

/-- A value at the start of a text, and what follows it. -/
def takeValue : Nat → List Char → Option (Tree × List Char)
  | 0, _ => none
  | fuel + 1, cs =>
    match skipBlanks cs with
    | 'n' :: 'u' :: 'l' :: 'l' :: rest => some (.word nullWord, rest)
    | 't' :: 'r' :: 'u' :: 'e' :: rest => some (.word (truthWord true), rest)
    | 'f' :: 'a' :: 'l' :: 's' :: 'e' :: rest => some (.word (truthWord false), rest)
    | '"' :: rest => (takeString rest).map fun (pieces, rest) => (.word (stringWord pieces), rest)
    | '[' :: rest =>
      match skipBlanks rest with
      | ']' :: rest => some (.list [], rest)
      | rest => (takeItems fuel rest).map fun (items, rest) => (.list items, rest)
    | '{' :: rest =>
      match skipBlanks rest with
      | '}' :: rest => some (.record [], rest)
      | rest => (takeFields fuel rest).map fun (fields, rest) => (.record fields, rest)
    | rest => (takeNumber rest).map fun (n, rest) => (.word n.word, rest)

/-- The members of a list up to its closing bracket, and what follows it. -/
def takeItems : Nat → List Char → Option (List Tree × List Char)
  | 0, _ => none
  | fuel + 1, cs => do
    let (item, rest) ← takeValue fuel cs
    match skipBlanks rest with
    | ',' :: rest =>
      let (items, rest) ← takeItems fuel rest
      return (item :: items, rest)
    | ']' :: rest => return ([item], rest)
    | _ => none

/-- The fields of a record up to its closing brace, and what follows it. -/
def takeFields : Nat → List Char → Option (List (Tree × Tree) × List Char)
  | 0, _ => none
  | fuel + 1, cs => do
    match skipBlanks cs with
    | '"' :: rest =>
      let (name, rest) ← takeString rest
      match skipBlanks rest with
      | ':' :: rest =>
        let (content, rest) ← takeValue fuel rest
        let field := (Tree.word (stringWord name), content)
        match skipBlanks rest with
        | ',' :: rest =>
          let (fields, rest) ← takeFields fuel rest
          return (field :: fields, rest)
        | '}' :: rest => return ([field], rest)
        | _ => none
      | _ => none
    | _ => none

end

/-- The tree of a text.  Of two steps down one at least takes a character off the text, which bounds
how far down it goes. -/
def tree? (text : String) : Option Tree :=
  let cs := text.toList
  match takeValue (2 * cs.length + 2) cs with
  | some (tree, rest) => if (skipBlanks rest).isEmpty then some tree else none
  | none => none

end Rollout.Json
