import Rollout.Document.Yaml.Scalar
/-!
# Tokens of a YAML text

Indentation, brackets and indicators become tokens.  That a node is the key of a field shows only at
the colon behind it, so a key is marked in hindsight: the place of the last node that could be one
is kept, one place for each bracket that is open, and at a colon the marks are put in there.  A key
without a mark of its own stands on one line and is no longer than 1024 characters.
-/

namespace Rollout.Yaml

/-- A token. -/
inductive Token where
  | version (major minor : Nat)
  | tagHandle (handle meaning : List Char)
  | documentStart
  | documentEnd
  | blockList
  | blockRecord
  | blockEnd
  | openList
  | closeList
  | openRecord
  | closeRecord
  /-- A dash in front of a member of a list. -/
  | item
  | comma
  | key
  | content
  | reference (name : List Char)
  | anchor (name : List Char)
  | tag (handle rest : List Char)
  | scalar (style : Style) (text : String)

/-- A node that can still turn out to be a key. -/
structure PossibleKey where
  /-- How many tokens stand before it. -/
  place : Nat
  /-- Whether it has to be a key, by its indentation. -/
  required : Bool
  index : Nat
  line : Nat
  column : Nat

/-- A text that is being scanned. -/
structure Scanner where
  cursor : Cursor
  /-- The tokens found. -/
  tokens : Array Token
  /-- The columns of the open collections that have no brackets, the innermost first. -/
  indents : List Nat
  /-- Whether a key can start here. -/
  keyAllowed : Bool
  /-- The possible key inside the innermost bracket. -/
  key : Option PossibleKey
  /-- The possible keys further out, one for each bracket that is open. -/
  outer : List (Option PossibleKey)

namespace Scanner

/-- The start of a text. -/
def start (cs : List Char) : Scanner := ⟨.start cs, #[], [], true, none, []⟩

/-- Whether a bracket is open. -/
def inFlow (s : Scanner) : Bool := !s.outer.isEmpty

/-- The least column of what belongs to the innermost collection without brackets. -/
def level (s : Scanner) : Nat :=
  match s.indents with
  | [] => 0
  | column :: _ => column + 1

/-- The scanner with one more token. -/
def push (s : Scanner) (t : Token) : Scanner := { s with tokens := s.tokens.push t }

/-- The scanner with one more token, spelled by so many characters. -/
def emit (s : Scanner) (t : Token) (length : Nat) : Scanner :=
  { s.push t with cursor := s.cursor.advance length }

/-- The scanner with a token put in behind the first `place` tokens. -/
def insert (s : Scanner) (place : Nat) (t : Token) : Scanner :=
  { s with tokens := s.tokens.insertIdxIfInBounds place t }

/-! ## 1. Indentation -/

/-- Closes the collections that stand further in than a column. -/
def unroll (s : Scanner) (keep : Nat → Bool) : Scanner :=
  if s.inFlow then s
  else
    let closed := s.indents.takeWhile fun column => !keep column
    { s with
      indents := s.indents.drop closed.length
      tokens := s.tokens ++ closed.map fun _ => Token.blockEnd }

/-- Opens a collection at a column, behind the first `place` tokens, unless it is open already. -/
def roll (s : Scanner) (column place : Nat) (t : Token) : Scanner :=
  if s.inFlow || column < s.level then s
  else { s.insert place t with indents := column :: s.indents }

/-! ## 2. Possible keys -/

/-- Gives up a possible key; one that has to be a key cannot be given up. -/
def giveUp : Option PossibleKey → Option (Option PossibleKey)
  | some k => if k.required then none else some none
  | none => some none

/-- Gives up the possible keys that the text has left behind. -/
def dropStale (s : Scanner) : Option Scanner := do
  let fresh (k : Option PossibleKey) : Option (Option PossibleKey) :=
    match k with
    | some p =>
      if p.line < s.cursor.line || p.index + 1024 < s.cursor.index then giveUp k else some k
    | none => some none
  return { s with key := ← fresh s.key, outer := ← s.outer.mapM fresh }

/-- Gives up the possible key inside the innermost bracket. -/
def dropKey (s : Scanner) : Option Scanner := do return { s with key := ← giveUp s.key }

/-- Takes what starts here for a possible key. -/
def saveKey (s : Scanner) : Option Scanner :=
  if s.keyAllowed then do
    let s ← s.dropKey
    let required := !s.inFlow && s.indents.head? = some s.cursor.column
    return { s with
      key := some ⟨s.tokens.size, required, s.cursor.index, s.cursor.line, s.cursor.column⟩ }
  else some s

/-! ## 3. What stands between tokens -/

/-- The place of the next token behind blanks, comments and ends of lines, and whether a key can
start there.  Where a key can start, a tab is no indentation. -/
def skipToToken (flow : Bool) : Nat → Bool → Cursor → Bool × Cursor
  | 0, allowed, c => (allowed, c)
  | fuel + 1, allowed, c =>
    let c := if c.column = 0 && c.rest.head? = some byteOrderMark then c.advance 1 else c
    let c := c.skipWhile fun d => d = ' ' || ((flow || !allowed) && d = '\t')
    let c := if c.rest.head? = some '#' then c.skipWhile fun d => !isBreak d else c
    if c.atBreak then skipToToken flow fuel (!flow || allowed) c.takeBreak.2 else (allowed, c)

/-! ## 4. Names, tags and directives -/

/-- Whether a character can stand in a name. -/
def isNameChar (c : Char) : Bool := c.isAlphanum || c = '_' || c = '-'

/-- An anchor or an alias. -/
def scanName (s : Scanner) (token : List Char → Token) : Option Scanner := do
  let s ← s.saveKey
  let name := (s.cursor.rest.drop 1).takeWhile isNameChar
  let rest := s.cursor.rest.drop (1 + name.length)
  let follows := endsWord rest || rest.head?.any fun c =>
    c = '?' || c = ':' || c = ',' || c = ']' || c = '\x7d' || c = '%' || c = '@' || c = '\x60'
  if name.isEmpty || !follows then none
  return { s.emit (token name) (1 + name.length) with keyAllowed := false }

/-- Whether a character can stand in a tag; a comma and brackets only in some. -/
def isTagChar (brackets : Bool) (c : Char) : Bool :=
  isNameChar c || ";/?:@&=+$.!~*'()".toList.contains c ||
    (brackets && (c = ',' || c = '[' || c = ']'))

/-- One byte that is spelled by two hexadecimal digits behind a percent sign. -/
def takeByte : List Char → Option (Nat × List Char)
  | '%' :: a :: b :: cs => (Numeral.natural? 16 [a, b]).map fun n => (n, cs)
  | _ => none

/-- The bytes behind the first one of a character. -/
def takeMoreBytes : Nat → List Char → Option (List Nat × List Char)
  | 0, cs => some ([], cs)
  | n + 1, cs => do
    let (b, cs) ← takeByte cs
    if b < 0x80 ∨ 0xbf < b then none
    let (bs, cs) ← takeMoreBytes n cs
    return (b :: bs, cs)

/-- A character that is spelled by its bytes. -/
def takeEscape (cs : List Char) : Option (Char × List Char) := do
  let (b, cs) ← takeByte cs
  let (more, head) ←
    if b < 0x80 then some (0, b)
    else if b < 0xc0 then none
    else if b < 0xe0 then some (1, b - 0xc0)
    else if b < 0xf0 then some (2, b - 0xe0)
    else if b < 0xf8 then some (3, b - 0xf0)
    else none
  let (bs, cs) ← takeMoreBytes more cs
  return (Char.ofNat (bs.foldl (fun n b => n * 64 + (b - 0x80)) head), cs)

/-- The characters of a tag, and what follows them. -/
def takeTagChars (brackets : Bool) : Nat → List Char → Option (List Char × List Char)
  | 0, _ => none
  | fuel + 1, cs =>
    match cs with
    | [] => some ([], [])
    | c :: rest =>
      if c = '%' then do
        let (d, rest) ← takeEscape cs
        let (ds, rest) ← takeTagChars brackets fuel rest
        return (d :: ds, rest)
      else if isTagChar brackets c then do
        let (ds, rest) ← takeTagChars brackets fuel rest
        return (c :: ds, rest)
      else some ([], cs)

/-- The rest of a tag: characters of which there must be one, unless `head` already has some. -/
def takeTagRest (brackets : Bool) (head cs : List Char) : Option (List Char × List Char) := do
  let (found, rest) ← takeTagChars brackets (cs.length + 1) cs
  if head.isEmpty && found.isEmpty then none
  return (head ++ found, rest)

/-- A handle: a name between two exclamation marks, of which the second may be missing. -/
def takeHandle : List Char → Option (List Char × List Char)
  | '!' :: cs =>
    let name := cs.takeWhile isNameChar
    match cs.drop name.length with
    | '!' :: rest => some ('!' :: name ++ ['!'], rest)
    | rest => some ('!' :: name, rest)
  | _ => none

/-- The handle and the rest of a tag, and what follows it. -/
def takeTag (cs : List Char) : Option (List Char × List Char × List Char) :=
  match cs with
  | '!' :: '<' :: cs => do
    let (tag, rest) ← takeTagRest true [] cs
    match rest with
    | '>' :: rest => return ([], tag, rest)
    | _ => none
  | _ => do
    let (handle, rest) ← takeHandle cs
    if 1 < handle.length && handle.getLast? = some '!' then
      let (tag, rest) ← takeTagRest false [] rest
      return (handle, tag, rest)
    else
      let (tag, rest) ← takeTagRest false handle rest
      -- an exclamation mark alone is a tag without a handle
      if tag.length = 1 then return ([], ['!'], rest) else return (['!'], tag.drop 1, rest)

/-- A tag. -/
def scanTag (s : Scanner) : Option Scanner := do
  let s ← s.saveKey
  let (handle, tag, rest) ← takeTag s.cursor.rest
  if !(endsWord rest || (s.inFlow && rest.head? = some ',')) then none
  let length := s.cursor.rest.length - rest.length
  return { s.emit (.tag handle tag) length with keyAllowed := false }

/-- What a directive says: the version of the language, or what the handle of a tag stands for. -/
def takeDirective (cs : List Char) : Option (Token × List Char) := do
  let name := cs.takeWhile isNameChar
  let rest := (cs.drop name.length).dropWhile isBlank
  if !endsWord (cs.drop name.length) then none
  if name = ['Y', 'A', 'M', 'L'] then
    let major := rest.takeWhile Char.isDigit
    match rest.drop major.length with
    | '.' :: more =>
      let minor := more.takeWhile Char.isDigit
      if 9 < major.length ∨ 9 < minor.length then none
      return (.version (← Numeral.natural? 10 major) (← Numeral.natural? 10 minor),
        more.drop minor.length)
    | _ => none
  else if name = ['T', 'A', 'G'] then
    let (handle, rest) ← takeHandle rest
    if 1 < handle.length && handle.getLast? ≠ some '!' then none
    if !rest.head?.any isBlank then none
    let (meaning, rest) ← takeTagRest true [] (rest.dropWhile isBlank)
    return (.tagHandle handle meaning, rest)
  else none

/-- A directive, which fills its line but for a comment. -/
def scanDirective (s : Scanner) : Option Scanner := do
  let s ← (s.unroll fun _ => false).dropKey
  let cs := s.cursor.rest
  let (token, rest) ← takeDirective (cs.drop 1)
  if !endsWord rest then none
  let c := (s.cursor.advance (cs.length - rest.length)).skipWhile isBlank
  let c := if c.rest.head? = some '#' then c.skipWhile fun d => !isBreak d else c
  if !c.rest.isEmpty && !c.atBreak then none
  return { s.push token with cursor := c.takeBreak.2, keyAllowed := false }

/-! ## 5. The next token -/

/-- The mark that starts or ends a document. -/
def scanMark (s : Scanner) (starts : Bool) : Option Scanner := do
  let s ← (s.unroll fun _ => false).dropKey
  return { s.emit (if starts then .documentStart else .documentEnd) 3 with keyAllowed := false }

/-- An opening bracket. -/
def scanOpen (s : Scanner) (t : Token) : Option Scanner := do
  let s ← s.saveKey
  return { s.emit t 1 with keyAllowed := true, key := none, outer := s.key :: s.outer }

/-- A closing bracket. -/
def scanClose (s : Scanner) (t : Token) : Option Scanner := do
  let s ← s.dropKey
  let s := match s.outer with
    | [] => s
    | key :: outer => { s with key, outer }
  return { s.emit t 1 with keyAllowed := false }

/-- A comma between brackets. -/
def scanComma (s : Scanner) : Option Scanner := do
  let s ← s.dropKey
  return { s.emit .comma 1 with keyAllowed := true }

/-- A dash in front of a member of a list. -/
def scanItem (s : Scanner) : Option Scanner := do
  if !s.inFlow && !s.keyAllowed then none
  let s ← (s.roll s.cursor.column s.tokens.size .blockList).dropKey
  return { s.emit .item 1 with keyAllowed := true }

/-- The mark in front of a key. -/
def scanKeyMark (s : Scanner) : Option Scanner := do
  if !s.inFlow && !s.keyAllowed then none
  let s ← (s.roll s.cursor.column s.tokens.size .blockRecord).dropKey
  return { s.emit .key 1 with keyAllowed := !s.inFlow }

/-- A colon, which makes the possible key in front of it a key. -/
def scanColon (s : Scanner) : Option Scanner := do
  match s.key with
  | some k =>
    let s := (s.insert k.place .key).roll k.column k.place .blockRecord
    return { s.emit .content 1 with key := none, keyAllowed := false }
  | none =>
    if !s.inFlow && !s.keyAllowed then none
    let s := s.roll s.cursor.column s.tokens.size .blockRecord
    return { s.emit .content 1 with keyAllowed := !s.inFlow }

/-- A block. -/
def scanBlock (s : Scanner) (literal : Bool) : Option Scanner := do
  let s ← s.dropKey
  let (text, cursor) ← blockScalar literal s.level s.cursor
  let style := if literal then Style.literal else .quoted
  return { s.push (.scalar style text) with cursor, keyAllowed := true }

/-- A quoted scalar. -/
def scanQuoted (s : Scanner) (single : Bool) : Option Scanner := do
  let s ← s.saveKey
  let (text, cursor) ← quotedScalar single s.cursor
  return { s.push (.scalar .quoted text) with cursor, keyAllowed := false }

/-- A plain scalar.  If it ends with its line, a key can start behind it. -/
def scanPlain (s : Scanner) : Option Scanner := do
  let s ← s.saveKey
  let (text, broken, cursor) ← plainScalar s.inFlow s.level s.cursor
  return { s.push (.scalar .plain text) with cursor, keyAllowed := broken }

/-- Whether a plain scalar can start with a character, and what follows it. -/
def startsPlain (flow : Bool) (c : Char) (rest : List Char) : Bool :=
  if c = '-' then !rest.head?.any isBlank
  else if c = '?' || c = ':' then !flow && !endsWord rest
  else !",[]\x7b\x7d#&*!|>'\"%@\x60".toList.contains c && !isBlank c

/-- The next token at a place where one starts. -/
def scanToken (s : Scanner) : Option Scanner :=
  match s.cursor.rest with
  | [] => none
  | c :: rest =>
    if s.cursor.column = 0 && c = '%' then s.scanDirective
    else
      match s.cursor.isMark with
      | some starts => s.scanMark starts
      | none =>
        if c = '[' then s.scanOpen .openList
        else if c = '\x7b' then s.scanOpen .openRecord
        else if c = ']' then s.scanClose .closeList
        else if c = '\x7d' then s.scanClose .closeRecord
        else if c = ',' then s.scanComma
        else if c = '-' && endsWord rest then s.scanItem
        else if c = '?' && (s.inFlow || endsWord rest) then s.scanKeyMark
        else if c = ':' && (s.inFlow || endsWord rest) then s.scanColon
        else if c = '*' then s.scanName .reference
        else if c = '&' then s.scanName .anchor
        else if c = '!' then s.scanTag
        else if c = '|' && !s.inFlow then s.scanBlock true
        else if c = '>' && !s.inFlow then s.scanBlock false
        else if c = '\'' then s.scanQuoted true
        else if c = '"' then s.scanQuoted false
        else if startsPlain s.inFlow c rest then s.scanPlain
        else none

/-- All tokens from a place on. -/
def scanAll : Nat → Scanner → Option (List Token)
  | 0, _ => none
  | fuel + 1, s => do
    let (keyAllowed, cursor) :=
      skipToToken s.inFlow s.cursor.steps s.keyAllowed s.cursor
    let s ← ({ s with keyAllowed, cursor } : Scanner).dropStale
    if s.cursor.rest.isEmpty then
      let s ← (s.unroll fun _ => false).dropKey
      return s.tokens.toList
    else
      let s ← (s.unroll fun column => column ≤ s.cursor.column).scanToken
      scanAll fuel s

end Scanner

/-- The tokens of a text.  Each of them takes at least one character, which bounds their number. -/
def tokens? (text : String) : Option (List Token) :=
  let cs := text.toList
  if !cs.all isAllowed then none
  else
    let cs := if cs.head? = some byteOrderMark then cs.drop 1 else cs
    Scanner.scanAll (cs.length + 1) (.start cs)

end Rollout.Yaml
