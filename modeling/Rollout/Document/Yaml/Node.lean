import Rollout.Document.Yaml.Token
import Rollout.Document.Yaml.Word
/-!
# Trees in YAML

Tokens become a tree.  Where a node is missing there is an empty scalar, and an alias stands for the
node that its anchor was last put on; inside that node it cannot be read.  A text holds one document
at most.
-/

namespace Rollout.Yaml

/-- Tokens that are being read, and what the anchors in front of them stand for. -/
structure Reader where
  tokens : List Token
  /-- What the handles of tags stand for. -/
  handles : List (List Char × List Char)
  /-- The anchors, the last first, each with its number. -/
  anchors : List (List Char × Nat)
  /-- The nodes that the anchors of these numbers are on. -/
  nodes : List (Nat × Tree)

/-- A reading of tokens from some place on. -/
abbrev Reading := StateT Reader Option

namespace Reading

/-- No reading: the tokens make no document. -/
def fail {α : Type} : Reading α := fun _ => none

/-- The next token. -/
def next? : Reading (Option Token) := fun r => some (r.tokens.head?, r)

/-- Goes past the next token. -/
def skip : Reading Unit := fun r => some ((), { r with tokens := r.tokens.drop 1 })

/-- Puts an anchor on a node that is not read yet. -/
def putAnchor (name : List Char) : Reading Nat := fun r =>
  let number := r.anchors.length
  some (number, { r with anchors := (name, number) :: r.anchors })

/-- The node of an anchor is read. -/
def finish (anchor : Option Nat) (t : Tree) : Reading Tree := fun r =>
  match anchor with
  | none => some (t, r)
  | some number => some (t, { r with nodes := (number, t) :: r.nodes })

/-- The node that an alias stands for. -/
def reference (name : List Char) : Reading Tree := fun r =>
  (r.anchors.lookup name).map fun number =>
    ((r.nodes.lookup number).getD (.word .unreadable), r)

/-- The tag that a handle and the rest of a tag make. -/
def resolveTag (handle rest : List Char) : Reading String := fun r =>
  if handle.isEmpty then some (String.ofList rest, r)
  else (r.handles.lookup handle).map fun meaning => (String.ofList (meaning ++ rest), r)

/-! ## 1. Properties -/

/-- The anchor of a node, if there is one. -/
def anchor? : Reading (Option Nat) := do
  match ← next? with
  | some (.anchor name) => do
    skip
    return some (← putAnchor name)
  | _ => return none

/-- The tag of a node, if there is one. -/
def tag? : Reading (Option String) := do
  match ← next? with
  | some (.tag handle rest) => do
    skip
    return some (← resolveTag handle rest)
  | _ => return none

/-- The anchor and the tag of a node, in either order. -/
def properties : Reading (Option Nat × Option String) := do
  let first ← anchor?
  let tag ← tag?
  if first.isSome || tag.isNone then return (first, tag)
  return (← anchor?, tag)

/-! ## 2. Nodes -/

/-- Whether a token ends a member of a collection without brackets, in which a node may then be
missing. -/
def endsMember : Option Token → Bool
  | some .key | some .content | some .blockEnd => true
  | _ => false

/-- Whether a token ends a member of a list without indentation of its own. -/
def endsItem (own : Bool) : Option Token → Bool
  | some .item | some .blockEnd => true
  | some .key | some .content => !own
  | _ => false

/-- Whether a token ends a key between brackets, which may then be missing. -/
def endsFlowKey : Option Token → Bool
  | some .content | some .comma | some .closeRecord => true
  | _ => false

/-- Whether a token ends a member of a collection between brackets. -/
def endsFlow : Option Token → Bool
  | some .comma | some .closeList | some .closeRecord => true
  | _ => false

/-- The node for a place where nothing is written. -/
def missing : Tree := .word (emptyWord none)

mutual

/-- A node.  Outside of brackets (`block`) it may be a collection without brackets, and as the key
or the content of a field (`bare`) a list without indentation of its own. -/
def node (block bare : Bool) : Nat → Reading Tree
  | 0 => fail
  | fuel + 1 => do
    match ← next? with
    | some (.reference name) => do
      skip
      reference name
    | _ => do
      let (anchor, tag) ← properties
      match ← next? with
      | some .item =>
        if bare then finish anchor (.list (← items false fuel))
        else if anchor.isSome || tag.isSome then finish anchor (.word (emptyWord tag))
        else fail
      | some (.scalar style text) => do
        skip
        finish anchor (.word (scalarWord style (tag.filter (· ≠ "!")) text))
      | some .openList => do
        skip
        finish anchor (.list (← flowItems true fuel))
      | some .openRecord => do
        skip
        finish anchor (.record (← flowFields true fuel))
      | some .blockList =>
        if block then do
          skip
          finish anchor (.list (← items true fuel))
        else if anchor.isSome || tag.isSome then finish anchor (.word (emptyWord tag))
        else fail
      | some .blockRecord =>
        if block then do
          skip
          finish anchor (.record (← fields fuel))
        else if anchor.isSome || tag.isSome then finish anchor (.word (emptyWord tag))
        else fail
      | _ =>
        if anchor.isSome || tag.isSome then finish anchor (.word (emptyWord tag)) else fail

/-- A node, unless what comes next ends the place for it. -/
def nodeUnless (ends : Option Token → Bool) (block bare : Bool) : Nat → Reading Tree
  | 0 => fail
  | fuel + 1 => do
    if ends (← next?) then return missing else node block bare fuel

/-- The members of a list without brackets; with indentation of its own (`own`) its end is
marked. -/
def items (own : Bool) : Nat → Reading (List Tree)
  | 0 => fail
  | fuel + 1 => do
    match ← next? with
    | some .item => do
      skip
      let item ← nodeUnless (endsItem own) true false fuel
      return item :: (← items own fuel)
    | some .blockEnd => do
      if own then skip
      return []
    | _ => if own then fail else return []

/-- The fields of a record without brackets. -/
def fields : Nat → Reading (List (Tree × Tree))
  | 0 => fail
  | fuel + 1 => do
    match ← next? with
    | some .key => do
      skip
      let key ← nodeUnless endsMember true true fuel
      let content ← fieldContent fuel
      return (key, content) :: (← fields fuel)
    | some .blockEnd => do
      skip
      return []
    | _ => fail

/-- The content of a field without brackets. -/
def fieldContent : Nat → Reading Tree
  | 0 => fail
  | fuel + 1 => do
    match ← next? with
    | some .content => do
      skip
      nodeUnless endsMember true true fuel
    | _ => return missing

/-- The members of a list between brackets; a comma stands in front of all but the first. -/
def flowItems (first : Bool) : Nat → Reading (List Tree)
  | 0 => fail
  | fuel + 1 => do
    match ← next? with
    | some .closeList => do
      skip
      return []
    | t => do
      match first, t with
      | true, _ => pure ()
      | false, some .comma => skip
      | false, _ => fail
      match ← next? with
      | some .closeList => do
        skip
        return []
      | some .key => do
        skip
        let pair ← flowPair fuel
        return .record [pair] :: (← flowItems false fuel)
      | _ => do
        let item ← node false false fuel
        return item :: (← flowItems false fuel)

/-- A field that stands in a list without brackets of its own.  Where its key is missing, what
stands in the place of the key is passed over. -/
def flowPair : Nat → Reading (Tree × Tree)
  | 0 => fail
  | fuel + 1 => do
    match ← next? with
    | some .content | some .comma | some .closeList => do
      skip
      return (missing, ← flowContent fuel)
    | _ => do
      let key ← node false false fuel
      return (key, ← flowContent fuel)

/-- The fields of a record between brackets; a comma stands in front of all but the first. -/
def flowFields (first : Bool) : Nat → Reading (List (Tree × Tree))
  | 0 => fail
  | fuel + 1 => do
    match ← next? with
    | some .closeRecord => do
      skip
      return []
    | t => do
      match first, t with
      | true, _ => pure ()
      | false, some .comma => skip
      | false, _ => fail
      match ← next? with
      | some .closeRecord => do
        skip
        return []
      | some .key => do
        skip
        let key ← nodeUnless endsFlowKey false false fuel
        let content ← flowContent fuel
        return (key, content) :: (← flowFields false fuel)
      | _ => do
        let key ← node false false fuel
        return (key, missing) :: (← flowFields false fuel)

/-- The content of a field between brackets. -/
def flowContent : Nat → Reading Tree
  | 0 => fail
  | fuel + 1 => do
    match ← next? with
    | some .content => do
      skip
      nodeUnless endsFlow false false fuel
    | _ => return missing

end

/-! ## 3. Documents -/

/-- The handles that need no directive. -/
def knownHandles : List (List Char × List Char) :=
  [(['!'], ['!']), (['!', '!'], (coreTag "").toList)]

/-- The directives in front of a document, after those that were read before. -/
def directives (version : Bool) (handles : List (List Char × List Char)) :
    Nat → Reading (Bool × List (List Char × List Char))
  | 0 => fail
  | fuel + 1 => do
    match ← next? with
    | some (.version major minor) => do
      if version || major ≠ 1 || (minor ≠ 1 && minor ≠ 2) then fail
      skip
      directives true handles fuel
    | some (.tagHandle handle meaning) => do
      if (handles.lookup handle).isSome then fail
      skip
      directives version ((handle, meaning) :: handles) fuel
    | _ => return (version, handles)

/-- What follows the one document of a text: nothing but marks that it has ended. -/
def ending : Nat → Reading Unit
  | 0 => fail
  | fuel + 1 => do
    match ← next? with
    | none => return ()
    | some .documentEnd => do
      skip
      ending fuel
    | some _ => fail

/-- The one document of a text. -/
def document (fuel : Nat) : Reading Tree := do
  let (version, handles) ← directives false [] fuel
  modify fun r => { r with handles := handles ++ knownHandles }
  match ← next? with
  | none => if version || !handles.isEmpty then fail else return missing
  | some .documentStart => do
    skip
    let tree ← match ← next? with
      | none | some .documentStart | some .documentEnd | some (.version _ _)
      | some (.tagHandle _ _) => pure missing
      | some _ => node true false fuel
    ending fuel
    return tree
  | some _ => do
    if version || !handles.isEmpty then fail
    let tree ← node true false fuel
    ending fuel
    return tree

end Reading

/-- The tree of a text.  Of three steps down one at least takes a token, which bounds how far down
it goes. -/
def tree? (text : String) : Option Tree := do
  let tokens ← tokens? text
  let (tree, _) ← (Reading.document (4 * tokens.length + 8)).run ⟨tokens, [], [], []⟩
  return tree

end Rollout.Yaml
