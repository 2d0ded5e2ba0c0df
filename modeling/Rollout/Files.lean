import Rollout.Digest.Sha256
import Rollout.Reload
/-!
# Files

A path is followed through a tree of files one name at a time.  Behind a file nothing can be
reached, and outside of the tree there are directories of which nothing is known.

A space is kept in a file.  The version of its payload is a digest of the content, so that a file
that is written anew with the same content does not change.
-/

namespace Rollout

/-- What a path leads to. -/
inductive Found where
  | file (content : String)
  | directory
  | missing
  /-- There is no way there. -/
  | unreachable
deriving Repr, DecidableEq

/-- The files and directories under one directory, each with the names that lead to it, the last
first. -/
structure FileTree where
  entries : List (List String × Option String)

namespace FileTree

/-- The tree of files, whose contents are given by their paths, and of directories. -/
def ofList (files : List (String × Option String)) : FileTree :=
  ⟨files.map fun (path, content) => ((path.splitOn "/").reverse, content)⟩

/-- A place on the way. -/
inductive Place where
  | file (content : String)
  /-- A directory of the tree, by the names that lead to it, the last first. -/
  | directory (names : List String)
  /-- A directory around the tree. -/
  | outside

/-- The longest name in bytes that a file can have. -/
def longestName : Nat := 255

/-- What stands in a directory of the tree under a name. -/
def enter (tree : FileTree) (names : List String) (name : String) : Except Found Place :=
  let path := name :: names
  match tree.entries.lookup path with
  | some (some content) => .ok (.file content)
  | some none => .ok (.directory path)
  | none =>
    if tree.entries.any fun entry => path.isSuffixOf entry.1 then .ok (.directory path)
    else if longestName < name.utf8ByteSize then .error .unreachable
    else .error .missing

/-- One name of a path. -/
def step (tree : FileTree) (place : Place) (name : String) : Except Found Place :=
  match place, name with
  | .file _, _ => .error .unreachable
  | place, "" | place, "." => .ok place
  | .directory (_ :: names), ".." => .ok (.directory names)
  | .directory [], ".." | .outside, ".." => .ok .outside
  | .directory names, name => tree.enter names name
  | .outside, _ => .error .missing

/-- What a path leads to. -/
def find (tree : FileTree) (path : String) : Found :=
  if path.isEmpty then .missing
  else if path.toList.contains '\x00' then .unreachable
  else
    let start := if path.startsWith "/" then Place.outside else .directory []
    match (path.splitOn "/").foldlM tree.step start with
    | .ok (.file content) => .file content
    | .ok (.directory _) | .ok .outside => .directory
    | .error found => found

end FileTree

/-- The payload that a file holds. -/
def Payload.ofFile (content : String) : Payload :=
  ⟨Digest.hexText (Digest.Sha256.digest content.toUTF8.toList), [content]⟩

/-- What is on offer at the end of a path: no file is no payload. -/
def Found.offer : Found → Offer
  | .file content => .ok (some (.ofFile content))
  | .missing => .ok none
  | .directory | .unreachable => .error .unreadable

/-- The format of the file at a path, which the end of its name tells. -/
def Format.ofPath (path : String) : Format :=
  match ((path.splitOn "/").filter fun name => name ≠ "" && name ≠ ".").getLast? with
  | some name => if name.endsWith ".json" && name ≠ ".json" then .json else .yaml
  | none => .yaml

end Rollout
