import Rollout.Document.Json
import Rollout.Document.Meaning
import Rollout.Document.Reading
import Rollout.Document.Yaml.Node
/-!
# Payloads

A payload is a document in chunks, under a version.  A schema says how it is read: in which format,
for which declared flags and with which conditions.
-/

namespace Rollout

/-- A document before it is read. -/
structure Payload where
  /-- Payloads of one version are taken to say the same. -/
  version : String
  chunks : List String
deriving Repr, DecidableEq

/-- What payloads are read against. -/
structure Schema where
  format : Format
  declared : FlagRegistry
  conditions : ConditionRegistry

/-- The tree of a text in a format. -/
def Format.tree? : Format → String → Option Tree
  | .json => Json.tree?
  | .yaml => Yaml.tree?

namespace Payload

/-- Whether a chunk holds nothing but blanks. -/
def isBlank (chunk : String) : Bool :=
  chunk.toList.all fun c => c = ' ' || c = '\t' || c = '\n' || c = '\x0c' || c = '\r'

/-- The document that a chunk is. -/
def readChunk? (format : Format) (chunk : String) : Option SpaceDocument :=
  (format.tree? chunk).bind (SpaceDocument.ofTree? format)

/-- What chunks list together with a document read before them; blank chunks list nothing. -/
def readFrom (format : Format) (done : SpaceDocument) (index : Nat) :
    List String → Except DocumentError SpaceDocument
  | [] => .ok done
  | chunk :: rest =>
    if isBlank chunk then readFrom format done (index + 1) rest
    else
      match readChunk? format chunk with
      | none => .error (.malformed format index)
      | some document => readFrom format (done.merge document) (index + 1) rest

/-- The document that chunks are together. -/
def document (format : Format) (chunks : List String) : Except DocumentError SpaceDocument :=
  readFrom format .empty 0 chunks

/-- The space that a payload describes. -/
def space (schema : Schema) (payload : Payload) : Except DocumentError Space := do
  let document ← document schema.format payload.chunks
  let definition ← document.meaning schema.conditions
  (definition.build schema.declared payload.version).mapError .validation

end Payload

end Rollout
