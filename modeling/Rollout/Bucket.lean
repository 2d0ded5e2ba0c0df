import Rollout.Digest.Md5
import Rollout.Ids
import Rollout.Text.Units
/-!
# Criteria and buckets

A criterion divides requests into buckets: by an identifier that the request carries, or at random.
An identifier lands in a bucket by a digest of the layer's number and its own text, so that in each
layer it has a place of its own and keeps it.
-/

namespace Rollout

/-- A way to divide requests into buckets. -/
structure Criterion where
  id : CriterionId
  buckets : Bucket
  /-- Whether the bucket is drawn anew for each request. -/
  random : Bool
deriving Repr, DecidableEq

namespace Bucket

/-- The bytes that decide on a bucket: four of the layer's number, then two of each unit of the
identifier, the lowest first. -/
def key (layer : LayerId) (identifier : String) : List UInt8 :=
  Digest.lowFirst 4 layer.toUInt32.toNat ++
    (Text.units identifier).flatMap fun u => Digest.lowFirst 2 u.toNat

/-- The first eight bytes of the digest as a signed number, the lowest first. -/
def hash (layer : LayerId) (identifier : String) : Int :=
  let head := (Digest.Md5.digest (key layer identifier)).take 8
  (Int64.ofNat (head.foldr (fun b n => b.toNat + 256 * n) 0)).toInt

/-- The bucket of an identifier among `count` ones, if there are any. -/
def stable? (layer : LayerId) (identifier : String) (count : Bucket) : Option Bucket :=
  if count = 0 then none else some (Int32.ofInt (hash layer identifier % count.toInt))

/-- The bucket among `count` ones that a drawn number stands for, if there are any. -/
def drawn? (draw : Nat) (count : Bucket) : Option Bucket :=
  if count ≤ 0 then none else some (Int32.ofInt (draw % count.toInt))

end Bucket

end Rollout
