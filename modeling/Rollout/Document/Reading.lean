import Rollout.Document
import Rollout.Document.Tree
/-!
# Reading a document off its tree

Each kind of record is read by the names of its fields, which are listed here in the order in which
they count where they are told by their places.  There is no value of a type but the values that are
spelled so: a number is neither cut nor widened, and nothing but a field that can be left out takes
a value that is not given.
-/

namespace Rollout

/-- How conditions are taken together. -/
def Merge.ofTree? (format : Format) (depth : Nat) (t : Tree) : Option Merge :=
  match t.choice? format depth with
  | some "and" => some .and
  | some "or" => some .or
  | _ => none

/-- What an override does. -/
def OverrideMode.ofTree? (format : Format) (depth : Nat) (t : Tree) : Option OverrideMode :=
  match t.choice? format depth with
  | some "replace" => some .replace
  | some "append" => some .append
  | some "prepend" => some .prepend
  | _ => none

/-- A condition; `depth` levels are left for it. -/
def ConditionDocument.ofTree? (format : Format) (depth : Nat) (t : Tree) :
    Option ConditionDocument := do
  let r ← t.record? format depth ["name", "args", "negate"]
  return {
    name := ← r.required "name" Tree.text?
    arguments := ← r.defaulted "args" [] (Tree.list? (depth - 1) Tree.scalar?)
    negate := ← r.defaulted "negate" false Tree.truth? }

/-- Conditions; `depth` levels are left for their list. -/
def ConditionDocument.listOfTree? (format : Format) (depth : Nat) :
    Tree → Option (List ConditionDocument) :=
  Tree.list? depth (ConditionDocument.ofTree? format (depth - 1))

/-- Modifiers; `depth` levels are left for their list. -/
def ModifierDocument.listOfTree? (format : Format) :
    Nat → Tree → Option (List ModifierDocument)
  | depth + 2, t => t.list? (depth + 2) fun item => do
    let r ← item.record? format (depth + 1)
      ["value", "operator", "conditions", "condition_merge_operator", "modifiers"]
    let value ← r.required "value" Tree.scalar?
    let operator ← r.required "operator" Tree.text?
    let conditions ← r.defaulted "conditions" [] (ConditionDocument.listOfTree? format depth)
    let merge ← r.defaulted "condition_merge_operator" .and (Merge.ofTree? format depth)
    let children ← r.defaulted "modifiers" [] (listOfTree? format depth)
    return .mk value operator conditions merge children
  | depth, t => t.list? depth fun _ => none

/-- A flag. -/
def FlagDocument.ofTree? (format : Format) (depth : Nat) (t : Tree) : Option FlagDocument := do
  let r ← t.record? format depth ["name", "type", "base_value", "modifiers"]
  return {
    name := ← r.required "name" Tree.text?
    type := ← r.required "type" Tree.text?
    base := ← r.required "base_value" Tree.scalar?
    modifiers := ← r.defaulted "modifiers" [] (ModifierDocument.listOfTree? format (depth - 1)) }

/-- A diversion criterion. -/
def CriterionDocument.ofTree? (format : Format) (depth : Nat) (t : Tree) :
    Option CriterionDocument := do
  let r ← t.record? format depth ["id", "num_buckets", "random"]
  return {
    id := ← r.required "id" Tree.int32?
    buckets := ← r.required "num_buckets" Tree.int32?
    random := ← r.defaulted "random" false Tree.truth? }

/-- A layer. -/
def LayerDocument.ofTree? (format : Format) (depth : Nat) (t : Tree) : Option LayerDocument := do
  let r ← t.record? format depth
    ["id", "name", "domain_id", "launch", "unbiased_id", "fixed_biased_id", "random_biased_id"]
  return {
    id := ← r.required "id" Tree.int32?
    name := ← r.optional "name" Tree.text?
    domain := ← r.defaulted "domain_id" 0 Tree.int32?
    launch := ← r.defaulted "launch" false Tree.truth?
    unbiased := ← r.required "unbiased_id" Tree.int32?
    fixedBiased := ← r.required "fixed_biased_id" Tree.int32?
    randomBiased := ← r.required "random_biased_id" Tree.int32? }

/-- A range of buckets. -/
def BucketRange.ofTree? (format : Format) (depth : Nat) (t : Tree) : Option BucketRange := do
  let r ← t.record? format depth ["start", "end"]
  return { start := ← r.required "start" Tree.int32?, stop := ← r.required "end" Tree.int32? }

/-- What an experiment does to a flag. -/
def OverrideDocument.ofTree? (format : Format) (depth : Nat) (t : Tree) :
    Option OverrideDocument := do
  let r ← t.record? format depth ["name", "operator", "base_value", "modifiers"]
  return {
    flag := ← r.required "name" Tree.text?
    mode := ← r.required "operator" (OverrideMode.ofTree? format (depth - 1))
    base := ← r.optional "base_value" Tree.scalar?
    modifiers := ← r.defaulted "modifiers" [] (ModifierDocument.listOfTree? format (depth - 1)) }

/-- An experiment or a domain. -/
def SegmentDocument.ofTree? (format : Format) (depth : Nat) (t : Tree) :
    Option SegmentDocument := do
  let r ← t.record? format depth
    ["id", "name", "layer_id", "diversion_id", "domain", "buckets", "bucket_ranges", "conditions",
      "condition_merge_operator", "start_time_msec", "end_time_msec", "pre_period_msec",
      "post_period_msec", "overrides"]
  return {
    id := ← r.required "id" Tree.int32?
    name := ← r.optional "name" Tree.text?
    layer := ← r.required "layer_id" Tree.int32?
    criterion := ← r.defaulted "diversion_id" 0 Tree.int32?
    domain := ← r.defaulted "domain" false Tree.truth?
    buckets := ← r.defaulted "buckets" [] (Tree.list? (depth - 1) Tree.int32?)
    ranges := ← r.defaulted "bucket_ranges" []
      (Tree.list? (depth - 1) (BucketRange.ofTree? format (depth - 2)))
    conditions := ← r.defaulted "conditions" [] (ConditionDocument.listOfTree? format (depth - 1))
    merge := ← r.defaulted "condition_merge_operator" .and (Merge.ofTree? format (depth - 1))
    start := ← r.optional "start_time_msec" Tree.int64?
    stop := ← r.optional "end_time_msec" Tree.int64?
    overridesStart := ← r.optional "pre_period_msec" Tree.int64?
    overridesStop := ← r.optional "post_period_msec" Tree.int64?
    overrides := ← r.defaulted "overrides" []
      (Tree.list? (depth - 1) (OverrideDocument.ofTree? format (depth - 2))) }

/-- A whole document. -/
def SpaceDocument.ofTree? (format : Format) (t : Tree) : Option SpaceDocument := do
  let r ← t.record? format format.depth ["flags", "diversions", "layers", "experiments"]
  let listOf {α : Type} (read : Format → Nat → Tree → Option α) : Tree → Option (List α) :=
    Tree.list? (format.depth - 1) (read format (format.depth - 2))
  return {
    flags := ← r.defaulted "flags" [] (listOf FlagDocument.ofTree?)
    criteria := ← r.defaulted "diversions" [] (listOf CriterionDocument.ofTree?)
    layers := ← r.defaulted "layers" [] (listOf LayerDocument.ofTree?)
    segments := ← r.defaulted "experiments" [] (listOf SegmentDocument.ofTree?) }

end Rollout
