import Rollout.Flag
import Rollout.Space
/-!
# Requests

A request keeps what diversion decided for it: the ids that it carries and the settings that its
flags are read from.  Before the first diversion it has no settings, and a flag reads as its
declared default.

A value that was read is remembered as long as its evaluation stays good within the request, until
diversion changes the settings.  A read by handle remembers also the default that it gives for a
flag without a calculator.
-/

namespace Rollout

/-- A request and what was decided for it. -/
structure Request where
  context : Context
  /-- The ids that the request carries. -/
  ids : KeySet SegmentId
  /-- What its flags are computed from, once it has been diverted. -/
  settings : Option Settings
  /-- The values that are remembered, by flag. -/
  cache : Table String Value

/-- A read: what it gives, the request after it, and the leaves that were looked at. -/
structure Reading (α : Type) where
  result : α
  request : Request
  asked : List Leaf

namespace Request

/-- The request before its first diversion. -/
def start (context : Context) : Request := ⟨context, .empty, none, .empty⟩

/-- Whether the request has been diverted. -/
def isDiverted (r : Request) : Bool := r.settings.isSome

/-- The answer of each leaf for the request. -/
def answers (r : Request) (host : Host) : Answers := Leaf.answer r.context host

/-- The calculator of a flag. -/
def calculator? (r : Request) (name : String) : Option Calculator :=
  r.settings.bind (·.calculator? name)

/-- The request with an evaluation remembered, if it is good for longer than one read. -/
def remember (r : Request) (name : String) (e : Evaluation) : Request :=
  match e.level with
  | .none => r
  | .request | .reload => { r with cache := r.cache.insert name e.value }

/-- The remembered value of a flag, if it has the flag's type. -/
def cached? (r : Request) (flag : Flag) : Option Value :=
  (r.cache.get? flag.name).filter fun v => v.type == flag.type

/-- Reads a declared flag. -/
def get (r : Request) (host : Host) (flag : Flag) : Reading Value :=
  match r.cached? flag, r.settings with
  | some v, _ => ⟨v, r, []⟩
  | none, none => ⟨flag.default, r, []⟩
  | none, some settings =>
    match settings.calculator? flag.name with
    | none => ⟨flag.default, r.remember flag.name ⟨flag.default, .reload⟩, []⟩
    | some calculator =>
      let answers := r.answers host
      let e := calculator.evaluate answers
      if e.value.type = flag.type then
        ⟨e.value, r.remember flag.name e, calculator.asked answers⟩
      else ⟨flag.default, r, calculator.asked answers⟩

/-- Reads a flag by its name alone: there is nothing to read before diversion and for a flag without
a calculator. -/
def value (r : Request) (host : Host) (name : String) : Reading (Option Value) :=
  match r.cache.get? name with
  | some v => ⟨some v, r, []⟩
  | none =>
    match r.calculator? name with
    | none => ⟨none, r, []⟩
    | some calculator =>
      let answers := r.answers host
      let e := calculator.evaluate answers
      ⟨some e.value, r.remember name e, calculator.asked answers⟩

/-- Reads several flags by their names, in order. -/
def valuesOf (r : Request) (host : Host) : List String → Reading (List (String × Value))
  | [] => ⟨[], r, []⟩
  | name :: rest =>
    let first := r.value host name
    let others := first.request.valuesOf host rest
    ⟨(first.result.map fun v => (name, v)).toList ++ others.result, others.request,
      first.asked ++ others.asked⟩

/-- Reads every flag of the settings by its name, in ascending order. -/
def values (r : Request) (host : Host) : Reading (List (String × Value)) :=
  r.valuesOf host ((r.settings.map fun s => s.flagNames.keys).getD [])

/-- The settings after a diversion: its layers come on top of what the request has, or of `base`
before the first diversion. -/
def settingsAfter (r : Request) (base : Settings) (d : Diversion) : Settings :=
  let current := r.settings.getD base
  { current with layers := d.layers ++ current.layers }

/-- The request after a diversion.  Only a diversion that changes the settings, as the first one
does, lets the remembered values go. -/
def record (r : Request) (base : Settings) (d : Diversion) : Request :=
  let ids := KeySet.union r.ids d.ids
  if r.isDiverted && d.layers.isEmpty then { r with ids }
  else ⟨r.context, ids, some (r.settingsAfter base d), .empty⟩

end Request

end Rollout
