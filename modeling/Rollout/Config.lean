import Rollout.Condition.Registry
import Rollout.Document.Yaml.Node
import Rollout.Files
/-!
# Configuration

The configuration says where the space is kept, which condition functions its documents may name,
and how the program reports on itself.  It is one record in YAML.

The fields about reporting are read differently from the others: a scalar is what it is spelled as
and nothing else, so that a number is no text, and a record may be written as a list of the contents
of its fields, or with numbers for their names.  Fields that nobody knows are passed over, but they
too have to be readable in this way.
-/

namespace Rollout

/-- Where the program sends its metrics. -/
structure MetricsConfig where
  host : String
  port : UInt16
  /-- What the names of the metrics start with. -/
  namePrefix : String
deriving Repr, DecidableEq

/-- What the program logs, and where. -/
structure LoggingConfig where
  sentryDsn : Option String
  level : String
deriving Repr, DecidableEq

/-- Where the space is kept. -/
structure SpaceConfig where
  path : String
  /-- The format, where it is not to be told from the path. -/
  format? : Option Format
  /-- The seconds between two reloads. -/
  pollSeconds : Nat
deriving Repr, DecidableEq

/-- A condition function that documents may name. -/
structure ConditionConfig where
  name : String
  /-- The attribute that the function compares; without one it only counts its arguments. -/
  property : Option String
  least : Nat
  most : Option Nat
deriving Repr, DecidableEq

/-- The configuration. -/
structure Config where
  metrics : Option MetricsConfig
  logging? : Option LoggingConfig
  space : SpaceConfig
  conditions : List ConditionConfig
deriving Repr, DecidableEq

/-- Why there is no configuration. -/
inductive ConfigError where
  | unreadable
  | malformed
  | zeroInterval
  | impossibleArity (name : String) (least most : Nat)
  | condition (cause : ConditionError)

/-- What is said of the error; what is wrong with a file is not for this library to say. -/
def ConfigError.message? : ConfigError → Option String
  | .unreadable | .malformed => none
  | .zeroInterval => some "invalid config: space.poll_interval_secs must be positive"
  | .impossibleArity name least most =>
    some ("invalid config: condition " ++ name ++ " accepts at most " ++ toString most ++
      " but at least " ++ toString least ++ " arguments")
  | .condition cause => some ("invalid condition: " ++ cause.message)

/-! ## 1. Scalars that are what they are spelled as -/

/-- The word, read as nothing but what it is spelled as. -/
def Word.strict? (w : Word) : Option Word :=
  match w.scalar with
  | some (.string s) => some { Word.unreadable with text := some s, scalar := some (.string s) }
  | some v => some { Word.unreadable with count := w.count, scalar := some v }
  | none => if w.isNull then some { Word.unreadable with isNull := true } else none

/-- The tree, its words read as nothing but what they are spelled as. -/
def Tree.strict? : Nat → Tree → Option Tree
  | _, .word w => w.strict?.map .word
  | 0, _ => none
  | depth + 1, .list items => (items.mapM (Tree.strict? depth)).map .list
  | depth + 1, .record fields =>
    (fields.mapM fun (key, content) => do
      return (← Tree.strict? depth key, ← Tree.strict? depth content)).map .record

/-- The name of a field, which may be given as the number of its place. -/
def fieldName? (names : List String) (key : Tree) : Option String :=
  match key.text? with
  | some name => some name
  | none => key.count?.map fun n => names.getD n ""

/-- The fields of a record that may be told by their names, their numbers or their places. -/
def strictRecord? (names : List String) : Tree → Option Record
  | .record fields => do
    let named ← fields.mapM fun (key, content) => (fieldName? names key).map fun n => (n, content)
    let known := named.filter fun field => names.contains field.1
    if (known.map (·.1)).Nodup then some ⟨known, false⟩ else none
  | t => t.record? .json Format.json.depth names

/-! ## 2. The parts -/

/-- A number of sixteen bits without a sign. -/
def port? (t : Tree) : Option UInt16 :=
  t.count?.bind fun n => if n < 0x10000 then some (UInt16.ofNat n) else none

/-- Where the program sends its metrics. -/
def MetricsConfig.ofTree? (t : Tree) : Option MetricsConfig := do
  let r ← strictRecord? ["statsd_host", "statsd_port", "prefix"] t
  return {
    host := ← r.required "statsd_host" Tree.text?
    port := ← r.required "statsd_port" port?
    namePrefix := ← r.defaulted "prefix" "divert" Tree.text? }

/-- What is logged where nothing is said of it. -/
def LoggingConfig.default : LoggingConfig := ⟨none, "info"⟩

/-- What the program logs, and where. -/
def LoggingConfig.ofTree? (t : Tree) : Option LoggingConfig := do
  let r ← strictRecord? ["sentry_dsn", "level"] t
  return {
    sentryDsn := ← r.optional "sentry_dsn" Tree.text?
    level := ← r.defaulted "level" LoggingConfig.default.level Tree.text? }

/-- The format that a name stands for. -/
def Format.ofTree? (t : Tree) : Option Format :=
  match t.choice? .yaml Format.yaml.depth with
  | some "yaml" => some .yaml
  | some "json" => some .json
  | _ => none

/-- Where the space is kept. -/
def SpaceConfig.ofTree? (t : Tree) : Option SpaceConfig := do
  let r ← t.record? .yaml Format.yaml.depth ["path", "format", "poll_interval_secs"]
  return {
    path := ← r.required "path" Tree.text?
    format? := ← r.optional "format" Format.ofTree?
    pollSeconds := ← r.defaulted "poll_interval_secs" 30 Tree.count? }

/-- A condition function. -/
def ConditionConfig.ofTree? (t : Tree) : Option ConditionConfig := do
  let r ← t.record? .yaml Format.yaml.depth ["name", "attribute", "min_args", "max_args"]
  return {
    name := ← r.required "name" Tree.text?
    property := ← r.optional "attribute" Tree.text?
    least := ← r.defaulted "min_args" 0 Tree.count?
    most := ← r.optional "max_args" Tree.count? }

namespace Config

/-! ## 3. The whole -/

/-- The fields of the configuration: those about the space as they stand, and all others read
strictly. -/
def fields? (t : Tree) : Option (Record × Record) := do
  let direct := ["space", "conditions"]
  let known ← t.record? .yaml Format.yaml.depth direct
  let others : List (Tree × Tree) := match t with
    | .record fields => fields.filter fun (key, _) => !key.text?.any direct.contains
    | _ => []
  let strict ← others.mapM fun (key, content) => do
    return (key, ← content.strict? (Format.yaml.depth - 1))
  let reporting ← (Tree.record strict).record? .yaml Format.yaml.depth ["metrics", "logging"]
  return (known, reporting)

/-- The configuration that a tree is. -/
def ofTree? (t : Tree) : Option Config := do
  let (known, reporting) ← fields? t
  return {
    metrics := ← reporting.optional "metrics" MetricsConfig.ofTree?
    logging? := ← reporting.optional "logging" LoggingConfig.ofTree?
    space := ← known.required "space" SpaceConfig.ofTree?
    conditions := ← known.defaulted "conditions" []
      (Tree.list? Format.yaml.depth ConditionConfig.ofTree?) }

/-- Refuses the first condition function that takes no number of arguments. -/
def checkArities : List ConditionConfig → Except ConfigError Unit
  | [] => .ok ()
  | c :: rest =>
    match c.most with
    | some most => if most < c.least then .error (.impossibleArity c.name c.least most)
      else checkArities rest
    | none => checkArities rest

/-- The configuration that a text holds. -/
def ofText (text : String) : Except ConfigError Config :=
  match (Yaml.tree? text).bind ofTree? with
  | none => .error .malformed
  | some config => do
    if config.space.pollSeconds = 0 then
      throw .zeroInterval
    checkArities config.conditions
    return config

/-- The configuration at the end of a path.  A directory can be opened but not read. -/
def ofFound : Found → Except ConfigError Config
  | .file content => ofText content
  | .directory => .error .malformed
  | .missing | .unreachable => .error .unreadable

/-- The format of the space. -/
def format (c : Config) : Format := c.space.format?.getD (.ofPath c.space.path)

/-- What is logged. -/
def logging (c : Config) : LoggingConfig := c.logging?.getD .default

/-- The condition functions that documents may name. -/
def conditionRegistry (c : Config) : Except ConditionError ConditionRegistry :=
  ConditionRegistry.ofList <| c.conditions.map fun condition =>
    (condition.name, match condition.property with
      | some name => (Leaf.attribute name .request []).withArguments
      | none => (Leaf.arity condition.least (condition.most.getD Numeral.maxCount)).withArguments)

end Config

end Rollout
