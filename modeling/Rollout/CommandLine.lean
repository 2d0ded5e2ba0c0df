import Rollout.Config
/-!
# The command line

The arguments name a configuration file and one of three commands: to check the space, to divert one
request through it, or to watch it.  An option takes its value from the rest of its argument or from
the next argument, which then must not look like an option.

The arguments are read in order and the first that is wrong ends the reading, as does a request for
help.  A value in an argument of its own is only looked at when the next option comes or all
arguments are read.
-/

namespace Rollout

/-- A request as it is described by arguments. -/
structure RequestSpec where
  identifiers : List (CriterionId × String)
  forced : List SegmentId
  time : Option Int64
  attributes : List (String × String)

/-- A look at the space as it is. -/
inductive Inspection where
  | check
  | divert (request : RequestSpec)

/-- What the program is to do. -/
inductive Action where
  | inspect (inspection : Inspection)
  /-- To keep the space loaded. -/
  | watch

/-- The arguments, read. -/
structure CommandLine where
  /-- The path of the configuration file. -/
  config : String
  action : Action

/-- Why the arguments say nothing to do. -/
inductive UsageError where
  | usage
  | help
deriving Repr, DecidableEq

namespace RequestSpec

/-- The description of a request that brings nothing. -/
def empty : RequestSpec := ⟨[], [], none, []⟩

/-- The context of the request; without a time of its own it comes `now`. -/
def context (r : RequestSpec) (now : Int64) : Context :=
  ⟨Table.ofList r.identifiers, Table.ofList r.attributes, KeySet.ofKeys r.forced, r.time.getD now⟩

end RequestSpec

namespace CommandLine

/-! ## 1. Values -/

/-- The parts of a text before and behind its first equals sign, if it has one. -/
def splitEquals (cs : List Char) : Option (List Char × List Char) :=
  match cs.dropWhile (· ≠ '=') with
  | _ :: value => some (cs.takeWhile (· ≠ '='), value)
  | [] => none

/-- A name and a value. -/
def assignment? (raw : String) : Option (String × String) :=
  (splitEquals raw.toList).map fun (name, value) => (String.ofList name, String.ofList value)

/-- The number of a criterion and an identifier. -/
def identifier? (raw : String) : Option (CriterionId × String) := do
  let (criterion, value) ← assignment? raw
  return (← Numeral.int32? criterion.toList, value)

/-- Whether an argument stands for a value and not for an option. -/
def isValue (argument : String) : Bool := !argument.startsWith "-" || argument = "-"

/-! ## 2. Options

Each level of the command line has options of its own. -/

/-- An argument at a level with the options `ω`. -/
inductive Argument (ω : Type) where
  | help
  /-- From here on no argument is an option. -/
  | escape
  /-- An option, and its value if that is part of the argument. -/
  | option (o : ω) (value : Option String)
  | unknown
  | plain

/-- A long argument, without its dashes. -/
def readLong (options : List (String × ω)) (body : List Char) : Argument ω :=
  let (name, value) := match splitEquals body with
    | some (name, value) => (name, some (String.ofList value))
    | none => (body, none)
  if name = "help".toList then if value.isSome then .unknown else .help
  else
    match options.lookup (String.ofList name) with
    | some o => .option o value
    | none => .unknown

/-- A short argument, without its dash. -/
def readShort (options : List (Char × ω)) : List Char → Argument ω
  | [] => .plain
  | 'h' :: _ => .help
  | c :: rest =>
    match options.lookup c with
    | none => .unknown
    | some o =>
      match rest with
      | [] => .option o none
      | '=' :: value => .option o (some (String.ofList value))
      | value => .option o (some (String.ofList value))

/-- What an argument is. -/
def readArgument (long : List (String × ω)) (short : List (Char × ω)) (argument : String) :
    Argument ω :=
  match argument.toList with
  | ['-', '-'] => .escape
  | '-' :: '-' :: body => readLong long body
  | '-' :: body => readShort short body
  | _ => .plain

/-- What a level knows: its options, and what one of them makes of a value. -/
structure Level (ω σ : Type) where
  long : List (String × ω)
  short : List (Char × ω)
  apply : ω → String → σ → Option σ

namespace Level

/-- The state with an option that was read, but not looked at yet. -/
def settle (level : Level ω σ) (pending : Option (ω × String)) (state : σ) :
    Except UsageError σ :=
  match pending with
  | none => .ok state
  | some (o, value) =>
    match level.apply o value state with
    | some state => .ok state
    | none => .error .usage

/-- Options up to the first argument that is none: the state, an option that is not looked at yet,
and the arguments that are left. -/
def options (level : Level ω σ) (pending : Option (ω × String)) (state : σ) :
    List String → Except UsageError (σ × Option (ω × String) × List String)
  | [] => .ok (state, pending, [])
  | argument :: rest =>
    match readArgument level.long level.short argument with
    | .plain => .ok (state, pending, argument :: rest)
    | .unknown => .error .usage
    | .escape => if rest.isEmpty then .ok (state, pending, []) else .error .usage
    | .help => do
      let _ ← level.settle pending state
      .error .help
    | .option o (some value) => do
      let state ← level.settle pending state
      let state ← level.settle (some (o, value)) state
      options level none state rest
    | .option o none =>
      match level.settle pending state with
      | .error e => .error e
      | .ok state =>
        match rest with
        | [] => .error .usage
        | value :: rest =>
          if isValue value then options level (some (o, value)) state rest else .error .usage

end Level

/-! ## 3. The commands -/

/-- The options of a diverted request. -/
inductive RequestOption where
  | identifier
  | force
  | time
  | attribute

/-- The level of a diverted request; it has one time at most. -/
def requestLevel : Level RequestOption RequestSpec where
  long := [("id", .identifier), ("force", .force), ("time", .time), ("attr", .attribute)]
  short := []
  apply
    | .identifier, value, r =>
      (identifier? value).map fun i => { r with identifiers := r.identifiers ++ [i] }
    | .force, value, r =>
      (Numeral.int32? value.toList).map fun id => { r with forced := r.forced ++ [id] }
    | .time, value, r =>
      if r.time.isSome then none
      else (Numeral.int64? value.toList).map fun time => { r with time := some time }
    | .attribute, value, r =>
      (assignment? value).map fun a => { r with attributes := r.attributes ++ [a] }

/-- The level of a command without options. -/
def plainLevel : Level Empty Unit := ⟨[], [], fun o _ _ => nomatch o⟩

/-- The level of the program, at which the configuration file is named at most once. -/
def programLevel : Level Unit (Option String) where
  long := [("config", ())]
  short := [('c', ())]
  apply _ value config := if config.isSome || value.isEmpty then none else some (some value)

/-- All arguments of a command. -/
def finish (level : Level ω σ) (start : σ) (arguments : List String) : Except UsageError σ := do
  let (state, pending, rest) ← level.options none start arguments
  if !rest.isEmpty then
    throw .usage
  level.settle pending state

/-- The names of the commands. -/
def commandNames : List String := ["check", "divert", "watch", "help"]

/-- A command with its arguments. -/
def readAction : List String → Except UsageError Action
  | "check" :: rest => (finish plainLevel () rest).map fun _ => .inspect .check
  | "divert" :: rest => (finish requestLevel .empty rest).map fun r => .inspect (.divert r)
  | "watch" :: rest => (finish plainLevel () rest).map fun _ => .watch
  | ["help"] => .error .help
  | ["help", name] => .error (if commandNames.contains name then .help else .usage)
  | _ => .error .usage

/-- The arguments behind the name of the program. -/
def read (arguments : List String) : Except UsageError CommandLine := do
  let (config, pending, rest) ← programLevel.options none none arguments
  let action ← readAction rest
  let config ← programLevel.settle pending config
  return ⟨config.getD "divert.yaml", action⟩

end CommandLine

end Rollout
