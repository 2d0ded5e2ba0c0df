import Rollout.CommandLine
/-!
# What the commands do

`check` says what the configured space holds, and `divert` takes one request through it and says
what came of it.  Both read the configuration and then the file of the space; where these come from
is a parameter.
-/

namespace Rollout

/-- Why a command fails. -/
inductive CommandError where
  /-- There is no configuration. -/
  | config (cause : ConfigError)
  /-- The configuration names a condition function twice. -/
  | conditions (cause : ConditionError)
  | load (cause : LoadError)
  | missingSpace (path : String)
  | rejected (cause : DocumentError)
  | diversion (cause : DiversionError)

/-- What is said of the error. -/
def CommandError.message? : CommandError → Option String
  | .config cause => cause.message?
  | .conditions cause => (ConfigError.condition cause).message?
  | .load _ => none
  | .missingSpace path => some ("space file " ++ path ++ " does not exist")
  | .rejected cause => some ("space is invalid: " ++ cause.message)
  | .diversion cause => some ("diversion failed: " ++ cause.message)

/-- The configured space. -/
def Config.loadSpace (config : Config) (found : Found) : Except CommandError Space := do
  match found.offer with
  | .error e => throw (.load e)
  | .ok none => throw (.missingSpace config.space.path)
  | .ok (some payload) =>
    let conditions ← config.conditionRegistry.mapError .conditions
    (payload.space ⟨config.format, .empty, conditions⟩).mapError .rejected

/-- What a space holds, in words. -/
def Space.summary (space : Space) : String :=
  "version: " ++ space.version ++
    "\ndiversion criteria: " ++ toString space.criteria.length ++
    "\nlayers: " ++ toString space.launchLayers.length ++ " launch, " ++
      toString space.permanentLayers.length ++ " permanent" ++
    "\nsegments: " ++ toString space.segments.size ++
    "\nflags: " ++ ", ".intercalate space.flags.keys ++ "\n"

/-- What came of a request, in words: its ids and the values of the flags of the space. -/
def Request.report (r : Request) (flags : List String) : String :=
  let values := (r.valuesOf (fun _ _ => true) flags).result
  "experiments: [" ++ ", ".intercalate (r.ids.keys.map fun id => toString id.toInt) ++ "]" ++
    String.join (values.map fun (name, value) => "\n" ++ name ++ " = " ++ value.text) ++ "\n"

/-- What a look at a space prints. -/
def Inspection.perform (draws : Draws) (now : Int64) (space : Space) :
    Inspection → Except CommandError String
  | .check => .ok space.summary
  | .divert spec =>
    match ((Snapshot.of space).handle (fun _ _ => true) draws
        (.start (spec.context now))).result with
    | .error e => .error (.diversion e)
    | .ok r => .ok (r.report space.flags.keys)

/-- What a look at the configured space prints.  `find` tells what a path leads to. -/
def Inspection.run [Monad m] (find : String → m Found) (draws : Draws) (now : Int64)
    (config : String) (inspection : Inspection) : m (Except CommandError String) := do
  match Config.ofFound (← find config) with
  | .error e => return .error (.config e)
  | .ok config =>
    let found ← find config.space.path
    return do inspection.perform draws now (← config.loadSpace found)

end Rollout
