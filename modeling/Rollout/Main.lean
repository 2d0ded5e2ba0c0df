import Std.Time.DateTime.Timestamp
import Rollout.Command
/-!
# The program

Reads the command line, looks up files, the clock and random numbers, and prints what the library
makes of them.
-/

namespace Rollout.Program

/-- What is printed on demand, and when the arguments say nothing to do. -/
def help : String :=
  "Inspect and serve experiment spaces\n\n" ++
  "Usage: divert [-c|--config FILE] check\n" ++
  "       divert [-c|--config FILE] divert [--id CRITERION=VALUE]... [--force ID]... " ++
    "[--time MSEC] [--attr NAME=VALUE]...\n" ++
  "       divert [-c|--config FILE] watch\n"

/-- What a path leads to. -/
def find (path : String) : IO Found := do
  try
    return .file (← IO.FS.readFile path)
  catch
    | .noFileOrDirectory .. => return .missing
    | .inappropriateType .. => return .directory
    | _ => return .unreachable

/-- The milliseconds since the epoch. -/
def now : IO Int64 := do
  let time ← Std.Time.Timestamp.now
  return Int64.ofInt time.toMillisecondsSinceUnixEpoch.val

/-- Numbers that look random and depend on a seed. -/
def drawsOf (seed : Nat) : Draws := fun root layer criterion =>
  let key := Digest.lowFirst 8 seed ++
    [root, layer, criterion].flatMap fun id => Digest.lowFirst 4 id.toUInt32.toNat
  (Digest.Md5.digest key).foldr (fun byte number => byte.toNat + 256 * number) 0

/-- Prints an error, if there is something to say of it. -/
def complain (place : String) (message : Option String) : IO Unit :=
  IO.eprintln (place ++ ": " ++ message.getD "cannot be read")

/-- Waits for some seconds, in parts that the clock can measure. -/
def wait : Nat → IO Unit
  | 0 => return
  | seconds + 1 => do
    IO.sleep 1000
    wait seconds

/-- Reloads from the file of the space at every interval, for good. -/
partial def watch (config : Config) (schema : Schema) (reloader : Reloader) (force : Bool) :
    IO Unit := do
  let done := reloader.reload schema (← find config.space.path).offer force
  if let .error e := done.result then
    complain config.space.path e.message?
  wait config.space.pollSeconds
  watch config schema done.reloader false

/-- Performs the action and says whether it went well. -/
def perform (line : CommandLine) : IO Bool := do
  match line.action with
  | .inspect inspection =>
    let draws := drawsOf (← IO.rand 0 0x7fffffffffffffff)
    match ← inspection.run find draws (← now) line.config with
    | .ok text =>
      IO.print text
      return true
    | .error e =>
      complain line.config e.message?
      return false
  | .watch =>
    match Config.ofFound (← find line.config) with
    | .error e =>
      complain line.config e.message?
      return false
    | .ok config =>
      match config.conditionRegistry with
      | .error e =>
        complain line.config (some e.message)
        return false
      | .ok conditions =>
        watch config ⟨config.format, .empty, conditions⟩ .initial true
        return true

end Rollout.Program

/-- Ends with the status zero only if all went well. -/
def main (arguments : List String) : IO UInt32 := do
  match Rollout.CommandLine.read arguments with
  | .error .help =>
    IO.print Rollout.Program.help
    return 0
  | .error .usage =>
    IO.eprint Rollout.Program.help
    return 2
  | .ok line => return if ← Rollout.Program.perform line then 0 else 1
