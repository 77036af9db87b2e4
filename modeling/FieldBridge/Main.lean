/-
  The command line: a dry run of a bridge.

  Reads the configuration from the environment, starts a bridge over the in-process server, shuts it down
  and shows what it logged.  An invalid configuration is an error.
-/

import FieldBridge.Bridge.Lifecycle

open FieldBridge

/-- One line of the log. -/
def Notice.line (n : Notice) : String :=
  n.fields.foldl (fun line f => line ++ " " ++ f.1 ++ "=" ++ f.2) (n.level.name ++ " " ++ n.message)

/-- The variables that the environment holds. -/
def environment : IO (List (String × String)) :=
  Config.Variable.all.filterMapM fun v => do
    return (← IO.getEnv v.name).map (v.name, ·)

/-- Start a bridge and shut it down; gives what was logged and the first error. -/
def dryRun (b : Bridge) : List Notice × Except Bridge.Error Unit :=
  match b.start with
  | (.error e, b) => (b.notices.reverse, .error e)
  | (.ok (), b) =>
    let (answer, b) := b.settle.shutdown
    (b.notices.reverse, answer)

/-- The exit code, after the error has been shown. -/
def refuse (message : String) : IO UInt32 := do
  IO.eprintln ("Error: " ++ message)
  return 1

def main : IO UInt32 := do
  let settings ← environment
  match Config.load fun name => settings.lookup name with
  | .error e => refuse e.message
  | .ok config => match Bridge.ofConfig config with
    | .error e => refuse e.message
    | .ok b =>
      let (notices, answer) := dryRun b
      notices.forM fun n => IO.println (Notice.line n)
      match answer with
      | .ok () => return 0
      | .error e => refuse e.message
