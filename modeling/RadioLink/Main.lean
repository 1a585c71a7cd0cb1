import RadioLink.Cli.Execute
/-! The command line of the radio tool: runs it on the arguments against a host with no radio
attached, prints what it printed on each stream, and exits with its status. -/

/-- Runs the tool on the command line's arguments. -/
def main (args : List String) : IO UInt32 := do
  let t := RadioLink.Cli.execute {} args
  let out ← IO.getStdout
  let err ← IO.getStderr
  for l in t.stdout do out.putStrLn l
  for l in t.stderr do err.putStrLn l
  out.flush
  match t.ending with
  | .exit code => pure code.toUInt32
  | .stopped => pure 0
