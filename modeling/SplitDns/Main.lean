import SplitDns.Cli.Run
/-!
# The program

Reads the files a run needs (the configuration file named on the command line and the domestic
table that configuration names), runs the program on them, prints its output and exits with its
status. A forwarder that serves keeps running until its standard input ends, which stands for
the interrupt, and then prints its shutdown lines.
-/

namespace SplitDns.Cli

/-- The text of a file, if it can be read. -/
def readIfThere (path : String) : IO (Option String) := do
  try
    let text ← IO.FS.readFile path
    pure (some text)
  catch _ => pure none

/-- Reads standard input to its end. -/
partial def drain (stdin : IO.FS.Stream) : IO Unit := do
  let line ← stdin.getLine
  if line.isEmpty then pure () else drain stdin

/-- The configuration file a command line names. -/
def configPath (args : List String) : Option String :=
  match read args with
  | .ok o => o.config
  | .error _ => none

/-- The domestic table file the configuration of a command line names. -/
def tablePath (files : String → Option String) (args : List String) : Option String :=
  match read args with
  | .ok o =>
    match Config.load files o.config o.overrides with
    | .ok c => c.classifier.chinaIpList
    | .error _ => none
  | .error _ => none

end SplitDns.Cli

open SplitDns.Cli in
/-- Runs the program with its arguments. -/
def main (args : List String) : IO UInt32 := do
  let cfg := configPath args
  let cfgText ← match cfg with
    | some p => readIfThere p
    | none => pure none
  let first : String → Option String := fun q => if some q = cfg then cfgText else none
  let table := tablePath first args
  let tableText ← match table with
    | some p => readIfThere p
    | none => pure none
  let files : String → Option String := fun q =>
    if some q = cfg then cfgText else if some q = table then tableText else none
  let exit := launch { files, bind := fun _ _ => none } args
  for line in exit.stdout do
    IO.println line
  IO.eprint exit.stderr
  if exit.served then
    drain (← IO.getStdin)
    for line in exit.afterInterrupt do
      IO.println line
  pure exit.code.toUInt32
