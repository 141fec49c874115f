import Tribase.Command.Outcome

/-!
# The program

Runs the command line: the log filter comes from the environment, the texts go to the standard
streams.
-/

open Tribase

/-- Prints the outcome of a run and hands on its exit code. -/
def main (args : List String) : IO UInt32 := do
  let outcome := run (← IO.getEnv "RUST_LOG") args
  IO.eprint outcome.err
  IO.print outcome.out
  return UInt32.ofNat outcome.code
