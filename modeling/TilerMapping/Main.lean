/-
Module: TilerMapping.Main
Purpose: The command line.
Main exports: main
-/
import TilerMapping.CommandLine

open TilerMapping

/-- Run the command on the arguments and leave with its exit code. -/
def main (arguments : List String) : IO UInt32 := do
  let output := CommandLine.runAbsent arguments
  (← IO.getStdout).putStr output.stdout
  (← IO.getStderr).putStr output.stderr
  return output.exit
