import Acquisition.Tool.Run
/-! The command line of the acquisition tool, run on the simulated machine in an empty working
directory. -/
open Acquisition

partial def readToEnd (stream : IO.FS.Stream) (read : String) : IO String := do
  let line ← stream.getLine
  if line.isEmpty then pure read else readToEnd stream (read ++ line)

def main (args : List String) : IO UInt32 := do
  let input ← readToEnd (← IO.getStdin) ""
  let (code, world) := Tool.run args { input := input.toList }
  let out ← IO.getStdout
  out.putStr world.stdout
  out.flush
  let err ← IO.getStderr
  err.putStr world.errors
  err.flush
  pure code.toUInt32
