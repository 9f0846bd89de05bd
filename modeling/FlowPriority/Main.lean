import FlowPriority.Flow.Hasher
import FlowPriority.Incast

/-!
The incast run as a program that keeps no log. Its arguments are a profile and a scoring exponent.
-/

def main (arguments : List String) : IO UInt32 := do
  let output := FlowPriority.Incast.program (fun _ => "") .rotating arguments
  (← IO.getStdout).putStr output.stdout
  (← IO.getStderr).putStr output.stderr
  return output.exitCode
