import Signpost.CommandLine
import Signpost.Sample.Routes

open Signpost

def main (words : List String) : IO UInt32 := do
  let (outcome, _) := CommandLine.run Sample.host Sample.modules words []
  match outcome.result with
  | .ok outcome =>
      IO.print outcome.stdout
      IO.eprint outcome.stderr
      pure (UInt32.ofNat outcome.code)
  | .error error =>
      IO.eprintln error.message
      pure 1
