import CompactHttp.CommandLine

/-! # The program

Reads what the command line needs from the machine, and prints what comes of it. The
program uses no network of its own.
-/

namespace CompactHttp.CommandLine

/-- Reads a file as text. -/
def readText (path : String) : IO (Except FileError String) := do
  try
    let data ← IO.FS.readBinFile path
    match String.fromUTF8? data with
    | some text => return .ok text
    | none => return .error .notText
  catch fault =>
    match fault with
    | .permissionDenied .. => return .error .denied
    | .inappropriateType .. => return .error .isDirectory
    | _ => return .error .notFound

/-- Does what arguments ask for on this machine, and gives the number to end with. -/
def runHere (arguments : List String) : IO UInt32 := do
  let usualConfig ← IO.getEnv "QH_CONFIG"
  let file ← match demand arguments with
    | .run (settings, _) => (settings.config <|> usualConfig).mapM readText
    | _ => pure none
  let machine : Machine Unit SocketAddress Empty :=
    { Machine.bare with
      fileAt := fun _ => file.getD (.error .notFound)
      usualConfig := usualConfig }
  let (outcome, _) := run machine () arguments
  IO.print outcome.output
  IO.eprint outcome.errorOutput
  return UInt32.ofNat outcome.exitCode

end CompactHttp.CommandLine

def main (arguments : List String) : IO UInt32 := CompactHttp.CommandLine.runHere arguments
