import Compositor.Probe.Basic

namespace Compositor.Main

open Host (ReadError)

def readError : IO.Error → ReadError
  | .noFileOrDirectory .. => .notFound
  | .permissionDenied .. => .permissionDenied
  | .inappropriateType .. => .notDirectory
  | error => .other (toString error)

def readFile (path : String) : IO (Except ReadError ByteArray) := do
  try
    return .ok (← IO.FS.readBinFile path)
  catch error =>
    return .error (readError error)

def load (path : String) : IO (Except SettingsError Settings) := do
  match Host.Path.expandHome (← IO.getEnv "HOME") path with
  | none => return .error .homeUnknown
  | some path => return Settings.ofContent path (← readFile path)

def finish (outcome : Probe.Outcome) (notices : List Probe.Notice) : IO UInt32 := do
  for notice in notices do
    IO.eprintln ("[" ++ notice.level.name ++ "] " ++ notice.text)
  IO.print outcome.output
  if let some line := outcome.errorLine? then
    IO.eprintln line
  return outcome.exitCode

def run (arguments : List String) : IO UInt32 := do
  match CommandLine.Options.ofArguments arguments with
  | .error reason => finish (Probe.stop reason) []
  | .ok options =>
    let loaded ← load options.config
    let surroundings := Probe.Surroundings.withoutDisplay (← IO.getEnv "RUST_LOG")
    let (outcome, notices) := surroundings.start options loaded
    finish outcome notices

end Compositor.Main

def main (arguments : List String) : IO UInt32 := Compositor.Main.run arguments
