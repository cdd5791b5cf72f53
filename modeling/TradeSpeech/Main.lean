import TradeSpeech.CommandLine.Run

/-! The program: it gathers what a run needs, and prints what the run leaves. -/

namespace TradeSpeech.CommandLine

def readFile? (path : String) : IO (Option ByteArray) := do
  try
    return some (← IO.FS.readBinFile path)
  catch _ =>
    return none

def readFiles (options : Options) : IO (List (String × Option ByteArray)) :=
  ([options.settings, options.input].filterMap id).mapM fun path => do
    return (path, ← readFile? path)

def readVariables (document : Option ByteArray) : IO (List (String × Option String)) := do
  match document.bind String.fromUTF8? with
  | none => return []
  | some text =>
    (Placeholder.names text.toList).mapM fun name => do
      return (name, ← IO.getEnv name)

/-- Gathers the surroundings of a run. Standard input is read last, and only
when it is wanted and the settings are usable. -/
def gather (options : Options) : IO Surroundings := do
  let files ← readFiles options
  let file path := (files.lookup path).join
  let values ← readVariables (options.settings.bind file)
  let surroundings : Surroundings := {
    environment := fun name => (values.lookup name).join
    file
    standardInput := ByteArray.empty }
  match surroundings.settings options.settings, options.input with
  | .ok _, none => return { surroundings with standardInput := ← (← IO.getStdin).readBinToEnd }
  | _, _ => return surroundings

def finish (left : Exit) : IO UInt32 := do
  IO.print left.output
  match left.notice with
  | some notice => IO.eprintln notice
  | none => pure ()
  return left.code.toUInt32

end TradeSpeech.CommandLine

open TradeSpeech.CommandLine in
def main (arguments : List String) : IO UInt32 := do
  match Options.read arguments with
  | .error refusal => finish (refuse refusal)
  | .ok options => finish (run (← gather options) options)
