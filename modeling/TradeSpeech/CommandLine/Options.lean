import TradeSpeech.Foundation.Except
import TradeSpeech.Rendering.Format

/-! The options of the command line. -/

namespace TradeSpeech.CommandLine

structure Options where
  input : Option String := none
  settings : Option String := none
  format : Option Format := none
  verbose : Bool := false
  jsonLogs : Bool := false
  deriving DecidableEq, Repr

inductive Name
  | input
  | settings
  | format
  | verbose
  | jsonLogs
  | help
  deriving DecidableEq, Repr

namespace Name

def takesValue : Name → Bool
  | input | settings | format => true
  | verbose | jsonLogs | help => false

def ofLong? : String → Option Name
  | "input" => some input
  | "config" => some settings
  | "format" => some format
  | "verbose" => some verbose
  | "json-logs" => some jsonLogs
  | "help" => some help
  | _ => none

def ofShort? : Char → Option Name
  | 'i' => some input
  | 'c' => some settings
  | 'f' => some format
  | 'v' => some verbose
  | 'h' => some help
  | _ => none

end Name

inductive Refusal
  | usage
  | helpWanted
  deriving DecidableEq, Repr

namespace Options

def set (options : Options) (value : String) : Name → Except Refusal Options
  | .input =>
    if options.input.isSome then .error .usage else .ok { options with input := some value }
  | .settings =>
    if options.settings.isSome then .error .usage
    else .ok { options with settings := some value }
  | .format =>
    if options.format.isSome then .error .usage
    else
      match Format.ofTag? value with
      | some format => .ok { options with format := some format }
      | none => .error .usage
  | .verbose | .jsonLogs | .help => .error .usage

def switch (options : Options) : Name → Except Refusal Options
  | .verbose => if options.verbose then .error .usage else .ok { options with verbose := true }
  | .jsonLogs =>
    if options.jsonLogs then .error .usage else .ok { options with jsonLogs := true }
  | .help => .error .helpWanted
  | .input | .settings | .format => .error .usage

end Options

/-- How far the arguments have been read. An option that takes a value waits for
the next argument, and two hyphens end the options. -/
inductive Reading
  | ready (options : Options)
  | waiting (options : Options) (name : Name)
  | ended (options : Options)
  deriving DecidableEq, Repr

def readLong (options : Options) (text : List Char) : Except Refusal Reading :=
  let (written, tail) := text.span (· != '=')
  match Name.ofLong? (String.ofList written), tail with
  | none, _ => .error .usage
  | some name, _ :: value =>
    if name.takesValue then (options.set (String.ofList value) name).map .ready
    else .error .usage
  | some name, [] =>
    if name.takesValue then .ok (.waiting options name)
    else (options.switch name).map .ready

/-- Reads the letters of an argument that starts with one hyphen. The value of
an option may follow its letter directly, or after an equals sign. -/
def readShort (options : Options) : List Char → Except Refusal Reading
  | [] => .ok (.ready options)
  | letter :: rest =>
    match Name.ofShort? letter with
    | none => .error .usage
    | some name =>
      if name.takesValue then
        match rest with
        | [] => .ok (.waiting options name)
        | c :: value =>
          let value := if c = '=' then value else c :: value
          (options.set (String.ofList value) name).map .ready
      else
        match options.switch name with
        | .ok options => readShort options rest
        | .error refusal => .error refusal

namespace Reading

/-- Whether an argument would be read as an option, so that it cannot be the
value of the option before it. A hyphen on its own is a value. -/
def isOption (argument : String) : Bool :=
  match argument.toList with
  | '-' :: _ :: _ => true
  | _ => false

def next (reading : Reading) (argument : String) : Except Refusal Reading :=
  match reading with
  | ready options =>
    match argument.toList with
    | ['-', '-'] => .ok (ended options)
    | '-' :: '-' :: text => readLong options text
    | '-' :: c :: text => readShort options (c :: text)
    | _ => .error .usage
  | waiting options name =>
    if isOption argument then .error .usage else (options.set argument name).map ready
  | ended _ => .error .usage

def finish : Reading → Except Refusal Options
  | ready options | ended options => .ok options
  | waiting .. => .error .usage

end Reading

def Options.read (arguments : List String) : Except Refusal Options := do
  (← arguments.foldlM Reading.next (.ready {})).finish

example : Options.read ["-vf", "json"] = .ok { format := some .json, verbose := true } := by
  decide

example : Options.read ["--format=csv", "-i", "-"] =
    .ok { format := some .csv, input := some "-" } := by decide

example : Options.read ["-f=tsv", "--"] = .ok { format := some .tsv } := by decide

example : Options.read ["-f", "--config", "x"] = .error .usage := by decide

end TradeSpeech.CommandLine
