import TradeSpeech.CommandLine.Options
import TradeSpeech.Conversation
import TradeSpeech.Settings.Document

/-! One run of the program: settings are read and checked, the session they
describe hears the input, and the transcript is presented. -/

namespace TradeSpeech.CommandLine

structure Surroundings where
  environment : String → Option String
  /-- the bytes of the file at a path, if it can be read -/
  file : String → Option ByteArray
  standardInput : ByteArray

structure Exit where
  code : UInt8
  output : String
  notice : Option String
  deriving DecidableEq, Repr

def unreadable : Error :=
  .inputOutput "the content cannot be read as text"

def textOf (content : Option ByteArray) : Except Error String :=
  match content.bind String.fromUTF8? with
  | some text => .ok text
  | none => .error unreadable

namespace Surroundings

def settings (surroundings : Surroundings) (path : Option String) : Except Error Settings :=
  let found : Except Error Settings :=
    match path with
    | none => .ok {}
    | some path =>
      match textOf (surroundings.file path) with
      | .ok document => Settings.parse surroundings.environment document
      | .error error => .error error
  match found with
  | .error error => .error error
  | .ok settings =>
    match settings.validate with
    | .ok () => .ok settings
    | .error error => .error error

def input (surroundings : Surroundings) (path : Option String) : Except Error String :=
  match path with
  | some path => textOf (surroundings.file path)
  | none => textOf (some surroundings.standardInput)

end Surroundings

inductive Failure
  /-- The settings cannot be read, are no settings, or are refused. -/
  | settings (error : Error)
  /-- The settings start no session. -/
  | session (error : Error)
  | input (error : Error)
  | rendering (error : Error)
  deriving DecidableEq, Repr

def present (surroundings : Surroundings) (options : Options) : Except Failure String :=
  match surroundings.settings options.settings with
  | .error error => .error (.settings error)
  | .ok settings =>
    match Session.ofSettings settings with
    | .error error => .error (.session error)
    | .ok session =>
      match surroundings.input options.input with
      | .error error => .error (.input error)
      | .ok text =>
        let transcript := (hearText Rule.standard session text).2
        match (options.format.getD settings.format).present settings.separator transcript with
        | .error error => .error (.rendering error)
        | .ok output => .ok output

def noticeOf : Failure → String
  | .settings error | .session error | .input error => "❌ " ++ error.friendlyMessage
  | .rendering error => "Error: rendering results\n\nCaused by:\n    " ++ error.message

def run (surroundings : Surroundings) (options : Options) : Exit :=
  match present surroundings options with
  | .ok output => ⟨0, output, none⟩
  | .error failure => ⟨1, "", some (noticeOf failure)⟩

def usage : String :=
  "Answers questions about alien numerals and trade prices\n\n" ++
  "Options:\n" ++
  "  -i, --input <INPUT>    File with one command per line (standard input when omitted)\n" ++
  "  -c, --config <CONFIG>  TOML file with output settings, aliases and prices\n" ++
  "  -f, --format <FORMAT>  Output format: text, json, csv or tsv\n" ++
  "  -v, --verbose          Enable verbose output\n" ++
  "      --json-logs        Emit logs as JSON lines\n" ++
  "  -h, --help             Print help\n"

def refuse : Refusal → Exit
  | .usage => ⟨2, "", none⟩
  | .helpWanted => ⟨0, usage, none⟩

def runArguments (surroundings : Surroundings) (arguments : List String) : Exit :=
  match Options.read arguments with
  | .ok options => run surroundings options
  | .error refusal => refuse refusal

end TradeSpeech.CommandLine
