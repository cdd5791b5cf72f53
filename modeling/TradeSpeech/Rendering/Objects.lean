import TradeSpeech.Json.Writer
import TradeSpeech.Rendering.Row

/-! Transcripts as a JSON array with one object for each line, laid out with two
blanks for each level. -/

namespace TradeSpeech.Rendering

def object (row : Row) : String :=
  "  \x7b\n    \"line\": " ++ Json.quoted row.line ++
    ",\n    \"status\": " ++ statusText row.status ++
    ",\n    \"message\": " ++ Json.quoted row.message ++ "\n  \x7d"

def objects (transcript : Transcript) : String :=
  match rows transcript with
  | [] => "[]\n"
  | first :: rest =>
    "[\n" ++ object first ++ String.join (rest.map fun row => ",\n" ++ object row) ++ "\n]\n"

example : objects [⟨"glob is I", .answered .defineAlias none⟩] =
    "[\n  \x7b\n    \"line\": \"glob is I\",\n    \"status\": true,\n    \"message\": \"\"\n" ++
      "  \x7d\n]\n" := by decide

end TradeSpeech.Rendering
