import TradeSpeech.Outcome

/-! The rows that the tabular formats present. -/

namespace TradeSpeech.Rendering

/-- One line of a transcript as the tabular formats show it; silence is an empty
message. -/
structure Row where
  line : String
  status : Bool
  message : String
  deriving DecidableEq, Repr

def Row.ofEntry (entry : Entry) : Row :=
  let reply := entry.outcome.reply
  ⟨entry.line, reply.status, reply.message.getD ""⟩

def statusText (status : Bool) : String :=
  if status then "true" else "false"

def rows (transcript : Transcript) : List Row :=
  transcript.map Row.ofEntry

end TradeSpeech.Rendering
