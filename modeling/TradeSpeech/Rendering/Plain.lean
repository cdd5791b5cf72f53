import TradeSpeech.Outcome

/-! Transcripts as plain text, one line for each message. -/

namespace TradeSpeech.Rendering

def noContent : String := "No content, please enter instructions"

def heading : String := "Test Output:"

def plainLine? (separator : String) (entry : Entry) : Option String :=
  entry.outcome.reply.message.map fun message => entry.line ++ separator ++ message

def endLines (lines : List String) : String :=
  String.join (lines.map fun line => line ++ "\n")

def plain (separator : String) (transcript : Transcript) : String :=
  if transcript.isEmpty then endLines [noContent]
  else endLines (heading :: transcript.filterMap (plainLine? separator))

example : plain " -> " [⟨"glob is I", .answered .defineAlias none⟩, ⟨"hm", .unrecognized⟩] =
    "Test Output:\nhm -> I have no idea what you are talking about\n" := by decide

end TradeSpeech.Rendering
