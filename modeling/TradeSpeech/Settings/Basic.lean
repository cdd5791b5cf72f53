import Std.Data.ExtTreeMap
import TradeSpeech.Rendering.Format

/-! What a speaker may set before a conversation. -/

namespace TradeSpeech

/-- How transcripts are presented, and what a session starts with. Aliases and
prices are kept in the order of their names, case variants apart. -/
structure Settings where
  format : Format := .text
  separator : String := " -> "
  aliases : Std.ExtTreeMap String String := ∅
  prices : Std.ExtTreeMap String Float := ∅

end TradeSpeech
