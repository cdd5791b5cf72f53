import TradeSpeech.Error
import TradeSpeech.Sentence.Forms

/-! What becomes of a line, and what the speaker gets to see of it. -/

namespace TradeSpeech

open Sentence (Kind)

inductive Outcome
  /-- The line was acted on; a definition is acknowledged without a message. -/
  | answered (kind : Kind) (message : Option String)
  /-- The line has a known form, but says something unusable. -/
  | rejected (kind : Kind) (error : Error)
  /-- The line has no known form. -/
  | unrecognized
  /-- The line could not be dealt with for a reason that is not the speaker's. -/
  | fault (kind : Option Kind) (error : Error)
  deriving DecidableEq, Repr

structure Reply where
  status : Bool
  message : Option String
  deriving DecidableEq, Repr

namespace Outcome

def ofAnswer (kind : Kind) : Except Error (Option String) → Outcome
  | .ok message => .answered kind message
  | .error error => if error.isUserFacing then .rejected kind error else .fault (some kind) error

def kind? : Outcome → Option Kind
  | answered kind _ | rejected kind _ => some kind
  | unrecognized => none
  | fault kind _ => kind

def isHandled : Outcome → Bool
  | answered .. | rejected .. => true
  | unrecognized | fault .. => false

def cause? : Outcome → Option Error
  | rejected _ error | fault _ error => some error
  | answered .. | unrecognized => none

def reply : Outcome → Reply
  | answered _ message => ⟨true, message⟩
  | rejected _ error => ⟨true, some error.friendlyMessage⟩
  | unrecognized | fault .. => ⟨false, some notUnderstood⟩

end Outcome

structure Tally where
  answered : Nat
  rejected : Nat
  unrecognized : Nat
  faults : Nat
  deriving DecidableEq, Repr

namespace Tally

def zero : Tally where
  answered := 0
  rejected := 0
  unrecognized := 0
  faults := 0

def count (tally : Tally) : Outcome → Tally
  | .answered .. => { tally with answered := tally.answered + 1 }
  | .rejected .. => { tally with rejected := tally.rejected + 1 }
  | .unrecognized => { tally with unrecognized := tally.unrecognized + 1 }
  | .fault .. => { tally with faults := tally.faults + 1 }

end Tally

structure Entry where
  line : String
  outcome : Outcome
  deriving DecidableEq, Repr

abbrev Transcript := List Entry

namespace Transcript

def replies (transcript : Transcript) : List Reply :=
  transcript.map fun entry => entry.outcome.reply

def tally (transcript : Transcript) : Tally :=
  transcript.foldl (fun tally entry => tally.count entry.outcome) Tally.zero

end Transcript

end TradeSpeech
