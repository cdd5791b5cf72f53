import TradeSpeech.Outcome
import TradeSpeech.Rule

/-! Lines said one after the other. The first rule whose form a line has owns
the line, even when what the line says is then refused; and a line that fails
does not keep the next one from being heard. -/

namespace TradeSpeech

def hear : List Rule → Session → String → Session × Outcome
  | [], session, _ => (session, .unrecognized)
  | rule :: rules, session, line =>
    match rule.recognise line with
    | some action =>
      let (after, answer) := action session
      (after, .ofAnswer rule.kind answer)
    | none => hear rules session line

/-- Hears lines one after the other, where `hearLine` says what one line does to
the state that the lines share. -/
def hearLines (hearLine : σ → String → σ × Outcome) : σ → List String → σ × Transcript
  | state, [] => (state, [])
  | state, line :: lines =>
    let (next, outcome) := hearLine state line
    let (final, transcript) := hearLines hearLine next lines
    (final, ⟨line, outcome⟩ :: transcript)

def hearText (rules : List Rule) (session : Session) (text : String) : Session × Transcript :=
  hearLines (hear rules) session (Text.spokenLines text)

private def repliesTo (text : String) : List Reply :=
  (hearText Rule.standard ∅ text).2.replies

example : repliesTo "glob is I\nhow much is glob glob ?" =
    [⟨true, none⟩, ⟨true, some "glob glob is 2"⟩] := by decide +kernel

example : repliesTo "what is this" = [⟨false, some notUnderstood⟩] := by decide +kernel

end TradeSpeech
