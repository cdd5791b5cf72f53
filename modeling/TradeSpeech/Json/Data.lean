import TradeSpeech.Json.Reader
import TradeSpeech.Numeral.Symbol
import TradeSpeech.Outcome
import TradeSpeech.Rendering.Format

/-! Tags and replies as JSON data. -/

namespace TradeSpeech.Json

def tagged? (ofTag? : String → Option α) : Value → Option α
  | .string (some tag) => ofTag? tag
  | .object [(some tag, .null)] => ofTag? tag
  | _ => none

def kind? : Value → Option Sentence.Kind :=
  tagged? Sentence.Kind.ofTag?

def format? : Value → Option Format :=
  tagged? Format.ofTag?

def symbol? : Value → Option Symbol :=
  tagged? fun tag => Symbol.all.find? fun symbol => symbol.name == tag

def message? : Value → Option (Option String)
  | .null => some none
  | .string (some text) => some (some text)
  | _ => none

def status? : Value → Option Bool
  | .boolean status => some status
  | _ => none

def onlyMember? (name : String) (members : List (Option String × Value)) : Option Value :=
  match members.filter fun member => member.1 == some name with
  | [member] => some member.2
  | _ => none

/-- A reply: its status and message in this order, or an object with a status
and possibly a message, each named once, among members of other names. -/
def reply? : Value → Option Reply
  | .array [status, message] => do
    return ⟨← status? status, ← message? message⟩
  | .object members => do
    if members.any fun member => member.1.isNone then none
    let status ← status? (← onlyMember? "status" members)
    if members.any fun member => member.1 == some "message" then
      return ⟨status, ← message? (← onlyMember? "message" members)⟩
    else
      return ⟨status, none⟩
  | _ => none

end TradeSpeech.Json
