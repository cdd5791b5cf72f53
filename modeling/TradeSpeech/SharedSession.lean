import TradeSpeech.Conversation

/-! A session that several speakers use in turn. Whoever uses it holds it for
the whole of a line. When someone fails while holding it, what it contains can
no longer be relied on, and every later use is refused. -/

namespace TradeSpeech

inductive SharedSession
  | sound (session : Session)
  | poisoned

namespace SharedSession

def use (action : Session → Session × α) : SharedSession → SharedSession × Except Error α
  | sound session =>
    let (after, result) := action session
    (.sound after, .ok result)
  | poisoned => (.poisoned, .error .sessionPoisoned)

def snapshot : SharedSession → Except Error Session
  | sound session => .ok session
  | poisoned => .error .sessionPoisoned

def poison (_ : SharedSession) : SharedSession :=
  .poisoned

/-- Hears one line. A session that cannot be used is a fault of no kind of
sentence. -/
def hear (rules : List Rule) (shared : SharedSession) (line : String) :
    SharedSession × Outcome :=
  match shared.use fun session => TradeSpeech.hear rules session line with
  | (after, .ok outcome) => (after, outcome)
  | (after, .error error) => (after, .fault none error)

def hearText (rules : List Rule) (shared : SharedSession) (text : String) :
    SharedSession × Transcript :=
  hearLines (hear rules) shared (Text.spokenLines text)

end SharedSession

end TradeSpeech
