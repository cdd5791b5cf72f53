import TradeSpeech.SharedSession

/-! # A session that is shared

As long as nobody fails while they hold it, a shared session serves every request as
the session itself would. From the first failure on it refuses whatever is asked of it,
and a text is still answered line by line. -/

namespace TradeSpeech

/-! ## Requests -/

inductive Request : Type (u + 1)
  | line (rules : List Rule) (line : String)
  | text (rules : List Rule) (text : String)
  | action {α : Type u} (action : Session → Session × α)
  | copy

inductive Response : Type (u + 1)
  | outcome (outcome : Outcome)
  | transcript (transcript : Transcript)
  | result {α : Type u} (result : Except Error α)
  | session (session : Except Error Session)

/-- What happens to a session that is shared: someone makes a request, or fails while
they hold the session. A request that fails on the way does not come back. -/
inductive Event : Type (u + 1)
  | request (request : Request.{u})
  | failure

def Session.serve (session : Session) : Request → Session × Response
  | .line rules line => (TradeSpeech.hear rules session line).map id .outcome
  | .text rules text => (TradeSpeech.hearText rules session text).map id .transcript
  | .action action => (action session).map id fun result => .result (.ok result)
  | .copy => (session, .session (.ok session))

namespace SharedSession

def serve (shared : SharedSession) : Request → SharedSession × Response
  | .line rules line => (hear rules shared line).map id .outcome
  | .text rules text => (hearText rules shared text).map id .transcript
  | .action action => (use action shared).map id .result
  | .copy => (shared, .session shared.snapshot)

def undergo (shared : SharedSession) : Event → SharedSession × Option Response
  | .request request => (shared.serve request).map id some
  | .failure => (shared.poison, none)

end SharedSession

def Request.refusal : Request → Response
  | .line _ _ => .outcome (.fault none .sessionPoisoned)
  | .text _ said =>
    .transcript ((Text.spokenLines said).map fun line => ⟨line, .fault none .sessionPoisoned⟩)
  | .action (α := α) _ => .result (.error .sessionPoisoned : Except Error α)
  | .copy => .session (.error .sessionPoisoned)

def Event.refusal : Event → Option Response
  | .request asked => some asked.refusal
  | .failure => none

def inTurn (step : σ → ε → σ × ρ) : σ → List ε → σ × List ρ
  | state, [] => (state, [])
  | state, event :: events =>
    let (next, response) := step state event
    let (final, responses) := inTurn step next events
    (final, response :: responses)

theorem inTurn_append (step : σ → ε → σ × ρ) (state : σ) (events more : List ε) :
    inTurn step state (events ++ more) =
      ((inTurn step (inTurn step state events).1 more).1,
        (inTurn step state events).2 ++ (inTurn step (inTurn step state events).1 more).2) := by
  induction events generalizing state with
  | nil => rfl
  | cons event events induction => simp [inTurn, induction]

namespace SharedSession

/-! ## One request -/

theorem hear_sound (rules : List Rule) (session : Session) (line : String) :
    hear rules (.sound session) line =
      (.sound (TradeSpeech.hear rules session line).1,
        (TradeSpeech.hear rules session line).2) := rfl

theorem hear_poisoned (rules : List Rule) (line : String) :
    hear rules .poisoned line = (.poisoned, .fault none .sessionPoisoned) := rfl

theorem hearLines_sound (rules : List Rule) (session : Session) (lines : List String) :
    hearLines (hear rules) (.sound session) lines =
      (.sound (hearLines (TradeSpeech.hear rules) session lines).1,
        (hearLines (TradeSpeech.hear rules) session lines).2) := by
  induction lines generalizing session with
  | nil => rfl
  | cons line lines induction =>
      rw [hearLines, hear_sound]
      simp only [induction]
      rfl

theorem hearLines_poisoned (rules : List Rule) (lines : List String) :
    hearLines (hear rules) .poisoned lines =
      (.poisoned, lines.map fun line => ⟨line, .fault none .sessionPoisoned⟩) := by
  induction lines with
  | nil => rfl
  | cons line lines induction =>
      rw [hearLines, hear_poisoned]
      simp only [induction]
      rfl

theorem serve_sound (session : Session) (request : Request) :
    (sound session).serve request =
      (.sound (session.serve request).1, (session.serve request).2) := by
  cases request with
  | line => rfl
  | text rules text =>
      rw [serve, hearText, hearLines_sound]
      rfl
  | action => rfl
  | copy => rfl

theorem serve_poisoned (request : Request) :
    poisoned.serve request = (.poisoned, request.refusal) := by
  cases request with
  | line => rfl
  | text rules text =>
      rw [serve, hearText, hearLines_poisoned]
      rfl
  | action => rfl
  | copy => rfl

/-! ## Requests in turn -/

theorem inTurn_sound (session : Session) (requests : List Request) :
    inTurn serve (.sound session) requests =
      (.sound (inTurn Session.serve session requests).1,
        (inTurn Session.serve session requests).2) := by
  induction requests generalizing session with
  | nil => rfl
  | cons request requests induction =>
      rw [inTurn, serve_sound]
      simp only [induction]
      rfl

theorem inTurn_poisoned (events : List Event) :
    inTurn undergo .poisoned events = (.poisoned, events.map Event.refusal) := by
  induction events with
  | nil => rfl
  | cons event events induction =>
      have refused : poisoned.undergo event = (.poisoned, event.refusal) := by
        cases event with
        | request request =>
            rw [undergo, serve_poisoned]
            rfl
        | failure => rfl
      rw [inTurn, refused]
      simp only [induction]
      rfl

end SharedSession

/-- A text said to a sound shared session is heard as by the session itself, and the copy
taken afterwards is what that hearing leaves; the same goes for requests of all kinds in
any order. After a failure every request is refused, whatever happened before. -/
theorem shared_session_serves_until_failure :
    (∀ (rules : List Rule) (session : Session) (text : String),
      (SharedSession.hearText rules (.sound session) text).2 = (hearText rules session text).2 ∧
      (SharedSession.hearText rules (.sound session) text).1.snapshot =
        .ok (hearText rules session text).1) ∧
    (∀ (session : Session) (requests : List Request),
      inTurn SharedSession.serve (.sound session) requests =
        (.sound (inTurn Session.serve session requests).1,
          (inTurn Session.serve session requests).2)) ∧
    ∀ (shared : SharedSession) (before later : List Event),
      inTurn SharedSession.undergo shared (before ++ .failure :: later) =
        (.poisoned, (inTurn SharedSession.undergo shared before).2 ++
          none :: later.map Event.refusal) := by
  refine ⟨?_, SharedSession.inTurn_sound, ?_⟩
  · intro rules session text
    rw [SharedSession.hearText, SharedSession.hearLines_sound]
    exact ⟨rfl, rfl⟩
  · intro shared before later
    rw [inTurn_append, inTurn]
    simp only [SharedSession.undergo, SharedSession.poison, SharedSession.inTurn_poisoned]

end TradeSpeech
