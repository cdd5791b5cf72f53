import TradeSpeech.Proofs.Conversation.Replies

/-! # Tallies, replies and outcomes

What became of the lines of a text is told twice over, by the numbers of a tally and by a reply
for each line. Both agree with the outcomes, and the replies with the sessions that the lines
were heard in. -/

namespace TradeSpeech

open Sentence (Kind PriceQuestion)

/-! ## Tallies -/

namespace Outcome

def isAnswered : Outcome → Bool
  | answered .. => true
  | _ => false

def isRejected : Outcome → Bool
  | rejected .. => true
  | _ => false

def isUnrecognized : Outcome → Bool
  | unrecognized => true
  | _ => false

def isFault : Outcome → Bool
  | fault .. => true
  | _ => false

end Outcome

namespace Transcript

theorem foldl_count (transcript : Transcript) (tally : Tally) :
    transcript.foldl (fun tally entry => tally.count entry.outcome) tally =
      { answered := tally.answered + transcript.countP (·.outcome.isAnswered)
        rejected := tally.rejected + transcript.countP (·.outcome.isRejected)
        unrecognized := tally.unrecognized + transcript.countP (·.outcome.isUnrecognized)
        faults := tally.faults + transcript.countP (·.outcome.isFault) } := by
  induction transcript generalizing tally with
  | nil => rfl
  | cons entry transcript induction =>
      rw [List.foldl_cons, induction]
      cases outcome : entry.outcome <;>
        simp [Tally.count, outcome, Outcome.isAnswered, Outcome.isRejected,
          Outcome.isUnrecognized, Outcome.isFault, Nat.add_assoc, Nat.add_comm 1]

theorem tally_eq (transcript : Transcript) :
    transcript.tally =
      { answered := transcript.countP (·.outcome.isAnswered)
        rejected := transcript.countP (·.outcome.isRejected)
        unrecognized := transcript.countP (·.outcome.isUnrecognized)
        faults := transcript.countP (·.outcome.isFault) } := by
  rw [tally, foldl_count]
  simp [Tally.zero]

theorem sum_tally (transcript : Transcript) :
    transcript.tally.answered + transcript.tally.rejected + transcript.tally.unrecognized +
      transcript.tally.faults = transcript.length := by
  have once : ∀ outcome : Outcome, (if outcome.isAnswered = true then 1 else 0) +
      (if outcome.isRejected = true then 1 else 0) +
      (if outcome.isUnrecognized = true then 1 else 0) +
      (if outcome.isFault = true then 1 else 0) = 1 := by
    intro outcome
    cases outcome <;> rfl
  rw [tally_eq]
  induction transcript with
  | nil => rfl
  | cons entry transcript induction =>
      have one := once entry.outcome
      simp only [List.countP_cons, List.length_cons] at induction ⊢
      omega

theorem countP_status_replies (transcript : Transcript) :
    transcript.replies.countP Reply.status =
      transcript.tally.answered + transcript.tally.rejected := by
  have understood : ∀ outcome : Outcome, (if outcome.reply.status = true then 1 else 0) =
      (if outcome.isAnswered = true then 1 else 0) +
        if outcome.isRejected = true then 1 else 0 := by
    intro outcome
    cases outcome <;> rfl
  rw [tally_eq, replies]
  induction transcript with
  | nil => rfl
  | cons entry transcript induction =>
      have here := understood entry.outcome
      simp only [List.map_cons, List.countP_cons] at induction ⊢
      omega

end Transcript

/-! ## Replies -/

theorem Error.friendlyMessage_eq_iff {error : Error} {item : String} :
    error.friendlyMessage = "I don't know the price of " ++ item ↔
      error = .unknownItem item := by
  constructor
  · intro told
    -- The other texts part from this one within three letters.
    have letters := congrArg (fun text => text.toList.take 3) told
    unfold friendlyMessage at letters
    cases error with
    | unknownItem other =>
        have texts : "I don't know the price of " ++ other =
            "I don't know the price of " ++ item := told
        rw [(String.append_right_inj _).mp texts]
    | _ => simp [notUnderstood] at letters
  · rintro rfl
    rfl

inductive IsRefusalText : String → Prop
  | quantity :
      IsRefusalText "The quantity is not in the correct format, please adjust the instruction"
  | symbol : IsRefusalText "Please specify a single Roman numeral"
  | item (item : String) : IsRefusalText ("I don't know the price of " ++ item)

/-- The line asks what some units of an item cost, where the quantity can be named and the item
has no price. -/
def AsksForUnpriced (session : Session) (line item : String) : Prop :=
  ∃ sentence numeral, PriceQuestion.read? line = some sentence ∧ sentence.item = item ∧
    numeralOf? session.aliases.lookup sentence.quantity = some numeral ∧
    session.prices.lookup item = none

structure Reply.Tells (reply : Reply) (session : Session) (entry : Entry) : Prop where
  status : reply.status = true ↔ entry.outcome.isHandled = true
  silence : reply.message = none ↔ entry.outcome.isAnsweredDefinition = true
  misunderstanding : reply.status = false → reply.message = some notUnderstood
  refusal : entry.outcome.isRejected = true →
    ∃ text, reply.message = some text ∧ IsRefusalText text
  unpriced : ∀ item, entry.outcome.isRejected = true ∧
    reply.message = some ("I don't know the price of " ++ item) ↔
      AsksForUnpriced session entry.line item

namespace Hearing

variable {session next : Session} {line : String} {outcome : Outcome}

theorem exists_refusalText (hearing : Hearing session line next outcome)
    (rejected : outcome.isRejected = true) :
    ∃ text, outcome.reply.message = some text ∧ IsRefusalText text := by
  cases hearing with
  | tokenRefused => exact ⟨_, rfl, .symbol⟩
  | priceRefused _ quantity | valueRefused _ quantity | totalRefused _ quantity =>
      refine ⟨_, rfl, ?_⟩
      rw [Session.friendlyMessage_of_quantity quantity]
      exact .quantity
  | itemUnknown => exact ⟨_, rfl, .item _⟩
  | _ => cases rejected

theorem rejected_unknownItem_iff {item : String} (hearing : Hearing session line next outcome) :
    (∃ kind, outcome = .rejected kind (.unknownItem item)) ↔ AsksForUnpriced session line item := by
  constructor
  · intro rejected
    rcases rejected with ⟨kind, rejected⟩
    cases hearing with
    | priceRefused _ quantity | valueRefused _ quantity | totalRefused _ quantity =>
        cases rejected
        rcases Session.cause_of_quantity quantity with ⟨word, other⟩ | ⟨numeral, fault, other⟩ <;>
          cases other
    | itemUnknown read quantity unknown =>
        cases rejected
        exact ⟨_, _, read, rfl, Session.quantity_eq_ok_iff.mp quantity, unknown⟩
    | _ => cases rejected
  · intro asks
    rcases asks with ⟨sentence, numeral, read, rfl, spelled, unknown⟩
    have quantity := Session.quantity_eq_ok_iff.mpr spelled
    have heard := (Hearing.itemUnknown read quantity unknown).hear_eq
    rw [hearing.hear_eq] at heard
    cases heard
    exact ⟨.queryPrice, rfl⟩

theorem tells {entry : Entry} (hearing : Hearing session entry.line next entry.outcome) :
    entry.outcome.reply.Tells session entry where
  status := by cases entry.outcome <;> simp [Outcome.reply, Outcome.isHandled]
  silence := hearing.message_eq_none_iff_isAnsweredDefinition
  misunderstanding := by cases entry.outcome <;> simp [Outcome.reply]
  refusal := hearing.exists_refusalText
  unpriced := by
    intro item
    rw [← hearing.rejected_unknownItem_iff]
    cases entry.outcome with
    | rejected kind error =>
        simp [Outcome.isRejected, Outcome.reply, Error.friendlyMessage_eq_iff]
    | _ => simp [Outcome.isRejected]

end Hearing

/-- A tally counts each outcome on its own, and together as many lines as the text has that are
not blank. There is a reply for each line, and as many tell that the speaker was understood as
lines were answered or rejected. Each reply tells of its line whether it was understood; it is
silent for a definition that was acted on and for nothing else; it is the one text of what was not
understood, or, for a line that was rejected, one of three, of which the one about an item answers
just the questions for the price of an item without one, in the session as the lines before left
it. -/
theorem tally_and_replies_agree_with_outcomes (session : Session) (text : String) :
    let transcript := (hearText Rule.standard session text).2
    transcript.tally =
        { answered := transcript.countP (·.outcome.isAnswered)
          rejected := transcript.countP (·.outcome.isRejected)
          unrecognized := transcript.countP (·.outcome.isUnrecognized)
          faults := transcript.countP (·.outcome.isFault) } ∧
      transcript.tally.answered + transcript.tally.rejected + transcript.tally.unrecognized +
          transcript.tally.faults = (text.toList.splitOn '\n').countP Text.isSpoken ∧
      transcript.replies.countP Reply.status =
        transcript.tally.answered + transcript.tally.rejected ∧
      transcript.replies.length = transcript.length ∧
      ∀ (place : Nat) (entry : Entry), transcript[place]? = some entry →
        ∃ reply, transcript.replies[place]? = some reply ∧
          reply.Tells (stateAfter (hear Rule.standard) session
            ((transcript.take place).map Entry.line)) entry := by
  intro transcript
  have lines : transcript.map Entry.line = Text.spokenLines text :=
    map_line_hearLines (hear Rule.standard) session _
  refine ⟨transcript.tally_eq, ?_, transcript.countP_status_replies, ?_, ?_⟩
  · rw [transcript.sum_tally, ← List.length_map Entry.line, lines, Text.spokenLines_eq,
      List.length_map, List.length_map, List.countP_eq_length_filter]
  · rw [Transcript.replies, List.length_map]
  · intro place entry found
    refine ⟨entry.outcome.reply, ?_, ?_⟩
    · rw [Transcript.replies, List.getElem?_map, found, Option.map_some]
    · rw [List.map_take, lines]
      have hearing := hearing_hear
        (stateAfter (hear Rule.standard) session ((Text.spokenLines text).take place)) entry.line
      rw [← outcome_of_getElem?_hearLines found] at hearing
      exact hearing.tells

/-- The item is asked for behind a definition and a blank line. -/
theorem tally_and_replies_agree_with_outcomes_at_unknown_item :
    let transcript := (hearText Rule.standard ∅
      "glob is I\n\u3000\nhow many Credits is glob Silver ?\nglob glob").2
    let entry : Entry :=
      ⟨"how many Credits is glob Silver ?", .rejected .queryPrice (.unknownItem "Silver")⟩
    transcript[1]? = some entry ∧ ∃ reply, transcript.replies[1]? = some reply ∧
      reply.Tells (stateAfter (hear Rule.standard) ∅ ((transcript.take 1).map Entry.line))
        entry := by
  intro transcript entry
  have found : transcript[1]? = some entry := by decide +kernel
  exact ⟨found, (tally_and_replies_agree_with_outcomes ∅ _).2.2.2.2 1 entry found⟩

end TradeSpeech
