import TradeSpeech.Proofs.Conversation.Batches
import TradeSpeech.Proofs.Conversation.Hearing

/-! # Replies

A line is never answered with an empty message. The speaker who hears nothing has defined
something, and a row without a message can be told from every other one. -/

namespace TradeSpeech

theorem Error.friendlyMessage_ne_empty (error : Error) : error.friendlyMessage ≠ "" := by
  unfold friendlyMessage
  split <;> simp [notUnderstood]

def Outcome.IsSilentDefinition (outcome : Outcome) : Prop :=
  outcome = .answered .defineAlias none ∨ outcome = .answered .definePrice none

def Outcome.isAnsweredDefinition : Outcome → Bool
  | answered .defineAlias _ | answered .definePrice _ => true
  | _ => false

namespace Hearing

variable {session next : Session} {line : String} {outcome : Outcome}

theorem message_ne_empty (hearing : Hearing session line next outcome) :
    outcome.reply.message ≠ some "" := by
  cases hearing <;> simp [Outcome.reply, Error.friendlyMessage_ne_empty, notUnderstood]

theorem message_eq_none_iff (hearing : Hearing session line next outcome) :
    outcome.reply.message = none ↔ outcome.IsSilentDefinition := by
  cases hearing <;> simp [Outcome.reply, Outcome.IsSilentDefinition]

theorem message_eq_none_iff_isAnsweredDefinition (hearing : Hearing session line next outcome) :
    outcome.reply.message = none ↔ outcome.isAnsweredDefinition = true := by
  cases hearing <;> simp [Outcome.reply, Outcome.isAnsweredDefinition]

end Hearing

theorem exists_of_mem_hearLines {hearLine : σ → String → σ × Outcome} {state : σ}
    {lines : List String} {entry : Entry} (member : entry ∈ (hearLines hearLine state lines).2) :
    ∃ current, entry.outcome = (hearLine current entry.line).2 := by
  rcases List.mem_iff_getElem?.mp member with ⟨place, found⟩
  exact ⟨_, outcome_of_getElem?_hearLines found⟩

theorem exists_hearing_of_mem {session : Session} {text : String} {entry : Entry}
    (member : entry ∈ (hearText Rule.standard session text).2) :
    ∃ current next, Hearing current entry.line next entry.outcome := by
  rcases exists_of_mem_hearLines member with ⟨current, heard⟩
  have hearing := hearing_hear current entry.line
  rw [← heard] at hearing
  exact ⟨current, _, hearing⟩

end TradeSpeech
