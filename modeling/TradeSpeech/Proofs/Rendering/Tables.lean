import Mathlib.Data.List.Forall2
import TradeSpeech.Proofs.Conversation.Replies
import TradeSpeech.Proofs.Rendering.Separated

/-! # Replies are read back from tables

The table of a transcript has one record for each line, in order, and the replies can be taken
from the records alone. -/

namespace TradeSpeech

namespace Rendering

/-- The reply that a record tells of, where an empty message stands for silence if the line was
understood. -/
def replyOf? : List String → Option Reply
  | [_, "true", message] => some ⟨true, if message = "" then none else some message⟩
  | [_, "false", message] => some ⟨false, some message⟩
  | _ => none

structure RecordOf (entry : Entry) (fields : List String) : Prop where
  fields_eq : fields = [entry.line, if entry.outcome.reply.status then "true" else "false",
    entry.outcome.reply.message.getD ""]
  reply : replyOf? fields = some entry.outcome.reply
  silent : (∃ line, fields = [line, "true", ""]) ↔ entry.outcome.IsSilentDefinition

def ReadsBack (delimiter : Char) (text : String) (transcript : Transcript) : Prop :=
  ∃ records, Separated.read? delimiter text = some (["line", "status", "message"] :: records) ∧
    List.Forall₂ RecordOf transcript records ∧
    records.mapM replyOf? = some transcript.replies

/-! ## Records -/

theorem replyOf?_fields (line : String) {reply : Reply} (spoken : reply.message ≠ some "")
    (understood : reply.message = none → reply.status = true) :
    replyOf? [line, statusText reply.status, reply.message.getD ""] = some reply := by
  rcases reply with ⟨status, message⟩
  cases message with
  | none =>
      have status_eq : status = true := understood rfl
      simp [replyOf?, statusText, status_eq]
  | some message =>
      have filled : message ≠ "" := by simpa using spoken
      cases status <;> simp [replyOf?, statusText, filled]

theorem recordOf_fields {session next : Session} {entry : Entry}
    (hearing : Hearing session entry.line next entry.outcome) :
    RecordOf entry (Row.ofEntry entry).fields := by
  have silence := hearing.message_eq_none_iff
  have understood : entry.outcome.reply.message = none → entry.outcome.reply.status = true := by
    intro silent
    rcases silence.mp silent with silent | silent <;> rw [silent] <;> rfl
  have told : replyOf? (Row.ofEntry entry).fields = some entry.outcome.reply :=
    replyOf?_fields entry.line hearing.message_ne_empty understood
  constructor
  · rfl
  · exact told
  · rw [← silence]
    constructor
    · rintro ⟨line, silent⟩
      rw [silent] at told
      injection told with reply
      rw [← reply, if_pos rfl]
    · intro silent
      have status : statusText entry.outcome.reply.status = "true" := by
        rw [understood silent, statusText, if_pos rfl]
      exact ⟨entry.line, by rw [Row.ofEntry, Row.fields, status, silent, Option.getD_none]⟩

theorem mapM_replyOf? {transcript : Transcript} {records : List (List String)}
    (tell : List.Forall₂ RecordOf transcript records) :
    records.mapM replyOf? = some transcript.replies := by
  induction tell with
  | nil => rfl
  | cons tells _ induction => simp [tells.reply, induction, Transcript.replies]

theorem readsBack_separated {delimiter : Char} (noQuote : delimiter ≠ '"')
    (noBreak : delimiter ≠ '\n') (session : Session) (text : String) :
    ReadsBack delimiter (separated delimiter (hearText Rule.standard session text).2)
      (hearText Rule.standard session text).2 := by
  have filled : ∀ texts ∈ header ::
      (rows (hearText Rule.standard session text).2).map Row.fields, texts ≠ [] := by
    simp [header, Row.fields]
  have tell : List.Forall₂ RecordOf (hearText Rule.standard session text).2
      ((rows (hearText Rule.standard session text).2).map Row.fields) := by
    rw [rows, List.map_map, List.forall₂_map_right_iff, List.forall₂_same]
    intro entry member
    rcases exists_hearing_of_mem member with ⟨current, next, hearing⟩
    exact recordOf_fields hearing
  exact ⟨_, Separated.read?_join_record noQuote noBreak filled, tell, mapM_replyOf? tell⟩

end Rendering

/-- Both kinds of table can be written for every text, and what was said and replied is read back
from them. -/
theorem tables_are_read_back (session : Session) (text separator : String) :
    let transcript := (hearText Rule.standard session text).2
    (∃ output, Format.csv.present separator transcript = .ok output ∧
      Rendering.ReadsBack ',' output transcript) ∧
    ∃ output, Format.tsv.present separator transcript = .ok output ∧
      Rendering.ReadsBack '\t' output transcript := by
  constructor
  · exact ⟨_, Format.present_eq_ok .csv separator _,
      Rendering.readsBack_separated (by decide) (by decide) session text⟩
  · exact ⟨_, Format.present_eq_ok .tsv separator _,
      Rendering.readsBack_separated (by decide) (by decide) session text⟩

end TradeSpeech
