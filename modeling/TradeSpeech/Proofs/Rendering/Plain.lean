import TradeSpeech.Proofs.Conversation.Replies
import TradeSpeech.Rendering.Format

/-! # The lines of a plain text

A plain text has one line for each reply that is heard. Nothing that is repeated in it, be it the
line, a phrase or an item, holds a line feed, so that no reply takes another line or shares one. -/

namespace TradeSpeech

/-! ## Numbers -/

theorem not_mem_toDigits (n : ℕ) : '\n' ∉ Nat.toDigits 10 n := by
  intro member
  have digit := Nat.isDigit_of_mem_toDigits (by decide) (by decide) member
  exact absurd digit (by decide)

theorem Decimal.not_mem_positional (digits : ℕ) (place : ℤ) :
    '\n' ∉ (positional digits place).toList := by
  have figures := not_mem_toDigits digits
  unfold positional
  split
  · simp [figures]
  · have padded : ∀ count, '\n' ∉ List.replicate count '0' ++ Nat.toDigits 10 digits := by
      simp [figures]
    intro member
    simp only [String.toList_ofList, List.mem_append, List.mem_cons] at member
    rcases member with front | mark | behind
    · exact padded _ (List.mem_of_mem_take front)
    · exact absurd mark (by decide)
    · exact padded _ (List.mem_of_mem_drop behind)

theorem Decimal.not_mem_text (number : Float) : '\n' ∉ (text number).toList := by
  unfold text
  split
  · decide
  · split <;> decide
  · rename_i negative magnitude _
    have figures : '\n' ∉ (if magnitude.significand = 0 then "0"
        else positional (shortest magnitude).1 (shortest magnitude).2).toList := by
      split
      · decide
      · apply not_mem_positional
    cases negative with
    | false => exact figures
    | true => simpa using figures

/-! ## Sentences -/

theorem Text.not_mem_trim {text : String} {c : Char} (missing : c ∉ text.toList) :
    c ∉ (trim text).toList := by
  rw [trim, String.toList_ofList]
  exact fun member => missing (trimmed_subset text.toList member)

section

variable {line : String}

theorem Sentence.Form.not_mem_of_read? {form : Form σ} {sentence : σ} {c : Char}
    (refused : ∀ piece ∈ form.pattern, piece.kept = true → piece.accepts c = false)
    (read : form.read? line = some sentence) : ∀ part ∈ form.parts sentence, c ∉ part.toList := by
  have kept := Pattern.not_mem_of_read refused (read?_eq_some_iff.mp read)
  intro part member
  exact kept _ (List.mem_map_of_mem member)

theorem Sentence.ValueQuestion.not_mem_of_read? {sentence : ValueQuestion}
    (read : read? line = some sentence) : '\n' ∉ sentence.quantity.toList := by
  have refused : ∀ piece ∈ pattern, piece.kept = true → piece.accepts '\n' = false := by decide
  exact Form.not_mem_of_read? refused read _ List.mem_cons_self

theorem Sentence.PriceQuestion.not_mem_of_read? {sentence : PriceQuestion}
    (read : read? line = some sentence) :
    '\n' ∉ sentence.quantity.toList ∧ '\n' ∉ sentence.item.toList := by
  have refused : ∀ piece ∈ pattern, piece.kept = true → piece.accepts '\n' = false := by decide
  have parts := Form.not_mem_of_read? refused read
  exact ⟨parts _ List.mem_cons_self, parts _ (List.mem_cons_of_mem _ List.mem_cons_self)⟩

end

/-! ## Replies -/

theorem Session.not_mem_friendlyMessage {session : Session} {phrase : String} {error : Error}
    (found : session.quantity phrase = .error error) : '\n' ∉ error.friendlyMessage.toList := by
  rw [friendlyMessage_of_quantity found]
  decide

namespace Hearing

variable {session next : Session} {line : String} {outcome : Outcome}

theorem not_mem_message (hearing : Hearing session line next outcome) {message : String}
    (told : outcome.reply.message = some message) : '\n' ∉ message.toList := by
  cases hearing with
  | aliasDefined | priceDefined => simp [Outcome.reply] at told
  | tokenRefused =>
      rw [← Option.some.inj told]
      change '\n' ∉ "Please specify a single Roman numeral".toList
      decide
  | priceRefused _ quantity | valueRefused _ quantity | totalRefused _ quantity =>
      rw [← Option.some.inj told]
      exact Session.not_mem_friendlyMessage quantity
  | valueAnswered read =>
      rw [← Option.some.inj told]
      simp [Sentence.ValueQuestion.not_mem_of_read? read, not_mem_toDigits]
  | totalAnswered read =>
      have phrase := Sentence.PriceQuestion.not_mem_of_read? read
      rw [← Option.some.inj told]
      simp [Text.not_mem_trim phrase.1, phrase.2, Decimal.not_mem_text]
  | itemUnknown read =>
      have item := (Sentence.PriceQuestion.not_mem_of_read? read).2
      rw [← Option.some.inj told]
      change '\n' ∉ ("I don't know the price of " ++ _).toList
      simp [item]
  | amountTooLarge | unrecognized =>
      rw [← Option.some.inj told]
      decide

end Hearing

/-! ## Lines of output -/

namespace Rendering

def Shows (separator : String) (entry : Entry) (line : String) : Prop :=
  ∃ message, entry.outcome.reply.message = some message ∧
    line = entry.line ++ separator ++ message

theorem plainLine?_eq_some_iff {separator : String} {entry : Entry} {line : String} :
    plainLine? separator entry = some line ↔ Shows separator entry line := by
  rw [plainLine?, Option.map_eq_some_iff, Shows]
  exact exists_congr fun message => and_congr_right fun _ => eq_comm

theorem segmentsOf_endLines {lines : List String} (solid : ∀ line ∈ lines, '\n' ∉ line.toList) :
    Text.SegmentsOf (endLines lines).toList (lines.map String.toList ++ [[]]) := by
  rw [Text.segmentsOf_iff]
  induction lines with
  | nil => rfl
  | cons line lines induction =>
      rw [List.forall_mem_cons] at solid
      have output : (endLines (line :: lines)).toList =
          line.toList ++ '\n' :: (endLines lines).toList := by
        simp [endLines]
      rw [output, List.splitOn_append_cons_self, List.splitOn_eq_singleton solid.1,
        induction solid.2]
      rfl

theorem plain_of_said {transcript : Transcript} (separator : String) (said : transcript ≠ []) :
    plain separator transcript =
      endLines (heading :: transcript.filterMap (plainLine? separator)) := by
  rw [plain, if_neg (by simpa using said)]

theorem plain_eq_noContent_iff {separator : String} {transcript : Transcript} :
    plain separator transcript = endLines [noContent] ↔ transcript = [] := by
  constructor
  · intro same
    by_contra said
    rw [plain_of_said separator said, ← String.toList_inj] at same
    -- The two texts differ in their first letter.
    have first := congrArg List.head? same
    simp [endLines, heading, noContent] at first
  · rintro rfl
    rfl

theorem forall₂_shows {separator : String} {transcript : Transcript}
    (silent : ∀ entry ∈ transcript, entry.outcome.reply.message = none ↔
      entry.outcome.isAnsweredDefinition = true) :
    List.Forall₂ (Shows separator)
      (transcript.filter fun entry => !entry.outcome.isAnsweredDefinition)
      (transcript.filterMap (plainLine? separator)) := by
  induction transcript with
  | nil => exact .nil
  | cons entry transcript induction =>
      rw [List.forall_mem_cons] at silent
      have others := induction silent.2
      cases told : entry.outcome.reply.message with
      | none =>
          have defined := silent.1.mp told
          have none : plainLine? separator entry = none := by rw [plainLine?, told, Option.map_none]
          rw [List.filter_cons_of_neg (by simp [defined]), List.filterMap_cons_none none]
          exact others
      | some message =>
          have asked : entry.outcome.isAnsweredDefinition = false := by
            simpa [told] using silent.1
          have shown : plainLine? separator entry = some (entry.line ++ separator ++ message) := by
            rw [plainLine?, told, Option.map_some]
          rw [List.filter_cons_of_pos (by simp [asked]), List.filterMap_cons_some shown]
          exact .cons (plainLine?_eq_some_iff.mp shown) others

end Rendering

section

variable {session : Session} {text separator : String}

theorem hearText_eq_nil_iff :
    (hearText Rule.standard session text).2 = [] ↔
      ∀ segment ∈ text.toList.splitOn '\n', Text.isSpoken segment = false := by
  rw [← Text.spokenLines_eq_nil_iff, ← List.map_eq_nil_iff (f := Entry.line), hearText,
    map_line_hearLines]

theorem not_mem_of_shows {entry : Entry} {line : String} (oneLine : '\n' ∉ separator.toList)
    (member : entry ∈ (hearText Rule.standard session text).2)
    (shown : Rendering.Shows separator entry line) : '\n' ∉ line.toList := by
  rcases shown with ⟨message, told, rfl⟩
  rcases exists_hearing_of_mem member with ⟨current, next, hearing⟩
  have said : entry.line ∈ Text.spokenLines text := by
    have entries := List.mem_map_of_mem (f := Entry.line) member
    rwa [hearText, map_line_hearLines] at entries
  simp [Text.not_mem_of_mem_spokenLines said, oneLine, hearing.not_mem_message told]

end

/-- A plain text says that nothing was said if there was no line but blank ones. Otherwise it has
a heading and then, in order, one line for each entry but the definitions that were acted on. No
line that is repeated and no reply adds a line to it or takes one away. -/
theorem plain_text_has_one_line_for_each_reply (session : Session) (text : String)
    {separator : String} (oneLine : '\n' ∉ separator.toList) :
    let transcript := (hearText Rule.standard session text).2
    ∃ output, Format.text.present separator transcript = .ok output ∧
      (output = "No content, please enter instructions\n" ↔
        ∀ segment ∈ text.toList.splitOn '\n', Text.isSpoken segment = false) ∧
      ((∃ segment ∈ text.toList.splitOn '\n', Text.isSpoken segment = true) →
        ∃ lines, List.Forall₂ (Rendering.Shows separator)
            (transcript.filter fun entry => !entry.outcome.isAnsweredDefinition) lines ∧
          Text.SegmentsOf output.toList
            (("Test Output:" :: lines).map String.toList ++ [[]])) := by
  intro transcript
  refine ⟨Rendering.plain separator transcript, rfl, ?_, ?_⟩
  · have silent : transcript = [] ↔ _ := hearText_eq_nil_iff
    rw [← silent, ← Rendering.plain_eq_noContent_iff]
    rfl
  · rintro ⟨segment, member, spoken⟩
    have said : transcript ≠ [] := by
      intro none
      have blank := hearText_eq_nil_iff.mp none segment member
      rw [spoken] at blank
      cases blank
    have silent : ∀ entry ∈ transcript, entry.outcome.reply.message = none ↔
        entry.outcome.isAnsweredDefinition = true := by
      intro entry heard
      rcases exists_hearing_of_mem heard with ⟨current, next, hearing⟩
      exact hearing.message_eq_none_iff_isAnsweredDefinition
    refine ⟨_, Rendering.forall₂_shows silent, ?_⟩
    rw [Rendering.plain_of_said separator said]
    apply Rendering.segmentsOf_endLines
    rw [List.forall_mem_cons]
    refine ⟨by decide, ?_⟩
    intro line shown
    rcases List.mem_filterMap.mp shown with ⟨entry, heard, told⟩
    exact not_mem_of_shows oneLine heard (Rendering.plainLine?_eq_some_iff.mp told)

/-- The definition and the blank line have no line in the text, the refused question has one. -/
theorem plain_text_has_one_line_for_each_reply_at_unknown_word :
    let transcript := (hearText Rule.standard ∅ "glob is I\n\u3000\nhow much is prok ?").2
    '\n' ∉ " -> ".toList ∧ ∃ lines,
      List.Forall₂ (Rendering.Shows " -> ")
        (transcript.filter fun entry => !entry.outcome.isAnsweredDefinition) lines ∧
      Text.SegmentsOf (Rendering.plain " -> " transcript).toList
        (("Test Output:" :: lines).map String.toList ++ [[]]) := by
  intro transcript
  have oneLine : '\n' ∉ " -> ".toList := by decide
  rcases plain_text_has_one_line_for_each_reply ∅ "glob is I\n\u3000\nhow much is prok ?"
    oneLine with ⟨output, presented, _, divided⟩
  cases presented
  exact ⟨oneLine, divided ⟨"glob is I".toList, by decide, by decide⟩⟩

end TradeSpeech
