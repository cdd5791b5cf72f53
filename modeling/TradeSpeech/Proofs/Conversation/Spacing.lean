import TradeSpeech.Proofs.Conversation.Variation
import TradeSpeech.Proofs.Sentence.Spacing

/-! # Spacing in conversations

How a line is spaced changes nothing that it does. Nor does it change what is answered,
unless the line is about the price of an item but of no quantity of it: such a line is
refused if its blanks leave room for an empty phrase, and is not recognised elsewhere. -/

namespace TradeSpeech

open Sentence (Kind AliasDefinition PriceDefinition ValueQuestion PriceQuestion LacksQuantity)
open Text (SameWords)

theorem variation_sameWords : Variation SameWords where
  refl _ := rfl
  join := by
    intro left right more others same alsoSame
    have blank : Text.isBlank ' ' = true := rfl
    rw [Text.sameWords_iff] at same alsoSame ⊢
    simp [Text.wordsOf_append_cons _ _ blank, same, alsoSame]
  trim := by
    intro left right same
    rw [Text.sameWords_iff] at same ⊢
    simp [Text.trim, Text.wordsOf_trimmed, same]
  words := by
    intro left right same
    rw [show Text.words left = Text.words right from same, List.forall₂_same]
    exact fun _ _ => ⟨rfl, rfl⟩

theorem Hearing.of_lacksQuantity {session next : Session} {line : String} {outcome : Outcome}
    (hearing : Hearing session line next outcome) (lacks : LacksQuantity (Text.words line)) :
    next = session ∧ (outcome = .unrecognized ∨
      ∃ kind, outcome = .rejected kind (.malformedNumeral "" .empty)) := by
  have noAlias : Sentence.tellKind line ≠ .defineAlias := by
    intro told
    rcases lacks.tellKind with other | other <;> cases told.symm.trans other
  have noValue : Sentence.tellKind line ≠ .queryValue := by
    intro told
    rcases lacks.tellKind with other | other <;> cases told.symm.trans other
  cases hearing with
  | aliasDefined read => exact absurd (AliasDefinition.tellKind_eq read) noAlias
  | tokenRefused read => exact absurd (AliasDefinition.tellKind_eq read) noAlias
  | priceDefined read quantity =>
      exact absurd ((PriceDefinition.lacksQuantity_iff read).mp lacks)
        (Session.words_ne_nil_of_quantity quantity)
  | priceRefused read quantity =>
      have none := (PriceDefinition.lacksQuantity_iff read).mp lacks
      rw [session.quantity_of_no_words none] at quantity
      cases quantity
      exact ⟨rfl, .inr ⟨_, rfl⟩⟩
  | amountTooLarge read quantity =>
      exact absurd ((PriceDefinition.lacksQuantity_iff read).mp lacks)
        (Session.words_ne_nil_of_quantity quantity)
  | valueAnswered read => exact absurd (ValueQuestion.tellKind_eq read) noValue
  | valueRefused read => exact absurd (ValueQuestion.tellKind_eq read) noValue
  | totalAnswered read quantity =>
      exact absurd ((PriceQuestion.lacksQuantity_iff read).mp lacks)
        (Session.words_ne_nil_of_quantity quantity)
  | totalRefused read quantity =>
      have none := (PriceQuestion.lacksQuantity_iff read).mp lacks
      rw [session.quantity_of_no_words none] at quantity
      cases quantity
      exact ⟨rfl, .inr ⟨_, rfl⟩⟩
  | itemUnknown read quantity =>
      exact absurd ((PriceQuestion.lacksQuantity_iff read).mp lacks)
        (Session.words_ne_nil_of_quantity quantity)
  | unrecognized => exact ⟨rfl, .inl rfl⟩

/-- Lines of the same words leave the same session. They are of one kind and have one
status if they name a quantity, or are not about a price; all others are refused for the
empty numeral or not recognised. -/
theorem same_session_in_other_spacing {line other : String} (same : SameWords line other)
    (oneLine : '\n' ∉ line.toList) (otherOneLine : '\n' ∉ other.toList) (session : Session) :
    (hear Rule.standard session line).1 = (hear Rule.standard session other).1 ∧
      (¬LacksQuantity (Text.words line) →
        (hear Rule.standard session line).2.kind? =
            (hear Rule.standard session other).2.kind? ∧
          (hear Rule.standard session line).2.reply.status =
            (hear Rule.standard session other).2.reply.status) ∧
      (LacksQuantity (Text.words line) → ∀ spaced ∈ [line, other],
        (hear Rule.standard session spaced).2 = .unrecognized ∨
          ∃ kind, (hear Rule.standard session spaced).2 =
            .rejected kind (.malformedNumeral "" .empty)) := by
  rcases heard : hear Rule.standard session line with ⟨next, outcome⟩
  rcases otherHeard : hear Rule.standard session other with ⟨otherNext, otherOutcome⟩
  by_cases lacks : LacksQuantity (Text.words line)
  · have otherLacks : LacksQuantity (Text.words other) := same ▸ lacks
    rcases (hear_eq_iff.mp heard).of_lacksQuantity lacks with ⟨rfl, refused⟩
    rcases (hear_eq_iff.mp otherHeard).of_lacksQuantity otherLacks with ⟨rfl, otherRefused⟩
    refine ⟨rfl, fun named => absurd lacks named, ?_⟩
    intro _ spaced member
    simp only [List.mem_cons, List.not_mem_nil, or_false] at member
    rcases member with rfl | rfl
    · simpa [heard] using refused
    · simpa [otherHeard] using otherRefused
  · have said := Sentence.sayAlike_of_sameWords same oneLine otherOneLine lacks
    rcases variation_sameWords.hear_alike said heard with ⟨_, again, outcomes⟩
    rw [otherHeard] at again
    cases again
    exact ⟨rfl, fun _ => ⟨outcomes.kind?_eq, outcomes.status_eq⟩, fun none => absurd none lacks⟩

/-- Tabs and wide blanks separate words as spaces do. -/
theorem same_session_in_other_spacing_at_wide_blanks :
    SameWords "how much is glob ?" "\thow  much is\u3000glob ? " ∧
      ¬LacksQuantity (Text.words "how much is glob ?") ∧
      (hear Rule.standard ∅ "how much is glob ?").1 =
        (hear Rule.standard ∅ "\thow  much is\u3000glob ? ").1 ∧
      (hear Rule.standard ∅ "how much is glob ?").2.kind? =
        (hear Rule.standard ∅ "\thow  much is\u3000glob ? ").2.kind? ∧
      (hear Rule.standard ∅ "how much is glob ?").2.reply.status =
        (hear Rule.standard ∅ "\thow  much is\u3000glob ? ").2.reply.status := by
  have same : SameWords "how much is glob ?" "\thow  much is\u3000glob ? " := by decide
  have told : Sentence.tellKind "how much is glob ?" = .queryValue := by decide
  have named : ¬LacksQuantity (Text.words "how much is glob ?") := by
    intro lacks
    rcases lacks.tellKind with other | other <;> cases told.symm.trans other
  have outcomes := same_session_in_other_spacing same (by decide) (by decide) ∅
  exact ⟨same, named, outcomes.1, outcomes.2.1 named⟩

/-- Of a question that names no quantity, a second blank makes a question that is
refused, where one blank makes none. -/
theorem spacing_decides_without_quantity :
    ¬∀ (session : Session) (line other : String), '\n' ∉ line.toList → '\n' ∉ other.toList →
      SameWords line other →
      (hear Rule.standard session line).2.kind? = (hear Rule.standard session other).2.kind? ∧
        (hear Rule.standard session line).2.reply.status =
          (hear Rule.standard session other).2.reply.status ∧
        (hear Rule.standard session line).1 = (hear Rule.standard session other).1 := by
  intro sameKind
  have kinds := (sameKind ∅ "how many Credits is Silver ?" "how many Credits is  Silver ?"
    (by decide) (by decide) (by decide)).1
  have different : (hear Rule.standard ∅ "how many Credits is Silver ?").2.kind? ≠
      (hear Rule.standard ∅ "how many Credits is  Silver ?").2.kind? := by
    decide +kernel
  exact different kinds

end TradeSpeech
