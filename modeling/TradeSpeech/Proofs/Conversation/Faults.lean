import Mathlib.Data.Nat.Digits.Defs
import TradeSpeech.Proofs.Conversation.Hearing

/-! # Faults

A line is a fault in one way only: it defines a price for a quantity that can be
named, but states an amount that does not fit 64 bits. -/

namespace TradeSpeech

open Sentence (Kind PriceDefinition)

theorem amountLimit_eq : amountLimit = 2 ^ 64 := rfl

def digitOf (digit : Char) : Nat :=
  digit.toNat - '0'.toNat

theorem numberOf_eq_ofDigits (digits : List Char) :
    numberOf digits = Nat.ofDigits 10 (digits.reverse.map digitOf) := by
  rw [Nat.ofDigits_eq_foldr, List.foldr_map, List.foldr_reverse, numberOf]
  simp [digitOf, Nat.add_comm]

section

variable {session next : Session} {line : String}

theorem Hearing.fault_iff {kind : Option Kind} {error : Error} {outcome : Outcome}
    (hearing : Hearing session line next outcome) :
    outcome = .fault kind error ↔ kind = some .definePrice ∧ error = .amountOutOfRange ∧
      ∃ sentence numeral, PriceDefinition.read? line = some sentence ∧
        session.quantity sentence.quantity = .ok numeral ∧
        amountLimit ≤ numberOf sentence.amount.toList := by
  constructor
  · intro isFault
    cases hearing with
    | amountTooLarge read quantity tooLarge =>
        cases isFault
        exact ⟨rfl, rfl, _, _, read, quantity, tooLarge⟩
    | _ => cases isFault
  · intro parts
    rcases parts with ⟨rfl, rfl, sentence, numeral, read, quantity, tooLarge⟩
    have heard := (Hearing.amountTooLarge read quantity tooLarge).hear_eq
    rw [hearing.hear_eq] at heard
    cases heard
    rfl

theorem Hearing.isUserFacing_of_rejected {kind : Kind} {error : Error}
    (hearing : Hearing session line next (.rejected kind error)) : error.isUserFacing = true := by
  cases hearing with
  | tokenRefused => rfl
  | priceRefused _ quantity => exact Session.isUserFacing_of_quantity quantity
  | valueRefused _ quantity => exact Session.isUserFacing_of_quantity quantity
  | totalRefused _ quantity => exact Session.isUserFacing_of_quantity quantity
  | itemUnknown => rfl

theorem Error.amountOutOfRange_ne_quantityOfZero (numeral : Numeral) :
    amountOutOfRange ≠ quantityOfZero numeral := by
  intro equal
  injection equal with texts
  have lastLetters := congrArg (fun text => text.toList.getLast?) texts
  simp at lastLetters

theorem Hearing.exists_of_price_answered {outcome : Outcome} {message : Option String}
    (hearing : Hearing session line next outcome)
    (answered : outcome = .answered .definePrice message) :
    ∃ sentence numeral, PriceDefinition.read? line = some sentence ∧
      session.quantity sentence.quantity = .ok numeral ∧ 0 < numeral.value ∧
      next = session.definePrice sentence.item
        (unitPrice (numberOf sentence.amount.toList) numeral.value) := by
  cases hearing with
  | @priceDefined _ numeral read quantity _ =>
      exact ⟨_, numeral, read, quantity, numeral.value_pos, rfl⟩
  | _ => cases answered

theorem Hearing.cause_ne_quantityOfZero {outcome : Outcome} (numeral : Numeral)
    (hearing : Hearing session line next outcome) :
    outcome.cause? ≠ some (.quantityOfZero numeral) := by
  intro cause
  cases outcome with
  | answered => cases cause
  | unrecognized => cases cause
  | rejected kind error =>
      cases cause
      have userFacing := hearing.isUserFacing_of_rejected
      cases userFacing
  | fault kind error =>
      cases cause
      have parts := hearing.fault_iff.mp rfl
      exact Error.amountOutOfRange_ne_quantityOfZero numeral parts.2.1.symm

end

/-- A line is a fault exactly if it defines a price whose quantity is a numeral and
whose digits write a number beyond 64 bits. No price is stored for no units, no line
fails for such a price, and whatever matches the pattern of a kind has all the parts
that its rule needs. -/
theorem fault_iff_amount_out_of_range :
    (∀ session line kind error,
      (hear Rule.standard session line).2 = .fault kind error ↔
        kind = some .definePrice ∧ error = .amountOutOfRange ∧
        ∃ sentence numeral, PriceDefinition.read? line = some sentence ∧
          numeralOf? session.aliases.lookup sentence.quantity = some numeral ∧
          2 ^ 64 ≤ Nat.ofDigits 10 (sentence.amount.toList.reverse.map digitOf)) ∧
    (∀ session line message,
      (hear Rule.standard session line).2 = .answered .definePrice message →
      ∃ sentence numeral, PriceDefinition.read? line = some sentence ∧
        session.quantity sentence.quantity = .ok numeral ∧ 0 < numeral.value ∧
        (hear Rule.standard session line).1 = session.definePrice sentence.item
          (unitPrice (numberOf sentence.amount.toList) numeral.value)) ∧
    (∀ session line numeral,
      (hear Rule.standard session line).2.cause? ≠ some (.quantityOfZero numeral)) ∧
    (∀ (kind : Kind) (line : String), (kind.pattern.find line.toList).isSome = true →
      ((Rule.ofKind kind).recognise line).isSome = true) := by
  refine ⟨?_, ?_, ?_, ?_⟩
  · intro session line kind error
    rw [(hearing_hear session line).fault_iff]
    simp only [Session.quantity_eq_ok_iff, numberOf_eq_ofDigits, amountLimit_eq]
  · intro session line message answered
    exact (hearing_hear session line).exists_of_price_answered answered
  · intro session line numeral
    exact (hearing_hear session line).cause_ne_quantityOfZero numeral
  · intro kind line found
    rw [Rule.isSome_recognise]
    exact found

/-- The least amount that is too large, with a zero in front. -/
theorem fault_iff_amount_out_of_range_at_limit :
    (hear Rule.standard (Session.defineAlias ∅ "glob" .I)
      "glob Silver is 018446744073709551616 Credits").2 =
        .fault (some .definePrice) .amountOutOfRange := by
  have read : PriceDefinition.read? "glob Silver is 018446744073709551616 Credits" =
      some ⟨"glob", "Silver", "018446744073709551616"⟩ := by decide +kernel
  have words : Text.words "glob" = ["glob"] := by decide
  have wellFormed : Numeral.IsWellFormed [.I] := by decide
  have spelled : numeralOf? (Session.defineAlias ∅ "glob" .I).aliases.lookup "glob" =
      some ⟨[.I], wellFormed⟩ := by
    simp [numeralOf?, words, Session.defineAlias, wellFormed]
  exact (fault_iff_amount_out_of_range.1 _ _ _ _).mpr
    ⟨rfl, rfl, _, _, read, spelled, by decide⟩

end TradeSpeech
