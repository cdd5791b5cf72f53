import TradeSpeech.Proofs.Conversation.Dispatch
import TradeSpeech.Proofs.Conversation.Quantities

/-! # What hearing a line does

All that one line can do to a session under the standard rules, and what becomes
of it. Each line has one of these hearings, and only one. -/

namespace TradeSpeech

open Sentence (Kind Form AliasDefinition PriceDefinition ValueQuestion PriceQuestion)

/-- The line, heard in the session, leaves the session `next` and has the outcome. -/
inductive Hearing (session : Session) (line : String) : Session → Outcome → Prop
  | aliasDefined {sentence : AliasDefinition} {symbol : Symbol}
      (read : AliasDefinition.read? line = some sentence)
      (token : Symbol.ofToken? sentence.symbols = some symbol) :
      Hearing session line (session.defineAlias sentence.word symbol)
        (.answered .defineAlias none)
  | tokenRefused {sentence : AliasDefinition}
      (read : AliasDefinition.read? line = some sentence)
      (token : Symbol.ofToken? sentence.symbols = none) :
      Hearing session line session
        (.rejected .defineAlias (.notASingleSymbol sentence.symbols))
  | priceDefined {sentence : PriceDefinition} {numeral : Numeral}
      (read : PriceDefinition.read? line = some sentence)
      (quantity : session.quantity sentence.quantity = .ok numeral)
      (inRange : numberOf sentence.amount.toList < amountLimit) :
      Hearing session line
        (session.definePrice sentence.item
          (unitPrice (numberOf sentence.amount.toList) numeral.value))
        (.answered .definePrice none)
  | priceRefused {sentence : PriceDefinition} {error : Error}
      (read : PriceDefinition.read? line = some sentence)
      (quantity : session.quantity sentence.quantity = .error error) :
      Hearing session line session (.rejected .definePrice error)
  | amountTooLarge {sentence : PriceDefinition} {numeral : Numeral}
      (read : PriceDefinition.read? line = some sentence)
      (quantity : session.quantity sentence.quantity = .ok numeral)
      (tooLarge : amountLimit ≤ numberOf sentence.amount.toList) :
      Hearing session line session (.fault (some .definePrice) .amountOutOfRange)
  | valueAnswered {sentence : ValueQuestion} {numeral : Numeral}
      (read : ValueQuestion.read? line = some sentence)
      (quantity : session.quantity sentence.quantity = .ok numeral) :
      Hearing session line session (.answered .queryValue
        (some (sentence.quantity ++ " is " ++ toString numeral.value)))
  | valueRefused {sentence : ValueQuestion} {error : Error}
      (read : ValueQuestion.read? line = some sentence)
      (quantity : session.quantity sentence.quantity = .error error) :
      Hearing session line session (.rejected .queryValue error)
  | totalAnswered {sentence : PriceQuestion} {numeral : Numeral} {price : Float}
      (read : PriceQuestion.read? line = some sentence)
      (quantity : session.quantity sentence.quantity = .ok numeral)
      (known : session.prices.lookup sentence.item = some price) :
      Hearing session line session (.answered .queryPrice
        (some (Text.trim sentence.quantity ++ " " ++ sentence.item ++ " is " ++
          Decimal.text (totalPrice price numeral.value) ++ " Credits")))
  | totalRefused {sentence : PriceQuestion} {error : Error}
      (read : PriceQuestion.read? line = some sentence)
      (quantity : session.quantity sentence.quantity = .error error) :
      Hearing session line session (.rejected .queryPrice error)
  | itemUnknown {sentence : PriceQuestion} {numeral : Numeral}
      (read : PriceQuestion.read? line = some sentence)
      (quantity : session.quantity sentence.quantity = .ok numeral)
      (unknown : session.prices.lookup sentence.item = none) :
      Hearing session line session (.rejected .queryPrice (.unknownItem sentence.item))
  | unrecognized (noAlias : AliasDefinition.read? line = none)
      (noPrice : PriceDefinition.read? line = none) (noValue : ValueQuestion.read? line = none)
      (noTotal : PriceQuestion.read? line = none) :
      Hearing session line session .unrecognized

section

variable {session : Session} {line : String}

theorem hear_of_read (kind : Kind) {form : Form σ} {say : σ → Action} {sentence : σ}
    (isRule : Rule.ofKind kind = .ofForm kind form say)
    (read : form.read? line = some sentence) :
    hear Rule.standard session line =
      ((say sentence session).1, .ofAnswer kind (say sentence session).2) := by
  apply hear_of_perm_of_recognise (.refl _) session
  rw [isRule, Rule.recognise_ofForm, read, Option.map_some]

theorem Outcome.ofAnswer_error {kind : Kind} {error : Error}
    (userFacing : error.isUserFacing = true) :
    ofAnswer kind (.error error) = .rejected kind error := by
  rw [ofAnswer, if_pos userFacing]

theorem amountOf?_of_lt {digits : String} (inRange : numberOf digits.toList < amountLimit) :
    amountOf? digits = some (numberOf digits.toList) := by
  rw [amountOf?, if_pos inRange]

theorem amountOf?_of_le {digits : String} (tooLarge : amountLimit ≤ numberOf digits.toList) :
    amountOf? digits = none := by
  rw [amountOf?, if_neg (Nat.not_lt.mpr tooLarge)]

theorem Hearing.hear_eq {next : Session} {outcome : Outcome}
    (hearing : Hearing session line next outcome) :
    hear Rule.standard session line = (next, outcome) := by
  cases hearing with
  | aliasDefined read token =>
      simp [hear_of_read .defineAlias rfl read, AliasDefinition.say, token, Outcome.ofAnswer]
  | tokenRefused read token =>
      rw [hear_of_read .defineAlias rfl read, AliasDefinition.say, token]
      rfl
  | priceDefined read quantity inRange =>
      rename_i numeral
      have positive : numeral.value ≠ 0 := Nat.ne_of_gt numeral.value_pos
      simp [hear_of_read .definePrice rfl read, PriceDefinition.say, quantity,
        amountOf?_of_lt inRange, positive, Outcome.ofAnswer]
  | priceRefused read quantity =>
      simp [hear_of_read .definePrice rfl read, PriceDefinition.say, quantity,
        Outcome.ofAnswer_error (Session.isUserFacing_of_quantity quantity)]
  | amountTooLarge read quantity tooLarge =>
      rw [hear_of_read .definePrice rfl read, PriceDefinition.say, quantity]
      simp only [amountOf?_of_le tooLarge]
      rfl
  | valueAnswered read quantity =>
      simp [hear_of_read .queryValue rfl read, ValueQuestion.say, quantity, Outcome.ofAnswer]
  | valueRefused read quantity =>
      simp [hear_of_read .queryValue rfl read, ValueQuestion.say, quantity,
        Outcome.ofAnswer_error (Session.isUserFacing_of_quantity quantity)]
  | totalAnswered read quantity known =>
      simp [hear_of_read .queryPrice rfl read, PriceQuestion.say, quantity, known,
        Outcome.ofAnswer]
  | totalRefused read quantity =>
      simp [hear_of_read .queryPrice rfl read, PriceQuestion.say, quantity,
        Outcome.ofAnswer_error (Session.isUserFacing_of_quantity quantity)]
  | itemUnknown read quantity unknown =>
      rw [hear_of_read .queryPrice rfl read, PriceQuestion.say, quantity]
      simp only [unknown]
      rfl
  | unrecognized noAlias noPrice noValue noTotal =>
      apply hear_of_perm_of_unrecognised (.refl _) session
      intro kind
      cases kind with
      | defineAlias => exact Rule.recognise_ofForm_of_unread noAlias
      | definePrice => exact Rule.recognise_ofForm_of_unread noPrice
      | queryValue => exact Rule.recognise_ofForm_of_unread noValue
      | queryPrice => exact Rule.recognise_ofForm_of_unread noTotal

theorem exists_hearing (session : Session) (line : String) :
    ∃ next outcome, Hearing session line next outcome := by
  -- The forms exclude each other, so the order in which they are asked for is free.
  cases definition : AliasDefinition.read? line with
  | some sentence =>
      cases token : Symbol.ofToken? sentence.symbols with
      | some symbol => exact ⟨_, _, .aliasDefined definition token⟩
      | none => exact ⟨_, _, .tokenRefused definition token⟩
  | none =>
  cases price : PriceDefinition.read? line with
  | some sentence =>
      cases quantity : session.quantity sentence.quantity with
      | error error => exact ⟨_, _, .priceRefused price quantity⟩
      | ok numeral =>
          by_cases inRange : numberOf sentence.amount.toList < amountLimit
          · exact ⟨_, _, .priceDefined price quantity inRange⟩
          · exact ⟨_, _, .amountTooLarge price quantity (Nat.not_lt.mp inRange)⟩
  | none =>
  cases value : ValueQuestion.read? line with
  | some sentence =>
      cases quantity : session.quantity sentence.quantity with
      | error error => exact ⟨_, _, .valueRefused value quantity⟩
      | ok numeral => exact ⟨_, _, .valueAnswered value quantity⟩
  | none =>
  cases total : PriceQuestion.read? line with
  | some sentence =>
      cases quantity : session.quantity sentence.quantity with
      | error error => exact ⟨_, _, .totalRefused total quantity⟩
      | ok numeral =>
          cases known : session.prices.lookup sentence.item with
          | some price => exact ⟨_, _, .totalAnswered total quantity known⟩
          | none => exact ⟨_, _, .itemUnknown total quantity known⟩
  | none => exact ⟨_, _, .unrecognized definition price value total⟩

theorem hear_eq_iff {next : Session} {outcome : Outcome} :
    hear Rule.standard session line = (next, outcome) ↔ Hearing session line next outcome := by
  constructor
  · intro heard
    rcases exists_hearing session line with ⟨other, otherOutcome, hearing⟩
    rw [hearing.hear_eq] at heard
    cases heard
    exact hearing
  · exact Hearing.hear_eq

theorem hearing_hear (session : Session) (line : String) :
    Hearing session line (hear Rule.standard session line).1
      (hear Rule.standard session line).2 :=
  hear_eq_iff.mp (Prod.eta _).symm

end

end TradeSpeech
