import TradeSpeech.Proofs.Conversation.Recall
import TradeSpeech.Proofs.Decimal.PowerSums

/-! # Amounts that are asked for again

Whoever states a price for a quantity and asks for the same quantity is told a total. The
unit price is kept as a binary number, so that the total is the stated amount but for the
rounding of a quotient and a product. -/

namespace TradeSpeech

open Sentence (PriceDefinition PriceWords IsMadeOf IsKeyword)
open Text (IsWord isDigit)

/-! ## Stating a price -/

theorem numberOf_toString (n : ℕ) : numberOf (toString n).toList = n := by
  have digits : (toString n).toList = Nat.toDigits 10 n := by
    rw [Nat.toString_eq_ofList_toDigits, String.toList_ofList]
  have value := Nat.ofDigitChars_ten_toDigits (n := n)
  rw [Nat.ofDigitChars_eq_foldl] at value
  rw [digits, numberOf]
  exact value

theorem isMadeOf_isDigit_toString (n : ℕ) : IsMadeOf isDigit (toString n) := by
  have digits : (toString n).toList = Nat.toDigits 10 n := by
    rw [Nat.toString_eq_ofList_toDigits, String.toList_ofList]
  constructor
  · intro empty
    rw [empty] at digits
    exact Nat.toDigits_ne_nil digits.symm
  · intro c member
    rw [digits] at member
    have digit := Nat.isDigit_of_mem_toDigits (by norm_num) (by norm_num) member
    simpa [Char.isDigit, isDigit, Char.le_def] using digit

theorem Sentence.PriceDefinition.exists_read?_stating {phrase item amount : String}
    (oneLine : '\n' ∉ phrase.toList) (someWords : Text.words phrase ≠ [])
    (isWord : IsWord item.toList) (digits : IsMadeOf isDigit amount) :
    ∃ quantity,
      read? (phrase ++ " " ++ item ++ " is " ++ amount ++ " Credits") =
        some ⟨quantity, item, amount⟩ ∧
      Text.words quantity = Text.words phrase := by
  have amountWord : IsWord amount.toList := by
    refine ⟨fun empty => digits.1 (String.toList_eq_nil_iff.mp empty), ?_⟩
    intro c member
    exact isBlank_eq_false_of_isDigit (digits.2 c member)
  have line : (phrase ++ " " ++ item ++ " is " ++ amount ++ " Credits").toList =
      phrase.toList ++ ' ' :: (item.toList ++ ' ' :: ("is".toList ++ ' ' ::
        (amount.toList ++ ' ' :: "Credits".toList))) := by
    simp
  have words : Text.words (phrase ++ " " ++ item ++ " is " ++ amount ++ " Credits") =
      Text.words phrase ++ [item, "is", amount, "Credits"] := by
    have blank : Text.isBlank ' ' = true := rfl
    have keyword : IsWord "is".toList := by decide
    have unit : IsWord "Credits".toList := by decide
    rw [Text.words, line, Text.wordsOf_append_cons _ _ blank, Text.wordsOf_append_cons _ _ blank,
      Text.wordsOf_append_cons _ _ blank, Text.wordsOf_append_cons _ _ blank, isWord.wordsOf,
      keyword.wordsOf, amountWord.wordsOf, unit.wordsOf, Text.words]
    simp
  have wholeLine :
      '\n' ∉ (phrase ++ " " ++ item ++ " is " ++ amount ++ " Credits").toList := by
    have notInWord : ∀ word : List Char, IsWord word → '\n' ∉ word := by
      intro word isWord member
      exact absurd (isWord.solid '\n' member) (by decide)
    rw [line]
    simp [oneLine, notInWord _ isWord, notInWord _ amountWord]
  exact (read?_iff_words wholeLine).mpr
    ⟨⟨"is", "Credits", words, by decide, digits, by decide⟩, .inl someWords⟩

theorem hear_stating_price {session : Session} {phrase item : String} {numeral : Numeral}
    {credits : ℕ} (oneLine : '\n' ∉ phrase.toList) (isWord : IsWord item.toList)
    (quantity : session.quantity phrase = .ok numeral) (word : credits < 2 ^ 64) :
    hear Rule.standard session
        (phrase ++ " " ++ item ++ " is " ++ toString credits ++ " Credits") =
      (session.definePrice item (unitPrice credits numeral.value),
        .answered .definePrice none) := by
  have someWords := Session.words_ne_nil_of_quantity quantity
  rcases PriceDefinition.exists_read?_stating oneLine someWords isWord
    (isMadeOf_isDigit_toString credits) with ⟨stated, read, words⟩
  have amount := numberOf_toString credits
  have inRange : numberOf (toString credits).toList < amountLimit := by
    rw [amount]
    exact word
  have answered := (Hearing.priceDefined read (session.quantity_eq_of_words words quantity)
    inRange).hear_eq
  simp only [amount] at answered
  exact answered

/-! ## Asking for it -/

def totalText (credits units : ℕ) : String :=
  Decimal.text (totalPrice (unitPrice credits units) units)

/-- A stated price is kept, and asking for the same quantity is answered with the total of
the unit price. The total is the stated amount when the quotient and the product are rounded
back to it, and the amount is a number that is shown with its own digits, as all amounts of
at most 53 binary digits are. It is the amount for every quantity that divides it or is the
sum of two powers of two, and it is close to it for all others. -/
theorem stated_amounts_are_told_rounded (session : Session) (phrase item : String)
    (numeral : Numeral) (credits : ℕ) (trimmed : Text.trim phrase = phrase)
    (oneLine : '\n' ∉ phrase.toList) (quantity : session.quantity phrase = .ok numeral)
    (isWord : IsWord item.toList) (word : credits < 2 ^ 64) :
    hear Rule.standard session
        (phrase ++ " " ++ item ++ " is " ++ toString credits ++ " Credits") =
      (session.definePrice item (unitPrice credits numeral.value),
        .answered .definePrice none) ∧
    hear Rule.standard (session.definePrice item (unitPrice credits numeral.value))
        ("how many Credits is " ++ phrase ++ " " ++ item ++ " ?") =
      (session.definePrice item (unitPrice credits numeral.value),
        .answered .queryPrice (some (phrase ++ " " ++ item ++ " is " ++
          totalText credits numeral.value ++ " Credits"))) ∧
    (numeral.value < 2 ^ 64 →
      (totalText credits numeral.value = toString credits ↔
        Decimal.returned credits numeral.value = Decimal.rounded credits ∧
          Decimal.text (asFloat credits) = toString credits) ∧
      (credits < 2 ^ 53 → Decimal.text (asFloat credits) = toString credits) ∧
      (Decimal.GivesBack numeral.value credits →
        totalText credits numeral.value = toString credits) ∧
      ∃ (digits : ℕ) (place : ℤ),
        totalText credits numeral.value = Decimal.positional digits place ∧
          |(digits : ℚ) * 10 ^ place - credits| ≤ credits / 2 ^ 50) := by
  refine ⟨hear_stating_price oneLine isWord quantity word, ?_, ?_⟩
  · have kept : (session.definePrice item (unitPrice credits numeral.value)).quantity phrase =
        .ok numeral := quantity
    have known : (session.definePrice item
        (unitPrice credits numeral.value)).prices.lookup item =
          some (unitPrice credits numeral.value) := by
      rw [Session.definePrice, Lexicon.lookup_define_same]
    have answered := hear_asking_total oneLine isWord kept known
    rw [trimmed] at answered
    exact answered
  · intro unitsWord
    have someUnits := numeral.value_pos
    exact ⟨Decimal.text_totalPrice_eq_iff word someUnits unitsWord, Decimal.text_asFloat,
      fun gives => gives.text_totalPrice someUnits unitsWord,
      Decimal.exists_text_totalPrice_eq word someUnits unitsWord⟩

private def taughtProk : Session :=
  ((∅ : Session).defineAlias "glob" .I).defineAlias "prok" .V

private def six : Numeral where
  symbols := [.V, .I]
  wellFormed := by decide

private def seven : Numeral where
  symbols := [.V, .I, .I]
  wellFormed := by decide

/-- Seven times the seventh part of 29 is a little more. Six is the sum of two powers of two,
and gives back an amount that takes 52 binary digits. -/
theorem stated_amounts_are_told_rounded_at_sevenths :
    (hear Rule.standard (taughtProk.definePrice "?" (unitPrice 29 7))
        "how many Credits is prok glob glob ? ?").2 =
      .answered .queryPrice (some "prok glob glob ? is 29.000000000000004 Credits") ∧
    Decimal.returned 29 7 ≠ Decimal.rounded 29 ∧
    (hear Rule.standard taughtProk "prok glob ? is 4503599627370495 Credits").2 =
      .answered .definePrice none ∧
    totalText (2 ^ 52 - 1) 6 = "4503599627370495" := by
  have sevenUnits : taughtProk.quantity "prok glob glob" = .ok seven :=
    Session.quantity_of_numeral (by decide +kernel)
  have sixUnits : taughtProk.quantity "prok glob" = .ok six :=
    Session.quantity_of_numeral (by decide +kernel)
  rcases stated_amounts_are_told_rounded taughtProk "prok glob glob" "?" seven 29 (by decide)
    (by decide) sevenUnits (by decide) (by norm_num) with ⟨_, sevenAsked, sevenTotal⟩
  rcases stated_amounts_are_told_rounded taughtProk "prok glob" "?" six (2 ^ 52 - 1) (by decide)
    (by decide) sixUnits (by decide) (by norm_num) with ⟨sixStated, _, sixTotal⟩
  have total : totalText 29 7 = "29.000000000000004" := by decide +kernel
  have seventh : seven.value = 7 := by decide
  have sixth : six.value = 6 := by decide
  have shown : Decimal.text (asFloat 29) = toString 29 := by decide +kernel
  have sum : Decimal.GivesBack 6 (2 ^ 52 - 1) :=
    .inr ⟨by norm_num, by norm_num, .inr ⟨2, 1, by norm_num, by norm_num⟩⟩
  rw [seventh] at sevenAsked sevenTotal
  rw [sixth] at sixTotal
  refine ⟨?_, ?_, ?_, ?_⟩
  · rw [total] at sevenAsked
    exact congrArg Prod.snd sevenAsked
  · intro recovered
    have same := (sevenTotal (by norm_num)).1.mpr ⟨recovered, shown⟩
    rw [total] at same
    exact absurd same (by decide +kernel)
  · exact congrArg Prod.snd sixStated
  · rw [(sixTotal (by norm_num)).2.2.1 sum]
    decide +kernel

/-- The stated amount is not told for every quantity. -/
theorem stated_amounts_are_not_always_told :
    ¬∀ (session : Session) (phrase item : String) (numeral : Numeral) (credits : ℕ),
      Text.trim phrase = phrase → '\n' ∉ phrase.toList →
      session.quantity phrase = .ok numeral → IsWord item.toList → credits < 2 ^ 64 →
      (hear Rule.standard
          (hear Rule.standard session
            (phrase ++ " " ++ item ++ " is " ++ toString credits ++ " Credits")).1
          ("how many Credits is " ++ phrase ++ " " ++ item ++ " ?")).2 =
        .answered .queryPrice
          (some (phrase ++ " " ++ item ++ " is " ++ toString credits ++ " Credits")) := by
  intro givenBack
  have told := givenBack taughtProk "prok glob glob" "Silver" seven 29 (by decide) (by decide)
    (Session.quantity_of_numeral (by decide +kernel)) (by decide) (by norm_num)
  have actual : (hear Rule.standard
      (hear Rule.standard taughtProk
        ("prok glob glob" ++ " " ++ "Silver" ++ " is " ++ toString 29 ++ " Credits")).1
      ("how many Credits is " ++ "prok glob glob" ++ " " ++ "Silver" ++ " ?")).2 =
        .answered .queryPrice
          (some "prok glob glob Silver is 29.000000000000004 Credits") := by
    decide +kernel
  rw [actual] at told
  exact absurd told (by decide +kernel)

end TradeSpeech
