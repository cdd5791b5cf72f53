import TradeSpeech.Proofs.Conversation.Frame
import TradeSpeech.Proofs.Sentence.Asking

/-! # What was defined can be asked for

After an answered definition of an alias, the question for the value of its word is
answered; after an answered definition of a price, so is the question for any quantity
of its item. -/

namespace TradeSpeech

open Sentence (AliasDefinition PriceDefinition ValueQuestion PriceQuestion)

def Numeral.single (symbol : Symbol) : Numeral where
  symbols := [symbol]
  wellFormed := ⟨List.cons_ne_nil symbol [], rfl, rfl⟩

theorem Numeral.value_single (symbol : Symbol) : (single symbol).value = symbol.value :=
  Nat.zero_add symbol.value

theorem Session.quantity_defineAlias (session : Session) (symbol : Symbol) {word : String}
    (isWord : Text.IsWord word.toList) :
    (session.defineAlias word symbol).quantity word = .ok (.single symbol) := by
  have words : Text.words word = [word] := by
    rw [Text.words_eq_iff, isWord.wordsOf, List.map_singleton]
  rw [quantity_eq_ok_iff, numeralOf?, words, defineAlias]
  simp [Numeral.single, Numeral.IsWellFormed, Numeral.longRun?, Numeral.badPair?]

theorem Session.quantity_eq_of_words {phrase other : String}
    (words : Text.words phrase = Text.words other) {numeral : Numeral} (session : Session)
    (found : session.quantity other = .ok numeral) : session.quantity phrase = .ok numeral := by
  rw [quantity_eq_ok_iff, numeralOf?] at found ⊢
  rw [words, found]

theorem hear_asking_total {session : Session} {phrase item : String} {numeral : Numeral}
    {price : Float} (oneLine : '\n' ∉ phrase.toList) (isWord : Text.IsWord item.toList)
    (quantity : session.quantity phrase = .ok numeral)
    (known : session.prices.lookup item = some price) :
    hear Rule.standard session ("how many Credits is " ++ phrase ++ " " ++ item ++ " ?") =
      (session, .answered .queryPrice (some (Text.trim phrase ++ " " ++ item ++ " is " ++
        Decimal.text (totalPrice price numeral.value) ++ " Credits"))) := by
  have someWords := Session.words_ne_nil_of_quantity quantity
  rcases PriceQuestion.exists_read?_asking oneLine someWords isWord with ⟨asked, same, read⟩
  have words : Text.words asked = Text.words phrase := by
    rw [Text.words, same, Text.wordsOf_dropWhile_isBlank, Text.words]
  have trimmed : Text.trim asked = Text.trim phrase := by
    rw [Text.trim, same, Text.trimmed_dropWhile_isBlank, Text.trim]
  have answered := Hearing.totalAnswered read (session.quantity_eq_of_words words quantity) known
  rw [trimmed] at answered
  exact answered.hear_eq

/-- A word that a line has defined is worth its symbol, and an item whose price a line
has stated can be bought in any quantity that a phrase names. -/
theorem definitions_can_be_asked_for :
    (∀ session line next message,
      hear Rule.standard session line = (next, .answered .defineAlias message) →
      ∃ sentence symbol, AliasDefinition.read? line = some sentence ∧
        Symbol.ofToken? sentence.symbols = some symbol ∧
        hear Rule.standard next ("how much is " ++ sentence.word ++ " ?") =
          (next, .answered .queryValue
            (some (sentence.word ++ " is " ++ toString symbol.value)))) ∧
    ∀ session line next message,
      hear Rule.standard session line = (next, .answered .definePrice message) →
      ∃ sentence units, PriceDefinition.read? line = some sentence ∧
        session.quantity sentence.quantity = .ok units ∧
        ∀ phrase numeral, '\n' ∉ phrase.toList → Text.trim phrase = phrase →
          next.quantity phrase = .ok numeral →
          hear Rule.standard next
              ("how many Credits is " ++ phrase ++ " " ++ sentence.item ++ " ?") =
            (next, .answered .queryPrice (some (phrase ++ " " ++ sentence.item ++ " is " ++
              Decimal.text (asFloat (numberOf sentence.amount.toList) / asFloat units.value *
                asFloat numeral.value) ++ " Credits"))) := by
  constructor
  · intro session line next message heard
    rcases (hear_eq_iff.mp heard).exists_of_alias_answered rfl with
      ⟨sentence, symbol, read, token, rfl⟩
    refine ⟨sentence, symbol, read, token, ?_⟩
    have isWord : Text.IsWord sentence.word.toList := by
      rcases AliasDefinition.read?_iff_words.mp read with ⟨is, words, _⟩
      exact Text.isWord_of_mem_words (by rw [words]; simp)
    have oneLine : '\n' ∉ sentence.word.toList := fun member => nomatch isWord.solid _ member
    have whole : Text.trim sentence.word = sentence.word := by
      rw [Text.trim, isWord.trimmed, String.ofList_toList]
    have answered := Hearing.valueAnswered (ValueQuestion.read?_asking oneLine whole)
      (session.quantity_defineAlias symbol isWord)
    rw [Numeral.value_single] at answered
    exact answered.hear_eq
  · intro session line next message heard
    rcases (hear_eq_iff.mp heard).exists_of_price_answered rfl with
      ⟨sentence, units, read, quantity, _, rfl⟩
    refine ⟨sentence, units, read, quantity, ?_⟩
    intro phrase numeral oneLine whole found
    have isWord : Text.IsWord sentence.item.toList := by
      rcases (PriceDefinition.words_of_read? read).1 with ⟨is, credits, words, _⟩
      exact Text.isWord_of_mem_words (by rw [words]; simp)
    have known : (session.definePrice sentence.item
        (unitPrice (numberOf sentence.amount.toList) units.value)).prices.lookup sentence.item =
          some (unitPrice (numberOf sentence.amount.toList) units.value) := by
      rw [Session.definePrice, Lexicon.lookup_define_same]
    have someWords := Session.words_ne_nil_of_quantity found
    have asked := PriceQuestion.read?_asking oneLine whole someWords isWord
    have answered := (Hearing.totalAnswered asked found known).hear_eq
    simp only [whole] at answered
    exact answered

private def taughtGlob : Session := (hear Rule.standard ∅ "glob is I").1

/-- An item may be written like the mark that ends the question. -/
theorem definitions_can_be_asked_for_at_mark_item :
    (hear Rule.standard taughtGlob "Prok IS v").2 = .answered .defineAlias none ∧
      (∃ sentence symbol, AliasDefinition.read? "Prok IS v" = some sentence ∧
        Symbol.ofToken? sentence.symbols = some symbol ∧
        hear Rule.standard (hear Rule.standard taughtGlob "Prok IS v").1
            ("how much is " ++ sentence.word ++ " ?") =
          ((hear Rule.standard taughtGlob "Prok IS v").1, .answered .queryValue
            (some (sentence.word ++ " is " ++ toString symbol.value)))) ∧
      (hear Rule.standard taughtGlob "glob glob ? is 34 Credits").2 =
        .answered .definePrice none ∧
      ∃ sentence units, ∃ numeral : Numeral,
        PriceDefinition.read? "glob glob ? is 34 Credits" = some sentence ∧
        taughtGlob.quantity sentence.quantity = .ok units ∧
        hear Rule.standard (hear Rule.standard taughtGlob "glob glob ? is 34 Credits").1
            ("how many Credits is " ++ "glob  GLOB glob" ++ " " ++ sentence.item ++ " ?") =
          ((hear Rule.standard taughtGlob "glob glob ? is 34 Credits").1, .answered .queryPrice
            (some ("glob  GLOB glob" ++ " " ++ sentence.item ++ " is " ++
              Decimal.text (asFloat (numberOf sentence.amount.toList) / asFloat units.value *
                asFloat numeral.value) ++ " Credits"))) := by
  have taught : (hear Rule.standard taughtGlob "Prok IS v").2 =
      .answered .defineAlias none := by
    decide +kernel
  have priced : (hear Rule.standard taughtGlob "glob glob ? is 34 Credits").2 =
      .answered .definePrice none := by
    decide +kernel
  have named : (numeralOf? (hear Rule.standard taughtGlob
      "glob glob ? is 34 Credits").1.aliases.lookup "glob  GLOB glob").isSome = true := by
    decide +kernel
  rcases Option.isSome_iff_exists.mp named with ⟨numeral, found⟩
  have heard : hear Rule.standard taughtGlob "glob glob ? is 34 Credits" =
      ((hear Rule.standard taughtGlob "glob glob ? is 34 Credits").1,
        .answered .definePrice none) :=
    Prod.ext rfl priced
  rcases definitions_can_be_asked_for.2 _ _ _ _ heard with
    ⟨sentence, units, read, quantity, asked⟩
  exact ⟨taught, definitions_can_be_asked_for.1 _ _ _ none (Prod.ext rfl taught), priced,
    sentence, units, numeral, read, quantity,
    asked "glob  GLOB glob" numeral (by decide) (by decide)
      (Session.quantity_eq_ok_iff.mpr found)⟩

end TradeSpeech
