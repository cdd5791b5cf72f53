import TradeSpeech.Proofs.Conversation.Hearing

/-! # How a phrase is evaluated

A phrase is evaluated word by word. Its first unknown word is reported before any
fault of the numeral that the words spell, and that fault before anything else that
may be wrong with a line. -/

namespace TradeSpeech

open Sentence (PriceDefinition PriceQuestion)
open Session (knowingGlob)

def Lexicon.letters (aliases : Lexicon Symbol) : List String → Except Error String
  | [] => .ok ""
  | word :: rest =>
    match aliases.lookup word with
    | none => .error (.unknownAlias word)
    | some symbol => (aliases.letters rest).map (symbol.name ++ ·)

def Session.numeralOfLetters (session : Session) (phrase : String) : Except Error Numeral :=
  match session.aliases.letters (Text.words phrase) with
  | .error error => .error error
  | .ok letters => (Numeral.parse letters).mapError (.malformedNumeral letters)

theorem Lexicon.letters_eq (aliases : Lexicon Symbol) (words : List String) :
    aliases.letters words = (aliases.symbolsOf words).map
      fun symbols => String.ofList (symbols.map Symbol.toChar) := by
  induction words with
  | nil => rfl
  | cons word words induction =>
      rw [letters, symbolsOf, induction]
      cases aliases.lookup word with
      | none => rfl
      | some symbol =>
          cases aliases.symbolsOf words with
          | error error => rfl
          | ok symbols => simp [Except.map, Symbol.name]

namespace Session

variable {session : Session} {phrase : String} {symbols : List Symbol}

/-- Nothing is lost when the symbols are written as letters and read again. -/
theorem numeralOfLetters_eq (session : Session) (phrase : String) :
    session.numeralOfLetters phrase = session.quantity phrase := by
  unfold numeralOfLetters
  rw [Lexicon.letters_eq]
  cases known : session.aliases.symbolsOf (Text.words phrase) with
  | error error =>
      rw [quantity_of_unknown known]
      rfl
  | ok symbols =>
      rw [quantity_of_known known, ← Numeral.parse_capitals]
      rfl

theorem quantity_eq_unknownAlias_iff {word : String} :
    session.quantity phrase = .error (.unknownAlias word) ↔
      ∃ front rest, Text.words phrase = front ++ word :: rest ∧
        (∀ other ∈ front, (session.aliases.lookup other).isSome = true) ∧
        session.aliases.lookup word = none := by
  have named : session.quantity phrase = .error (.unknownAlias word) ↔
      session.aliases.symbolsOf (Text.words phrase) = .error (.unknownAlias word) := by
    cases known : session.aliases.symbolsOf (Text.words phrase) with
    | error error => simp [quantity_of_unknown known]
    | ok symbols =>
        rw [quantity_of_known known]
        cases Numeral.ofSymbols symbols <;> simp [Except.mapError]
  rw [named, Lexicon.symbolsOf_eq_error_iff]
  constructor
  · intro found
    rcases found with ⟨front, other, rest, parts, known, unknown, same⟩
    cases same
    exact ⟨front, rest, parts, known, unknown⟩
  · intro found
    rcases found with ⟨front, rest, parts, known, unknown⟩
    exact ⟨front, word, rest, parts, known, unknown, rfl⟩

theorem quantity_eq_malformed_iff {name : String} {fault : Numeral.Fault}
    (known : session.aliases.symbolsOf (Text.words phrase) = .ok symbols) :
    session.quantity phrase = .error (.malformedNumeral name fault) ↔
      name = String.ofList (symbols.map Symbol.toChar) ∧
        Numeral.Finding symbols (.error fault) := by
  rw [quantity_of_known known, ← Numeral.ofSymbols_eq_iff]
  cases Numeral.ofSymbols symbols with
  | error other => simp [Except.mapError, eq_comm]
  | ok numeral => simp [Except.mapError]

theorem quantity_eq_ok_iff_of_known {numeral : Numeral}
    (known : session.aliases.symbolsOf (Text.words phrase) = .ok symbols) :
    session.quantity phrase = .ok numeral ↔ symbols = numeral.symbols := by
  rw [quantity_of_known known, ← Numeral.ofSymbols_eq_ok_iff]
  cases Numeral.ofSymbols symbols <;> simp [Except.mapError]

end Session

/-- The first word of a phrase that stands for nothing is reported as it is written.
Where each word stands for a symbol, the symbols are a numeral of their worth, or else
are reported as malformed, and as empty if there are none. The letters that the symbols
write are read as the same numeral. What is wrong with the quantity is what is wrong
with a line about a price. -/
theorem phrases_are_evaluated_word_by_word (session : Session) :
    (∀ phrase word, session.quantity phrase = .error (.unknownAlias word) ↔
      ∃ front rest, Text.words phrase = front ++ word :: rest ∧
        (∀ other ∈ front, (session.aliases.lookup other).isSome = true) ∧
        session.aliases.lookup word = none) ∧
    (∀ phrase symbols, (Text.words phrase).map session.aliases.lookup = symbols.map some →
      ((∃ name fault, session.quantity phrase = .error (.malformedNumeral name fault)) ↔
        ¬Numeral.IsGrammatical symbols) ∧
      (∀ name fault, session.quantity phrase = .error (.malformedNumeral name fault) →
        (∀ letter, fault ≠ .unknownSymbol letter) ∧
        (fault = .empty ↔ Text.words phrase = [])) ∧
      (Numeral.IsGrammatical symbols → ∃ numeral, session.quantity phrase = .ok numeral ∧
        numeral.symbols = symbols ∧ numeral.value = Numeral.worth symbols)) ∧
    (∀ phrase, session.quantity phrase = session.numeralOfLetters phrase) ∧
    (∀ line sentence error, PriceDefinition.read? line = some sentence →
      session.quantity sentence.quantity = .error error →
      hear Rule.standard session line = (session, .rejected .definePrice error)) ∧
    ∀ line sentence error, PriceQuestion.read? line = some sentence →
      session.quantity sentence.quantity = .error error →
      hear Rule.standard session line = (session, .rejected .queryPrice error) := by
  refine ⟨?_, ?_, ?_, ?_, ?_⟩
  · intro phrase word
    exact Session.quantity_eq_unknownAlias_iff
  · intro phrase symbols known
    have looked := Lexicon.symbolsOf_eq_ok_iff.mpr known
    refine ⟨?_, ?_, ?_⟩
    · simp only [Session.quantity_eq_malformed_iff looked, exists_eq_left, exists_and_left]
      exact Numeral.exists_finding_error_iff
    · intro name fault found
      have finding := ((Session.quantity_eq_malformed_iff looked).mp found).2
      have empty : symbols = [] ↔ Text.words phrase = [] := by
        rw [← List.map_eq_nil_iff, ← known, List.map_eq_nil_iff]
      rw [← empty]
      exact finding.fault_cases
    · intro grammatical
      have wellFormed := Numeral.isWellFormed_iff.mpr grammatical
      refine ⟨⟨symbols, wellFormed⟩, ?_, rfl, rfl⟩
      exact (Session.quantity_eq_ok_iff_of_known looked).mpr rfl
  · intro phrase
    exact (session.numeralOfLetters_eq phrase).symm
  · intro line sentence error read quantity
    exact (Hearing.priceRefused read quantity).hear_eq
  · intro line sentence error read quantity
    exact (Hearing.totalRefused read quantity).hear_eq

/-- An amount beyond 64 bits and an item without a price are not what is reported. -/
theorem phrases_are_evaluated_word_by_word_before_amount_and_item :
    knowingGlob.quantity "GLOB  Blorp what" = .error (.unknownAlias "Blorp") ∧
    (∃ name fault, knowingGlob.quantity "glob glob GLOB glob" =
      .error (.malformedNumeral name fault) ∧ ∀ letter, fault ≠ .unknownSymbol letter) ∧
    (∃ numeral, knowingGlob.quantity "glob GLOB" = .ok numeral ∧
      numeral.value = Numeral.worth [.I, .I]) ∧
    hear Rule.standard knowingGlob "Blorp Silver is 18446744073709551616 Credits" =
      (knowingGlob, .rejected .definePrice (.unknownAlias "Blorp")) ∧
    hear Rule.standard knowingGlob "how many Credits is glob Blorp Silver ?" =
      (knowingGlob, .rejected .queryPrice (.unknownAlias "Blorp")) := by
  have evaluated := phrases_are_evaluated_word_by_word knowingGlob
  have unknown (phrase : String) (front rest : List String)
      (words : Text.words phrase = front ++ "Blorp" :: rest)
      (known : ∀ other ∈ front, (knowingGlob.aliases.lookup other).isSome = true) :
      knowingGlob.quantity phrase = .error (.unknownAlias "Blorp") :=
    (evaluated.1 phrase "Blorp").mpr ⟨front, rest, words, known, by decide⟩
  have four := evaluated.2.1 "glob glob GLOB glob" [.I, .I, .I, .I] (by decide)
  have two := evaluated.2.1 "glob GLOB" [.I, .I] (by decide)
  have malformed : ¬Numeral.IsGrammatical [.I, .I, .I, .I] := by
    intro grammatical
    exact grammatical.runs .I (List.infix_refl _)
  have grammatical : Numeral.IsGrammatical [.I, .I] :=
    Numeral.isWellFormed_iff.mp (by decide)
  refine ⟨unknown _ ["GLOB"] ["what"] (by decide) (by decide), ?_, ?_, ?_, ?_⟩
  · rcases four.1.mpr malformed with ⟨name, fault, found⟩
    exact ⟨name, fault, found, (four.2.1 name fault found).1⟩
  · rcases two.2.2 grammatical with ⟨numeral, found, _, value⟩
    exact ⟨numeral, found, value⟩
  · exact evaluated.2.2.2.1 _ ⟨"Blorp", "Silver", "18446744073709551616"⟩ _ (by decide +kernel)
      (unknown _ [] [] (by decide) (by decide))
  · exact evaluated.2.2.2.2 _ ⟨"glob Blorp", "Silver"⟩ _ (by decide)
      (unknown _ ["glob"] [] (by decide) (by decide))

end TradeSpeech
