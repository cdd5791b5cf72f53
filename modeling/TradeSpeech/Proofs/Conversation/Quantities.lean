import TradeSpeech.Proofs.Numeral.Walk
import TradeSpeech.Session

/-! # Quantities

A phrase names a quantity through the meanings of its words: each word stands for
a symbol, and the symbols are a numeral. -/

namespace TradeSpeech

def numeralOf? (meaning : String → Option Symbol) (phrase : String) : Option Numeral :=
  match (Text.words phrase).mapM meaning with
  | none => none
  | some symbols =>
    if wellFormed : Numeral.IsWellFormed symbols then some ⟨symbols, wellFormed⟩ else none

theorem Lexicon.toOption_symbolsOf (aliases : Lexicon Symbol) (words : List String) :
    (aliases.symbolsOf words).toOption = words.mapM aliases.lookup := by
  induction words with
  | nil => rfl
  | cons word words induction =>
      rw [symbolsOf, List.mapM_cons, ← induction]
      cases aliases.lookup word with
      | none => rfl
      | some symbol => cases aliases.symbolsOf words <;> rfl

theorem Lexicon.symbolsOf_eq_ok_iff {aliases : Lexicon Symbol} {words : List String}
    {symbols : List Symbol} :
    aliases.symbolsOf words = .ok symbols ↔ words.map aliases.lookup = symbols.map some := by
  induction words generalizing symbols with
  | nil => cases symbols <;> simp [symbolsOf]
  | cons word words induction =>
      cases symbols with
      | nil =>
          rw [symbolsOf]
          cases aliases.lookup word <;> cases aliases.symbolsOf words <;> simp [Except.map]
      | cons symbol symbols =>
          rw [List.map_cons, List.map_cons, List.cons.injEq, ← induction, symbolsOf]
          cases aliases.lookup word <;> cases aliases.symbolsOf words <;> simp [Except.map]

theorem Lexicon.symbolsOf_eq_error_iff_find? {aliases : Lexicon Symbol} {words : List String}
    {error : Error} :
    aliases.symbolsOf words = .error error ↔
      ∃ word, words.find? (fun other => (aliases.lookup other).isNone) = some word ∧
        error = .unknownAlias word := by
  induction words with
  | nil => simp [symbolsOf]
  | cons word words induction =>
      rw [symbolsOf, List.find?_cons]
      cases aliases.lookup word with
      | none => simp [eq_comm]
      | some symbol =>
          cases later : aliases.symbolsOf words <;> simp [← induction, later, Except.map]

theorem Lexicon.symbolsOf_eq_error_iff {aliases : Lexicon Symbol} {words : List String}
    {error : Error} :
    aliases.symbolsOf words = .error error ↔
      ∃ front word rest, words = front ++ word :: rest ∧
        (∀ other ∈ front, (aliases.lookup other).isSome = true) ∧
        aliases.lookup word = none ∧ error = .unknownAlias word := by
  simp only [symbolsOf_eq_error_iff_find?, List.find?_eq_some_iff_append, Option.isNone_iff_eq_none,
    Option.not_isNone]
  constructor
  · intro found
    rcases found with ⟨word, ⟨unknown, front, rest, parts, known⟩, same⟩
    exact ⟨front, word, rest, parts, known, unknown, same⟩
  · intro found
    rcases found with ⟨front, word, rest, parts, known, unknown, same⟩
    exact ⟨word, ⟨unknown, front, rest, parts, known⟩, same⟩

theorem Session.quantity_of_unknown {session : Session} {phrase : String} {error : Error}
    (unknown : session.aliases.symbolsOf (Text.words phrase) = .error error) :
    session.quantity phrase = .error error := by
  unfold quantity Lexicon.resolve
  rw [unknown]

theorem Session.quantity_of_known {session : Session} {phrase : String} {symbols : List Symbol}
    (known : session.aliases.symbolsOf (Text.words phrase) = .ok symbols) :
    session.quantity phrase = (Numeral.ofSymbols symbols).mapError
      (.malformedNumeral (String.ofList (symbols.map Symbol.toChar))) := by
  unfold quantity Lexicon.resolve
  rw [known]
  simp only
  cases Numeral.ofSymbols symbols <;> rfl

theorem Session.quantity_of_numeral {session : Session} {phrase : String} {numeral : Numeral}
    (known : (Text.words phrase).map session.aliases.lookup = numeral.symbols.map some) :
    session.quantity phrase = .ok numeral := by
  rw [quantity_of_known (Lexicon.symbolsOf_eq_ok_iff.mpr known),
    Numeral.ofSymbols_eq_ok_iff.mpr rfl]
  rfl

theorem Session.toOption_quantity (session : Session) (phrase : String) :
    (session.quantity phrase).toOption = numeralOf? session.aliases.lookup phrase := by
  rw [numeralOf?, ← Lexicon.toOption_symbolsOf]
  cases known : session.aliases.symbolsOf (Text.words phrase) with
  | error error =>
      rw [quantity_of_unknown known]
      rfl
  | ok symbols =>
      rw [quantity_of_known known]
      cases found : Numeral.ofSymbols symbols with
      | ok numeral =>
          have same := Numeral.ofSymbols_eq_ok_iff.mp found
          subst same
          simp [Except.toOption, Except.mapError, numeral.wellFormed]
      | error fault =>
          have malformed := Numeral.not_isWellFormed_of_ofSymbols found
          simp [Except.toOption, Except.mapError, malformed]

theorem Session.quantity_eq_ok_iff {session : Session} {phrase : String} {numeral : Numeral} :
    session.quantity phrase = .ok numeral ↔
      numeralOf? session.aliases.lookup phrase = some numeral := by
  rw [← toOption_quantity]
  cases session.quantity phrase <;> simp [Except.toOption]

theorem Session.cause_of_quantity {session : Session} {phrase : String} {error : Error}
    (found : session.quantity phrase = .error error) :
    (∃ word, error = .unknownAlias word) ∨
      ∃ numeral fault, error = .malformedNumeral numeral fault := by
  cases known : session.aliases.symbolsOf (Text.words phrase) with
  | error unknown =>
      rw [quantity_of_unknown known] at found
      cases found
      rcases Lexicon.symbolsOf_eq_error_iff.mp known with ⟨_, word, _, _, _, _, named⟩
      exact .inl ⟨word, named⟩
  | ok symbols =>
      rw [quantity_of_known known] at found
      cases read : Numeral.ofSymbols symbols with
      | ok numeral =>
          rw [read] at found
          cases found
      | error fault =>
          rw [read] at found
          cases found
          exact .inr ⟨_, fault, rfl⟩

theorem Session.isUserFacing_of_quantity {session : Session} {phrase : String} {error : Error}
    (found : session.quantity phrase = .error error) : error.isUserFacing = true := by
  rcases cause_of_quantity found with ⟨word, rfl⟩ | ⟨numeral, fault, rfl⟩ <;> rfl

theorem Session.friendlyMessage_of_quantity {session : Session} {phrase : String}
    {error : Error} (found : session.quantity phrase = .error error) :
    error.friendlyMessage =
      "The quantity is not in the correct format, please adjust the instruction" := by
  rcases cause_of_quantity found with ⟨word, rfl⟩ | ⟨numeral, fault, rfl⟩ <;> rfl

theorem Session.quantity_of_no_words {phrase : String} (session : Session)
    (none : Text.words phrase = []) :
    session.quantity phrase = .error (.malformedNumeral "" .empty) := by
  rw [quantity_of_known (by rw [none, Lexicon.symbolsOf])]
  rfl

theorem Session.words_ne_nil_of_quantity {session : Session} {phrase : String}
    {numeral : Numeral} (found : session.quantity phrase = .ok numeral) :
    Text.words phrase ≠ [] := by
  intro none
  rw [session.quantity_of_no_words none] at found
  cases found

def Session.knowingGlob : Session := Session.defineAlias ∅ "glob" .I

example : (Session.knowingGlob.quantity "glob GLOB").map Numeral.value = .ok 2 := by
  decide +kernel

end TradeSpeech
