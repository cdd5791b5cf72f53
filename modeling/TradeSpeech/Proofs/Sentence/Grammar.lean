import TradeSpeech.Proofs.Sentence.Slots
import TradeSpeech.Sentence.Forms

/-! # The grammar of the four forms

Which words make a sentence of each form. The forms of the questions are about
the words up to the question mark. -/

namespace TradeSpeech.Sentence

open Text (isBlankText isDigit IsWord)

/-! ## Sentences and what is kept of them -/

namespace Form

variable {Sentence : Type} {form : Form Sentence}

theorem exists_parts_of_read {text : List Char} {kept : List (List Char)}
    (found : form.pattern.read text = some kept) :
    ∃ sentence, form.parts sentence = kept.map String.ofList := by
  apply form.exists_parts
  rw [List.length_map]
  exact Pattern.length_of_read found

theorem read?_eq_some_iff {line : String} {sentence : Sentence} :
    form.read? line = some sentence ↔
      form.pattern.read line.toList = some ((form.parts sentence).map String.toList) := by
  rw [read?, find_eq_read, Option.bind_eq_some_iff]
  constructor
  · intro found
    rcases found with ⟨kept, found, made⟩
    rcases exists_parts_of_read found with ⟨other, parts⟩
    rw [← parts, form.ofParts?_parts] at made
    cases made
    rw [found, parts]
    simp
  · intro found
    refine ⟨_, found, ?_⟩
    simp [form.ofParts?_parts]

theorem isSome_read? (form : Form Sentence) (line : String) :
    (form.read? line).isSome = (form.pattern.find line.toList).isSome := by
  rw [read?, find_eq_read]
  cases found : form.pattern.read line.toList with
  | none => rfl
  | some kept =>
      rcases exists_parts_of_read found with ⟨sentence, parts⟩
      rw [Option.bind_some, ← parts, form.ofParts?_parts, Option.isSome_some, Option.isSome_some]

end Form

def Kind.pattern : Kind → Pattern
  | .defineAlias => AliasDefinition.pattern
  | .definePrice => PriceDefinition.pattern
  | .queryValue => ValueQuestion.pattern
  | .queryPrice => PriceQuestion.pattern

/-! ## Words of sentences -/

def IsKeyword (keyword word : String) : Prop :=
  Spells keyword word.toList

def IsMadeOf (accepts : Char → Bool) (word : String) : Prop :=
  word ≠ "" ∧ ∀ c ∈ word.toList, accepts c = true

instance (keyword word : String) : Decidable (IsKeyword keyword word) :=
  inferInstanceAs (Decidable (Spells _ _))

instance (accepts : Char → Bool) (word : String) : Decidable (IsMadeOf accepts word) :=
  decidable_of_iff (word ≠ "" ∧ word.toList.all accepts = true) (by simp [IsMadeOf])

/-- A letter of a word to be defined: one of ASCII, the long s or the Kelvin sign. -/
def isAliasLetter (c : Char) : Bool :=
  Text.isLetter c || c == '\u017f' || c == '\u212a'

def AliasWords (words : List String) (word symbols : String) : Prop :=
  ∃ is, words = [word, is, symbols] ∧ IsMadeOf isAliasLetter word ∧ IsKeyword "is" is ∧
    IsMadeOf symbolLetters.contains symbols

def PriceWords (words phrase : List String) (item amount : String) : Prop :=
  ∃ is credits, words = phrase ++ [item, is, amount, credits] ∧ IsKeyword "is" is ∧
    IsMadeOf isDigit amount ∧ IsKeyword "credits" credits

def AfterKeywords (keywords words rest : List String) : Prop :=
  ∃ said, words = said ++ rest ∧ List.Forall₂ IsKeyword keywords said

def ValueQuestionWords (words phrase : List String) : Prop :=
  AfterKeywords ["how", "much", "is"] words phrase

def PriceQuestionWords (words phrase : List String) (item : String) : Prop :=
  AfterKeywords ["how", "many", "credits", "is"] words (phrase ++ [item])

/-- The last visible character of the line is a question mark, and `body` stands
before it. -/
def Asks (line body : String) : Prop :=
  ∃ tail, line = body ++ "?" ++ tail ∧ isBlankText tail.toList = true

theorem IsKeyword.unique {keyword other word : String} (left : IsKeyword keyword word)
    (right : IsKeyword other word) : keyword = other :=
  String.toList_inj.mp (Eq.trans (Eq.symm left) right)

theorem isKeyword_ofList {keyword : String} {run : List Char} :
    IsKeyword keyword (String.ofList run) ↔ Spells keyword run := by
  rw [IsKeyword, String.toList_ofList]

theorem fits_ofClass_iff {accepts : Char → Bool} {word : String} :
    (Slot.ofClass accepts).Fits word.toList ↔ IsMadeOf accepts word := by
  simp [Slot.Fits, IsMadeOf]

theorem isMadeOf_congr {accepts others : Char → Bool} {word : String}
    (same : ∀ c, accepts c = true ↔ others c = true) :
    IsMadeOf accepts word ↔ IsMadeOf others word := by
  simp only [IsMadeOf, same]

theorem PriceWords.unique {words phrase otherPhrase : List String}
    {item amount otherItem otherAmount : String} (left : PriceWords words phrase item amount)
    (right : PriceWords words otherPhrase otherItem otherAmount) :
    phrase = otherPhrase ∧ item = otherItem ∧ amount = otherAmount := by
  rcases left with ⟨is, credits, rfl, _⟩
  rcases right with ⟨otherIs, otherCredits, equal, _⟩
  rcases List.append_inj' equal rfl with ⟨samePhrase, sameWords⟩
  injection sameWords with sameItem sameWords
  injection sameWords with _ sameWords
  injection sameWords with sameAmount _
  exact ⟨samePhrase, sameItem, sameAmount⟩

theorem asks_iff {line body : String} :
    Asks line body ↔
      ∃ tail, line.toList = body.toList ++ '?' :: tail ∧ isBlankText tail = true := by
  constructor
  · intro asks
    rcases asks with ⟨tail, rfl, blank⟩
    exact ⟨tail.toList, by simp, blank⟩
  · intro ends
    rcases ends with ⟨tail, parts, blank⟩
    refine ⟨String.ofList tail, ?_, by simpa using blank⟩
    rw [← String.toList_inj, parts]
    simp

theorem Asks.unique {line body other : String} (left : Asks line body)
    (right : Asks line other) : body = other := by
  rcases asks_iff.mp left with ⟨tail, parts, blank⟩
  rcases asks_iff.mp right with ⟨rest, otherParts, otherBlank⟩
  have visible : Text.isBlank '?' = false := by decide
  rw [parts] at otherParts
  exact String.toList_inj.mp
    (Text.append_mark_inj otherParts visible blank visible otherBlank).1

end TradeSpeech.Sentence
