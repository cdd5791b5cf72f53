import TradeSpeech.Proofs.Sentence.Likeness
import TradeSpeech.Proofs.Sentence.Recognition

/-! # Sentences that differ in spacing

On one line the blanks between the words do not matter to what is said, as long as a
price names its quantity. A price without a quantity is another matter: an empty phrase
is read where there is room for it between the blanks, and none is read elsewhere. -/

namespace TradeSpeech.Text

def SameWords (left right : String) : Prop :=
  words left = words right

instance (left right : String) : Decidable (SameWords left right) :=
  inferInstanceAs (Decidable (_ = _))

theorem sameWords_iff {left right : String} :
    SameWords left right ↔ wordsOf left.toList = wordsOf right.toList := by
  rw [SameWords, words_eq_iff, words]
  simp [Function.comp_def]

end TradeSpeech.Text

namespace TradeSpeech.Sentence

open Text (isBlank isBlankText wordsOf lastVisible IsWord StopsWord StartsBlank SameWords)

/-! ## Definitions -/

section

variable {line other : String}

theorem AliasDefinition.exists_of_sameWords {sentence : AliasDefinition}
    (same : SameWords line other) (found : read? line = some sentence) :
    ∃ echo, read? other = some echo ∧ sentence.Alike SameWords echo := by
  have words := read?_iff_words.mp found
  rw [same] at words
  exact ⟨sentence, read?_iff_words.mpr words, ⟨rfl, rfl⟩, rfl, rfl⟩

theorem PriceDefinition.exists_of_sameWords {sentence : PriceDefinition}
    (same : SameWords line other) (oneLine : '\n' ∉ other.toList)
    (found : read? line = some sentence) (named : Text.words sentence.quantity ≠ []) :
    ∃ echo, read? other = some echo ∧ sentence.Alike SameWords echo := by
  have words := (words_of_read? found).1
  rw [same] at words
  rcases (read?_iff_words oneLine).mpr ⟨words, .inl named⟩ with
    ⟨quantity, otherFound, sameQuantity⟩
  exact ⟨_, otherFound, sameQuantity.symm, ⟨rfl, rfl⟩, rfl⟩

end

/-! ## Questions -/

theorem exists_of_asks_of_sameWords {line other body first : String} {keywords : List String}
    {after : List Char} (same : SameWords line other) (asks : Asks line body)
    (opens : Opens (first :: keywords) body.toList after) (starts : StartsBlank after) :
    ∃ otherBody otherAfter, Asks other otherBody ∧
      Opens (first :: keywords) otherBody.toList otherAfter ∧ StartsBlank otherAfter ∧
      wordsOf otherAfter = wordsOf after := by
  have visible : isBlank '?' = false := by decide
  rcases asks_iff.mp asks with ⟨tail, parts, blank⟩
  rcases opens.append starts ('?' :: tail) with ⟨said, begins, spells⟩
  rw [← parts] at begins
  have words := begins.wordsOf
  rw [Text.sameWords_iff.mp same] at words
  have otherBegins := Text.begins_of_wordsOf words
  generalize Text.afterWords said.length other.toList = behind at otherBegins
  have behindWords : wordsOf (after ++ '?' :: tail) = wordsOf behind :=
    List.append_cancel_left (words.symm.trans otherBegins.wordsOf)
  -- The words behind the keywords are the same, so the mark ends this line, too.
  have mark : lastVisible behind = some '?' := by
    rw [lastVisible, ← behindWords]
    exact Text.lastVisible_append_mark after visible blank
  rcases Text.exists_of_lastVisible mark with ⟨otherAfter, otherTail, rfl, otherBlank⟩
  have otherOpens : Opens (first :: keywords) other.toList (otherAfter ++ '?' :: otherTail) :=
    ⟨said, otherBegins, spells⟩
  have otherStarts : StartsBlank otherAfter := by
    cases otherAfter with
    | nil => exact absurd (otherOpens.stopsWord '?' rfl) (by simp [visible])
    | cons c rest => exact ⟨c, rfl, otherOpens.stopsWord c rfl⟩
  rcases otherOpens.exists_append otherStarts with ⟨otherBody, otherParts, bodyOpens⟩
  refine ⟨String.ofList otherBody, otherAfter, ?_, by simpa using bodyOpens, otherStarts, ?_⟩
  · exact asks_iff.mpr ⟨otherTail, by simpa using otherParts, otherBlank⟩
  · exact (Text.wordsOf_eq_of_append_mark behindWords visible blank visible otherBlank).symm

section

variable {line other : String}

theorem ValueQuestion.exists_of_sameWords {sentence : ValueQuestion}
    (same : SameWords line other) (oneLine : '\n' ∉ other.toList)
    (found : read? line = some sentence) :
    ∃ echo, read? other = some echo ∧ sentence.Alike SameWords echo := by
  rcases exists_of_read? found with ⟨body, after, asks, opens, starts, kept⟩
  rcases exists_of_asks_of_sameWords same asks opens starts with
    ⟨otherBody, otherAfter, otherAsks, otherOpens, otherStarts, words⟩
  refine ⟨_, read?_of_opens oneLine otherAsks otherOpens otherStarts, ⟨?_⟩⟩
  rw [Text.sameWords_iff, kept]
  simp only [String.toList_ofList, Text.wordsOf_trimmed, words]

theorem PriceQuestion.exists_of_sameWords {sentence : PriceQuestion}
    (same : SameWords line other) (oneLine : '\n' ∉ other.toList)
    (found : read? line = some sentence) (named : Text.words sentence.quantity ≠ []) :
    ∃ echo, read? other = some echo ∧ sentence.Alike SameWords echo := by
  rcases exists_of_read? found with ⟨body, after, asks, opens, parts, quantity, item⟩
  rcases exists_of_asks_of_sameWords same asks opens parts.startsBlank with
    ⟨otherBody, otherAfter, otherAsks, otherOpens, _, words⟩
  have expected := otherOpens.afterKeywords
  rw [Text.words_ofList, words, parts.wordsOf_eq, ← quantity, ← item, List.map_append,
    List.map_singleton, String.ofList_toList] at expected
  rcases (read?_iff_words oneLine).mpr ⟨otherBody, otherAsks, expected, .inl named⟩ with
    ⟨otherQuantity, otherFound, sameQuantity⟩
  exact ⟨_, otherFound, sameQuantity.symm, ⟨rfl, rfl⟩⟩

end

/-! ## Prices without a quantity -/

/-- The words ask for the price of an item, but of no quantity of it. The mark stands
behind the item or apart from it. -/
def AsksForItem (words : List String) (item : String) : Prop :=
  AfterKeywords ["how", "many", "credits", "is"] words [item ++ "?"] ∨
    AfterKeywords ["how", "many", "credits", "is"] words [item, "?"]

def LacksQuantity (words : List String) : Prop :=
  (∃ item amount, PriceWords words [] item amount) ∨ ∃ item, item ≠ "" ∧ AsksForItem words item

theorem tellKind_of_asksForItem {line item : String}
    (asked : AsksForItem (Text.words line) item) : tellKind line = .queryPrice := by
  have told : ∀ {words said rest : List String} {last : String}, Text.words line = words →
      words = said ++ (rest ++ [last]) → last.toList.getLast? = some '?' →
      List.Forall₂ IsKeyword ["how", "many", "credits", "is"] said →
      tellKind line = .queryPrice := by
    intro words said rest last found split mark spells
    rw [split] at found
    have lastMark : lastVisible line.toList = some '?' := by
      simp [lastVisible, Text.words_eq_iff.mp found, mark]
    rcases spells with _ | ⟨_, _ | ⟨many, _⟩⟩
    simp [tellKind, lastMark, found, many]
  rcases asked with ⟨said, words, spells⟩ | ⟨said, words, spells⟩
  · have noRest : Text.words line = said ++ ([] ++ [item ++ "?"]) := words
    exact told rfl noRest (by simp) spells
  · have oneRest : Text.words line = said ++ ([item] ++ ["?"]) := words
    exact told rfl oneRest (by decide) spells

theorem asksForItem_iff {line : String} {after : List Char} (item : String)
    (words : AfterKeywords ["how", "many", "credits", "is"] (Text.words line)
      (Text.words (String.ofList after))) :
    AsksForItem (Text.words line) item ↔
      wordsOf after = [item.toList ++ ['?']] ∨ wordsOf after = [item.toList, ['?']] := by
  have read : ∀ rest : List String,
      AfterKeywords ["how", "many", "credits", "is"] (Text.words line) rest ↔
        wordsOf after = rest.map String.toList := by
    intro rest
    have chars : (String.ofList after).toList = after := String.toList_ofList
    rw [← chars, ← Text.words_eq_iff]
    constructor
    · intro asked
      exact words.unique asked
    · rintro rfl
      exact words
  rw [AsksForItem, read, read]
  simp

theorem PriceQuestion.words_eq_nil_iff {line : String} {sentence : PriceQuestion}
    (found : read? line = some sentence) :
    Text.words sentence.quantity = [] ↔
      ∃ item, item ≠ "" ∧ AsksForItem (Text.words line) item := by
  have visible : isBlank '?' = false := by decide
  rcases exists_of_read? found with ⟨body, after, asks, opens, parts, quantity, item⟩
  rcases asks_iff.mp asks with ⟨tail, lineParts, blank⟩
  have lineOpens := opens.append parts.startsBlank ('?' :: tail)
  rw [← lineParts] at lineOpens
  have asked := fun word => asksForItem_iff word lineOpens.afterKeywords
  have behind := parts.wordsOf_eq
  rw [← quantity, ← item] at behind
  rw [Text.words_eq_iff, List.map_nil]
  constructor
  · intro none
    rw [none, List.nil_append] at behind
    have someItem : sentence.item ≠ "" := by
      intro empty
      apply parts.itemWord.nonempty
      rw [← item, empty]
      rfl
    exact ⟨sentence.item, someItem,
      (asked _).mpr (Text.wordsOf_append_mark_of_single visible blank behind)⟩
  · rintro ⟨other, _, asksForOther⟩
    have short := Text.length_wordsOf_le_one visible blank ((asked other).mp asksForOther)
    rw [behind, List.length_append, List.length_singleton] at short
    exact List.length_eq_zero_iff.mp (by omega)

section

variable {line other : String}

theorem PriceDefinition.lacksQuantity_iff {sentence : PriceDefinition}
    (found : read? line = some sentence) :
    LacksQuantity (Text.words line) ↔ Text.words sentence.quantity = [] := by
  have words := (words_of_read? found).1
  constructor
  · intro lacks
    rcases lacks with ⟨item, amount, expected⟩ | ⟨item, _, asked⟩
    · exact (words.unique expected).1
    · cases (tellKind_eq found).symm.trans (tellKind_of_asksForItem asked)
  · intro none
    rw [none] at words
    exact .inl ⟨_, _, words⟩

theorem PriceQuestion.lacksQuantity_iff {sentence : PriceQuestion}
    (found : read? line = some sentence) :
    LacksQuantity (Text.words line) ↔ Text.words sentence.quantity = [] := by
  constructor
  · intro lacks
    rcases lacks with ⟨item, amount, expected⟩ | asked
    · cases (tellKind_eq found).symm.trans (tellKind_of_priceWords expected)
    · exact (words_eq_nil_iff found).mpr asked
  · intro none
    exact .inr ((words_eq_nil_iff found).mp none)

theorem LacksQuantity.tellKind (lacks : LacksQuantity (Text.words line)) :
    Sentence.tellKind line = .definePrice ∨ Sentence.tellKind line = .queryPrice := by
  rcases lacks with ⟨item, amount, expected⟩ | ⟨item, _, asked⟩
  · exact .inl (tellKind_of_priceWords expected)
  · exact .inr (tellKind_of_asksForItem asked)

theorem echoes_of_sameWords (same : SameWords line other) (oneLine : '\n' ∉ other.toList)
    (named : ¬LacksQuantity (Text.words line)) : Echoes SameWords line other where
  defineAlias _ found := AliasDefinition.exists_of_sameWords same found
  definePrice _ found := PriceDefinition.exists_of_sameWords same oneLine found
    fun none => named ((PriceDefinition.lacksQuantity_iff found).mpr none)
  queryValue _ found := ValueQuestion.exists_of_sameWords same oneLine found
  queryPrice _ found := PriceQuestion.exists_of_sameWords same oneLine found
    fun none => named ((PriceQuestion.lacksQuantity_iff found).mpr none)

theorem sayAlike_of_sameWords (same : SameWords line other) (oneLine : '\n' ∉ line.toList)
    (otherOneLine : '\n' ∉ other.toList) (named : ¬LacksQuantity (Text.words line)) :
    SayAlike SameWords line other where
  forth := echoes_of_sameWords same otherOneLine named
  back := echoes_of_sameWords same.symm oneLine (same ▸ named)

end

end TradeSpeech.Sentence
