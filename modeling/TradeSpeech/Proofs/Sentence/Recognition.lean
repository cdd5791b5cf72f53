import TradeSpeech.Proofs.Sentence.Definitions
import TradeSpeech.Proofs.Sentence.Questions

/-! # Recognition of sentences

On one line the four forms are the sentences of the grammar, word by word. On
any text at most one form is found, as its kind can be told from the last visible
character, the number of words and the second word. -/

namespace TradeSpeech.Sentence

open Text (isBlank isBlankText wordsOf IsWord StopsWord StartsBlank Begins)

/-! ## What is kept -/

def PriceSpan (line quantity item : String) : Prop :=
  ∃ separator rest, line.toList = quantity.toList ++ separator :: (item.toList ++ rest) ∧
    isBlank separator = true ∧ StopsWord rest

/-- Behind the keywords of a question for a price, the quantity reaches from the
first visible character to the blank right before the item. -/
def PriceQuestionSpan (after : List Char) (quantity item : String) : Prop :=
  ∃ blanks separator loose,
    after = blanks ++ (quantity.toList ++ separator :: (item.toList ++ loose)) ∧
      isBlankText blanks = true ∧ isBlank separator = true ∧ isBlankText loose = true ∧
      ∀ c ∈ quantity.toList.head?, isBlank c = false

theorem PriceDefinition.span_of_read? {line : String} {sentence : PriceDefinition}
    (oneLine : '\n' ∉ line.toList) (found : read? line = some sentence) :
    PriceSpan line sentence.quantity sentence.item := by
  rcases exists_of_read? found with ⟨behind, parts, starts, ⟨is, credits, words, _⟩, reaches⟩
  rcases starts with ⟨separator, first, blank⟩
  rcases List.head?_eq_some_iff.mp first with ⟨more, rfl⟩
  have charWords := Text.words_eq_iff.mp words
  rw [String.toList_ofList, Text.wordsOf_cons blank] at charWords
  rcases Text.exists_of_wordsOf_eq_cons charWords with ⟨lead, rest, rfl, leadBlank, _, stops, _⟩
  have behindOneLine : '\n' ∉ separator :: (lead ++ (sentence.item.toList ++ rest)) := by
    intro member
    apply oneLine
    rw [parts]
    exact List.mem_append_right _ member
  have noLead : lead = [] := by
    cases lead with
    | nil => rfl
    | cons c lead =>
        have startsAgain := Text.startsBlank_append (sentence.item.toList ++ rest) leadBlank
          (List.cons_ne_nil c lead)
        exact absurd startsAgain (reaches behindOneLine)
  subst noLead
  exact ⟨separator, rest, parts, blank, stops⟩

theorem PriceQuestion.span_of_read? {line body : String} {sentence : PriceQuestion}
    (oneLine : '\n' ∉ line.toList) (found : read? line = some sentence)
    (asks : Asks line body) :
    PriceQuestionSpan (Text.afterWords 4 body.toList) sentence.quantity sentence.item := by
  rcases exists_of_read? found with ⟨other, after, otherAsks, opens, parts, quantity, item⟩
  have same := otherAsks.unique asks
  subst same
  have behind : Text.afterWords 4 other.toList = after := opens.afterWords
  rcases asks_iff.mp asks with ⟨tail, lineParts, _⟩
  have separatorOneLine : '\n' ∉ parts.separator := by
    intro member
    apply oneLine
    rw [lineParts]
    apply List.mem_append_left
    apply opens.mem_of_mem
    rw [parts.parts]
    simp [member]
  rcases List.length_eq_one_iff.mp (parts.phraseReaches separatorOneLine) with
    ⟨separator, single⟩
  have separatorBlank := parts.separatorBlank
  rw [single, Text.isBlankText_cons] at separatorBlank
  refine ⟨parts.blanks, separator, parts.loose, ?_, parts.blanksBlank, separatorBlank.1,
    parts.looseBlank, ?_⟩
  · have whole := parts.parts
    rw [single] at whole
    rw [behind, quantity, item]
    exact whole
  · rw [quantity]
    exact parts.phraseStarts

/-- The four forms accept the sentences of the grammar on one line and keep
exactly their parts. -/
theorem forms_accept_word_grammar (line : String) (oneLine : '\n' ∉ line.toList) :
    (∀ word symbols, AliasDefinition.read? line = some ⟨word, symbols⟩ ↔
      AliasWords (Text.words line) word symbols) ∧
    (∀ phrase item amount,
      (∃ quantity, PriceDefinition.read? line = some ⟨quantity, item, amount⟩ ∧
        Text.words quantity = phrase) ↔
      PriceWords (Text.words line) phrase item amount ∧
        (phrase ≠ [] ∨ StartsBlank line.toList)) ∧
    (∀ quantity, ValueQuestion.read? line = some ⟨quantity⟩ ↔
      ∃ body, Asks line body ∧ ValueQuestionWords (Text.words body) (Text.words quantity) ∧
        StartsBlank (Text.afterWords 3 body.toList) ∧
        quantity = String.ofList (Text.trimmed (Text.afterWords 3 body.toList))) ∧
    (∀ phrase item,
      (∃ quantity, PriceQuestion.read? line = some ⟨quantity, item⟩ ∧
        Text.words quantity = phrase) ↔
      ∃ body, Asks line body ∧ PriceQuestionWords (Text.words body) phrase item ∧
        (phrase ≠ [] ∨ StartsBlank (Text.afterWords 4 body.toList).tail)) ∧
    (∀ sentence, PriceDefinition.read? line = some sentence →
      PriceSpan line sentence.quantity sentence.item) ∧
    (∀ sentence body, PriceQuestion.read? line = some sentence → Asks line body →
      PriceQuestionSpan (Text.afterWords 4 body.toList) sentence.quantity sentence.item) := by
  refine ⟨?_, ?_, ?_, ?_, ?_, ?_⟩
  · intro word symbols
    exact AliasDefinition.read?_iff_words
  · intro phrase item amount
    exact PriceDefinition.read?_iff_words oneLine
  · intro quantity
    exact ValueQuestion.read?_iff_words oneLine
  · intro phrase item
    exact PriceQuestion.read?_iff_words oneLine
  · intro sentence found
    exact PriceDefinition.span_of_read? oneLine found
  · intro sentence body found asks
    exact PriceQuestion.span_of_read? oneLine found asks

/-- Of two blanks before the item, which is written like a keyword, one separates. -/
theorem forms_accept_word_grammar_at_keyword_item :
    '\n' ∉ "glob  is is 1 credits".toList ∧
      ∃ quantity, PriceDefinition.read? "glob  is is 1 credits" = some ⟨quantity, "is", "1"⟩ ∧
        Text.words quantity = ["glob"] := by
  have oneLine : '\n' ∉ "glob  is is 1 credits".toList := by decide
  have words : PriceWords (Text.words "glob  is is 1 credits") ["glob"] "is" "1" :=
    ⟨"is", "credits", by decide, by decide, by decide, by decide⟩
  have grammar := forms_accept_word_grammar "glob  is is 1 credits" oneLine
  exact ⟨oneLine, (grammar.2.1 ["glob"] "is" "1").mpr ⟨words, .inl (List.cons_ne_nil _ _)⟩⟩

/-! ## The kind of a sentence -/

/-- The kind of sentence that a line can be, if it is one at all. -/
def tellKind (line : String) : Kind :=
  if Text.lastVisible line.toList = some '?' then
    if (Text.words line)[1]?.any fun word => IsKeyword "many" word then .queryPrice
    else .queryValue
  else if (Text.words line).length = 3 then .defineAlias
  else .definePrice

theorem tellKind_of_last_word {line last : String} {early : List String}
    (words : Text.words line = early ++ [last]) (noMark : '?' ∉ last.toList) :
    tellKind line = if early.length = 2 then .defineAlias else .definePrice := by
  have lastWord : Text.lastVisible line.toList = last.toList.getLast? := by
    simp [Text.lastVisible, Text.words_eq_iff.mp words]
  have noQuestion : Text.lastVisible line.toList ≠ some '?' := by
    rw [lastWord]
    intro mark
    exact noMark (List.mem_of_getLast? mark)
  simp [tellKind, noQuestion, words]

theorem tellKind_of_asks {line body : String} {after : List Char} {first second : String}
    {keywords : List String} (asks : Asks line body)
    (opens : Opens (first :: second :: keywords) body.toList after) (starts : StartsBlank after) :
    tellKind line = if second = "many" then .queryPrice else .queryValue := by
  rcases asks_iff.mp asks with ⟨tail, parts, blank⟩
  have mark : Text.lastVisible line.toList = some '?' := by
    rw [parts]
    exact Text.lastVisible_append_mark body.toList (by decide) blank
  have lineOpens := opens.append starts ('?' :: tail)
  rw [← parts] at lineOpens
  rcases lineOpens.afterKeywords with ⟨said, words, spells⟩
  cases spells with
  | cons firstSpells spells =>
      cases spells with
      | @cons _ word _ said secondSpells spells =>
          have sameKeyword : IsKeyword "many" word ↔ second = "many" := by
            constructor
            · intro many
              exact secondSpells.unique many
            · intro same
              exact same ▸ secondSpells
          simp [tellKind, mark, words, sameKeyword]

theorem AliasDefinition.tellKind_eq {line : String} {sentence : AliasDefinition}
    (found : read? line = some sentence) : tellKind line = .defineAlias := by
  rcases read?_iff_words.mp found with ⟨is, words, _, _, symbols⟩
  have noMark : '?' ∉ sentence.symbols.toList := by
    intro member
    exact absurd (symbols.2 '?' member) (by decide)
  have split : Text.words line = [sentence.word, is] ++ [sentence.symbols] := words
  exact tellKind_of_last_word split noMark

theorem tellKind_of_priceWords {line item amount : String} {phrase : List String}
    (expected : PriceWords (Text.words line) phrase item amount) :
    tellKind line = .definePrice := by
  rcases expected with ⟨is, credits, words, _, _, keyword⟩
  have noMark : '?' ∉ credits.toList := by
    intro member
    have written : Text.keywordForm '?' ∈ "credits".toList := by
      rw [← (show credits.toList.map Text.keywordForm = _ from keyword)]
      exact List.mem_map_of_mem member
    exact absurd written (by decide)
  have split : Text.words line = (phrase ++ [item, is, amount]) ++ [credits] := by
    simpa using words
  rw [tellKind_of_last_word split noMark]
  simp

theorem PriceDefinition.tellKind_eq {line : String} {sentence : PriceDefinition}
    (found : read? line = some sentence) : tellKind line = .definePrice :=
  tellKind_of_priceWords (words_of_read? found).1

theorem ValueQuestion.tellKind_eq {line : String} {sentence : ValueQuestion}
    (found : read? line = some sentence) : tellKind line = .queryValue := by
  rcases exists_of_read? found with ⟨body, after, asks, opens, starts, _⟩
  exact tellKind_of_asks asks opens starts

theorem PriceQuestion.tellKind_eq {line : String} {sentence : PriceQuestion}
    (found : read? line = some sentence) : tellKind line = .queryPrice := by
  rcases exists_of_read? found with ⟨body, after, asks, opens, parts, _⟩
  exact tellKind_of_asks asks opens parts.startsBlank

end TradeSpeech.Sentence
