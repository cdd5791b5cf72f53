import TradeSpeech.Proofs.Sentence.Grammar
import TradeSpeech.Proofs.Sentence.QuestionEnds

/-! # Questions

Which lines ask for a value or a price, and what is kept of them. Both forms open
with their keywords; the ends of the questions read what is left. -/

namespace TradeSpeech.Sentence

open Text (isBlank isBlankText wordsOf IsWord StopsWord StartsBlank Begins)

/-! ## Openings of questions -/

def Opens (keywords : List String) (text after : List Char) : Prop :=
  ∃ said, Begins text said after ∧ List.Forall₂ Spells keywords said

def opening (first : String) (others : List String) (ending : Pattern) : Pattern :=
  looseBlanks :: ((Slot.keyword first).pieces ++ (row (others.map Slot.keyword) ++ ending))

theorem forall₂_fits_keywords_iff {keywords : List String} {said : List (List Char)} :
    List.Forall₂ Slot.Fits (keywords.map Slot.keyword) said ↔
      List.Forall₂ Spells keywords said := by
  rw [List.forall₂_map_left_iff]
  rfl

theorem keptOf_keywords (keywords : List String) (said : List (List Char)) :
    keptOf (keywords.map Slot.keyword) said = [] := by
  induction keywords generalizing said with
  | nil => rfl
  | cons keyword keywords induction =>
      cases said with
      | nil => rfl
      | cons word said => exact induction said

section

variable {first : String} {others : List String} {ending : Pattern} {text : List Char}

theorem exists_of_read_keywords {kept : List (List Char)}
    (words : ∀ keyword ∈ first :: others, IsWord keyword.toList)
    (stops : ∀ rest, (ending.read rest).isSome = true → StopsWord rest)
    (found : (opening first others ending).read text = some kept) :
    ∃ rest, Opens (first :: others) text rest ∧ ending.read rest = some kept := by
  have visible : ∀ slot ∈ (first :: others).map Slot.keyword, slot.Visible := by
    intro slot member
    rcases List.mem_map.mp member with ⟨keyword, keywordMember, rfl⟩
    exact words keyword keywordMember
  rcases exists_of_read_opening visible stops found with
    ⟨said, rest, later, begins, fits, reads, rfl⟩
  have noneKept := keptOf_keywords (first :: others) said
  rw [List.map_cons] at noneKept
  rw [noneKept, List.nil_append]
  exact ⟨rest, ⟨said, begins, forall₂_fits_keywords_iff.mp fits⟩, reads⟩

theorem isSome_read_keywords {rest : List Char} (opens : Opens (first :: others) text rest)
    (reads : (ending.read rest).isSome = true) :
    ((opening first others ending).read text).isSome = true := by
  rcases opens with ⟨said, begins, spells⟩
  exact isSome_read_opening begins (forall₂_fits_keywords_iff.mpr spells) reads

end

namespace Opens

variable {keywords : List String} {text after : List Char}

theorem afterWords (opens : Opens keywords text after) :
    Text.afterWords keywords.length text = after := by
  rcases opens with ⟨said, begins, spells⟩
  rw [spells.length_eq]
  exact begins.afterWords

theorem stopsWord {keyword : String} (opens : Opens (keyword :: keywords) text after) :
    StopsWord after := by
  rcases opens with ⟨said, begins, spells⟩
  cases spells with
  | cons => exact begins.stopsWord

theorem append (opens : Opens keywords text after) (starts : StartsBlank after)
    (more : List Char) : Opens keywords (text ++ more) (after ++ more) := by
  rcases opens with ⟨said, begins, spells⟩
  exact ⟨said, begins.append starts more, spells⟩

theorem exists_append {more : List Char} (opens : Opens keywords text (after ++ more))
    (starts : StartsBlank after) :
    ∃ body, text = body ++ more ∧ Opens keywords body after := by
  rcases opens with ⟨said, begins, spells⟩
  rcases begins.exists_append starts with ⟨body, rfl, bodyBegins⟩
  exact ⟨body, rfl, said, bodyBegins, spells⟩

theorem mem_of_mem (opens : Opens keywords text after) {c : Char} (member : c ∈ after) :
    c ∈ text := by
  rcases opens with ⟨said, begins, _⟩
  rcases begins.exists_opening with ⟨front, rfl, _⟩
  exact List.mem_append_right front member

theorem afterKeywords {body : String} (opens : Opens keywords body.toList after) :
    AfterKeywords keywords (Text.words body) (Text.words (String.ofList after)) := by
  rcases opens with ⟨said, begins, spells⟩
  refine ⟨said.map String.ofList, ?_, ?_⟩
  · simp [Text.words, begins.wordsOf]
  · rw [List.forall₂_map_right_iff]
    exact spells.imp fun _ _ => isKeyword_ofList.mpr

end Opens

theorem AfterKeywords.opens {keywords rest : List String} {body : String}
    (words : AfterKeywords keywords (Text.words body) rest) :
    Opens keywords body.toList (Text.afterWords keywords.length body.toList) := by
  rcases words with ⟨said, words, spells⟩
  have charWords := Text.words_eq_iff.mp words
  rw [List.map_append] at charWords
  have begins := Text.begins_of_wordsOf charWords
  rw [List.length_map, ← spells.length_eq] at begins
  exact ⟨said.map String.toList, begins, List.forall₂_map_right_iff.mpr spells⟩

theorem AfterKeywords.unique {keywords words rest other : List String}
    (left : AfterKeywords keywords words rest) (right : AfterKeywords keywords words other) :
    rest = other := by
  rcases left with ⟨said, rfl, spells⟩
  rcases right with ⟨otherSaid, equal, otherSpells⟩
  have sameLength := spells.length_eq.symm.trans otherSpells.length_eq
  exact (List.append_inj equal sameLength).2

theorem PriceQuestionWords.unique {words phrase otherPhrase : List String}
    {item otherItem : String} (left : PriceQuestionWords words phrase item)
    (right : PriceQuestionWords words otherPhrase otherItem) :
    phrase = otherPhrase ∧ item = otherItem := by
  unfold PriceQuestionWords at left right
  rcases List.append_inj' (left.unique right) rfl with ⟨samePhrase, sameItem⟩
  exact ⟨samePhrase, List.singleton_inj.mp sameItem⟩

/-! ## Questions of any form

A question is read behind its keywords up to its mark, where its ending has the text to itself. -/

section

variable {first : String} {others : List String} {ending : Pattern} {form : Form Sentence}
  {line body : String} {after : List Char}

theorem Form.exists_of_read?_question {Keeps : List Char → List (List Char) → Prop}
    {sentence : Sentence} (question : form.pattern = opening first others ending)
    (words : ∀ keyword ∈ first :: others, IsWord keyword.toList)
    (ends : ∀ {rest kept}, ending.read rest = some kept →
      ∃ after tail, rest = after ++ '?' :: tail ∧ StartsBlank after ∧ isBlankText tail = true ∧
        Keeps after kept)
    (found : form.read? line = some sentence) :
    ∃ body after, Asks line body ∧ Opens (first :: others) body.toList after ∧
      StartsBlank after ∧ Keeps after ((form.parts sentence).map String.toList) := by
  have reads := Form.read?_eq_some_iff.mp found
  rw [question] at reads
  have stops : ∀ rest, (ending.read rest).isSome = true → StopsWord rest := by
    intro rest readable
    rcases Option.isSome_iff_exists.mp readable with ⟨kept, read⟩
    rcases ends read with ⟨after, tail, rfl, starts, _⟩
    exact (starts.append _).stopsWord
  rcases exists_of_read_keywords words stops reads with ⟨rest, opens, endRead⟩
  rcases ends endRead with ⟨after, tail, rfl, starts, blank, keeps⟩
  rcases opens.exists_append starts with ⟨body, parts, bodyOpens⟩
  exact ⟨String.ofList body, after, asks_iff.mpr ⟨tail, by simpa using parts, blank⟩,
    by simpa using bodyOpens, starts, keeps⟩

theorem Form.isSome_read?_question (question : form.pattern = opening first others ending)
    (asks : Asks line body) (opens : Opens (first :: others) body.toList after)
    (starts : StartsBlank after)
    (ends : ∀ {tail}, isBlankText tail = true →
      (ending.read (after ++ '?' :: tail)).isSome = true) :
    (form.read? line).isSome = true := by
  rcases asks_iff.mp asks with ⟨tail, parts, blank⟩
  rw [Form.isSome_read?, find_eq_read, question, parts]
  exact isSome_read_keywords (opens.append starts ('?' :: tail)) (ends blank)

theorem Opens.not_mem {keywords : List String} {c : Char} (opens : Opens keywords body.toList after)
    (asks : Asks line body) (absent : c ∉ line.toList) : c ∉ after := by
  rcases asks_iff.mp asks with ⟨tail, parts, _⟩
  intro member
  apply absent
  rw [parts]
  exact List.mem_append_left _ (opens.mem_of_mem member)

end

/-! ## Question for a value -/

namespace ValueQuestion

theorem pattern_eq : pattern = opening "how" ["much", "is"] phraseToMark := rfl

theorem exists_of_read? {line : String} {sentence : ValueQuestion}
    (found : read? line = some sentence) :
    ∃ body after, Asks line body ∧ Opens ["how", "much", "is"] body.toList after ∧
      StartsBlank after ∧ sentence.quantity = String.ofList (Text.trimmed after) := by
  rcases Form.exists_of_read?_question pattern_eq (by decide) exists_of_read_phraseToMark found
    with ⟨body, after, asks, opens, starts, kept⟩
  injection kept with quantity _
  exact ⟨body, after, asks, opens, starts, by rw [← quantity, String.ofList_toList]⟩

theorem read?_iff_words {line quantity : String} (oneLine : '\n' ∉ line.toList) :
    read? line = some ⟨quantity⟩ ↔
      ∃ body, Asks line body ∧ ValueQuestionWords (Text.words body) (Text.words quantity) ∧
        StartsBlank (Text.afterWords 3 body.toList) ∧
        quantity = String.ofList (Text.trimmed (Text.afterWords 3 body.toList)) := by
  constructor
  · intro found
    rcases exists_of_read? found with ⟨body, after, asks, opens, starts, kept⟩
    have behind : Text.afterWords 3 body.toList = after := opens.afterWords
    have words := opens.afterKeywords
    rw [Text.words_ofList, ← Text.wordsOf_trimmed, ← Text.words_ofList, ← kept] at words
    rw [← behind] at starts kept
    exact ⟨body, asks, words, starts, kept⟩
  · intro expected
    rcases expected with ⟨body, asks, words, starts, rfl⟩
    have opens := words.opens
    have behindOneLine := opens.not_mem asks oneLine
    have readable : (read? line).isSome = true :=
      Form.isSome_read?_question pattern_eq asks opens starts
        (isSome_read_phraseToMark starts behindOneLine)
    rcases Option.isSome_iff_exists.mp readable with ⟨sentence, found⟩
    rcases exists_of_read? found with ⟨other, after, otherAsks, otherOpens, _, kept⟩
    have same := otherAsks.unique asks
    subst same
    have behind : Text.afterWords 3 other.toList = after := otherOpens.afterWords
    rw [found, behind, ← kept]

theorem read?_of_opens {line body : String} {after : List Char}
    (oneLine : '\n' ∉ line.toList) (asks : Asks line body)
    (opens : Opens ["how", "much", "is"] body.toList after) (starts : StartsBlank after) :
    read? line = some ⟨String.ofList (Text.trimmed after)⟩ := by
  have behind : Text.afterWords 3 body.toList = after := opens.afterWords
  have words := opens.afterKeywords
  rw [Text.words_ofList, ← Text.wordsOf_trimmed, ← Text.words_ofList] at words
  rw [← behind] at words starts ⊢
  exact (read?_iff_words oneLine).mpr ⟨body, asks, words, starts, rfl⟩

end ValueQuestion

/-! ## Question for a price -/

namespace PriceQuestion

theorem pattern_eq :
    pattern = opening "how" ["many", "credits", "is"] phraseAndItemToMark := rfl

theorem exists_of_read? {line : String} {sentence : PriceQuestion}
    (found : read? line = some sentence) :
    ∃ body after, Asks line body ∧
      Opens ["how", "many", "credits", "is"] body.toList after ∧
      ∃ parts : ItemPhrase after,
        sentence.quantity.toList = parts.phrase ∧ sentence.item.toList = parts.item := by
  rcases Form.exists_of_read?_question pattern_eq (by decide) exists_of_read_phraseAndItemToMark
    found with ⟨body, after, asks, opens, _, parts, kept⟩
  injection kept with quantity kept
  injection kept with item _
  exact ⟨body, after, asks, opens, parts, quantity, item⟩

theorem words_of_read? {line : String} {sentence : PriceQuestion}
    (found : read? line = some sentence) :
    ∃ body, Asks line body ∧
      PriceQuestionWords (Text.words body) (Text.words sentence.quantity) sentence.item ∧
      (Text.words sentence.quantity ≠ [] ∨
        StartsBlank (Text.afterWords 4 body.toList).tail) := by
  rcases exists_of_read? found with ⟨body, after, asks, opens, parts, quantity, item⟩
  have behind : Text.afterWords 4 body.toList = after := opens.afterWords
  have words := opens.afterKeywords
  rw [Text.words_ofList, parts.wordsOf_eq, ← quantity, ← item, List.map_append,
    List.map_singleton, String.ofList_toList] at words
  refine ⟨body, asks, words, ?_⟩
  by_cases none : Text.words sentence.quantity = []
  · right
    rw [behind]
    apply parts.startsBlank_tail
    rw [← quantity]
    simpa using Text.words_eq_iff.mp none
  · exact .inl none

theorem isSome_read?_of_words {line body item : String} {phrase : List String}
    (oneLine : '\n' ∉ line.toList) (asks : Asks line body)
    (expected : PriceQuestionWords (Text.words body) phrase item)
    (room : phrase ≠ [] ∨ StartsBlank (Text.afterWords 4 body.toList).tail) :
    (read? line).isSome = true := by
  have opens := AfterKeywords.opens expected
  generalize Text.afterWords _ body.toList = after at opens
  have behind : Text.afterWords 4 body.toList = after := opens.afterWords
  rw [behind] at room
  have words := AfterKeywords.unique opens.afterKeywords expected
  have charWords := Text.words_eq_iff.mp words
  rw [String.toList_ofList, List.map_append] at charWords
  have starts : StartsBlank after := by
    apply opens.stopsWord.startsBlank
    intro none
    rw [none] at charWords
    simp at charWords
  have someRoom : phrase.map String.toList ≠ [] ∨ StartsBlank after.tail := by
    simpa using room
  exact Form.isSome_read?_question pattern_eq asks opens starts
    (isSome_read_of_wordsOf charWords starts someRoom (opens.not_mem asks oneLine))

theorem read?_iff_words {line item : String} {phrase : List String}
    (oneLine : '\n' ∉ line.toList) :
    (∃ quantity, read? line = some ⟨quantity, item⟩ ∧ Text.words quantity = phrase) ↔
      ∃ body, Asks line body ∧ PriceQuestionWords (Text.words body) phrase item ∧
        (phrase ≠ [] ∨ StartsBlank (Text.afterWords 4 body.toList).tail) := by
  constructor
  · intro reads
    rcases reads with ⟨quantity, found, rfl⟩
    have parts := words_of_read? found
    exact parts
  · intro expected
    rcases expected with ⟨body, asks, words, room⟩
    have readable := isSome_read?_of_words oneLine asks words room
    rcases Option.isSome_iff_exists.mp readable with ⟨sentence, found⟩
    rcases words_of_read? found with ⟨other, otherAsks, otherWords, _⟩
    have same := otherAsks.unique asks
    subst same
    rcases otherWords.unique words with ⟨rfl, rfl⟩
    exact ⟨sentence.quantity, found, rfl⟩

end PriceQuestion

end TradeSpeech.Sentence
