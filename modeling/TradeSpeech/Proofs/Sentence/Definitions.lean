import TradeSpeech.Proofs.Sentence.Grammar

/-! # Definitions

Which lines define an alias or a price, and what is kept of them. -/

namespace TradeSpeech.Sentence

open Text (isBlank isBlankText isDigit wordsOf IsWord StopsWord StartsBlank Begins)

/-! ## Definition of an alias -/

namespace AliasDefinition

def slots : List Slot := [.ofClass Text.isWordLetter, .keyword "is", .ofClass isSymbolLetter]

theorem visible_slots : ∀ slot ∈ slots, slot.Visible := by
  simp only [slots, List.forall_mem_cons, List.not_mem_nil, false_imp_iff, implies_true]
  exact ⟨fun _ => Text.isBlank_eq_false_of_isWordLetter, show IsWord "is".toList by decide,
    fun _ => isBlank_eq_false_of_isSymbolLetter, trivial⟩

theorem read_pattern_iff {text : List Char} {kept : List (List Char)} :
    pattern.read text = some kept ↔
      List.Forall₂ Slot.Fits slots (wordsOf text) ∧ kept = keptOf slots (wordsOf text) :=
  read_sentence_iff visible_slots

theorem read?_iff_words {line word symbols : String} :
    read? line = some ⟨word, symbols⟩ ↔ AliasWords (Text.words line) word symbols := by
  have wordLetters : (Slot.ofClass Text.isWordLetter).Fits word.toList ↔
      IsMadeOf isAliasLetter word :=
    fits_ofClass_iff.trans (isMadeOf_congr fun c => by
      simp [Text.isWordLetter_iff, isAliasLetter, or_assoc])
  have symbolsLetters : (Slot.ofClass isSymbolLetter).Fits symbols.toList ↔
      IsMadeOf symbolLetters.contains symbols :=
    fits_ofClass_iff.trans (isMadeOf_congr fun c => by
      simp [isSymbolLetter_iff])
  have keeps : read? line = some ⟨word, symbols⟩ ↔
      pattern.read line.toList = some [word.toList, symbols.toList] := Form.read?_eq_some_iff
  rw [keeps, read_pattern_iff]
  constructor
  · intro reads
    rcases reads with ⟨fits, kept⟩
    simp only [slots, List.forall₂_cons_left_iff, List.forall₂_nil_left_iff] at fits
    rcases fits with ⟨first, _, firstFits, ⟨is, _, keyword, ⟨last, _, lastFits, rfl, rfl⟩, rfl⟩,
      words⟩
    rw [words] at kept
    simp only [slots, keptOf, Slot.kept, List.nil_append, List.singleton_append,
      List.cons.injEq, and_true] at kept
    rcases kept with ⟨rfl, rfl⟩
    exact ⟨String.ofList is, Text.words_eq_iff.mpr (by simpa using words),
      wordLetters.mp firstFits, isKeyword_ofList.mpr keyword, symbolsLetters.mp lastFits⟩
  · intro wordsFit
    rcases wordsFit with ⟨is, words, madeOf, keyword, symbolsMadeOf⟩
    rw [Text.words_eq_iff.mp words]
    exact ⟨.cons (wordLetters.mpr madeOf) (.cons keyword
      (.cons (symbolsLetters.mpr symbolsMadeOf) .nil)), rfl⟩

end AliasDefinition

/-! ## Definition of a price -/

namespace PriceDefinition

def slots : List Slot :=
  [.ofClass isItemChar, .keyword "is", .ofClass isDigit, .keyword "credits"]

theorem visible_slots : ∀ slot ∈ slots, slot.Visible := by
  simp only [slots, List.forall_mem_cons, List.not_mem_nil, false_imp_iff, implies_true]
  exact ⟨fun c item => by simpa [isItemChar] using item, show IsWord "is".toList by decide,
    fun _ => isBlank_eq_false_of_isDigit, show IsWord "credits".toList by decide, trivial⟩

theorem pattern_eq :
    pattern = keep isPhraseChar (.most 0) :: (row slots ++ [looseBlanks]) := rfl

/-- The phrase reaches to the last blank before the words that fill the slots. -/
theorem exists_of_read_pattern {text : List Char} {kept : List (List Char)}
    (found : pattern.read text = some kept) :
    ∃ quantity behind, text = quantity ++ behind ∧ StartsBlank behind ∧
      List.Forall₂ Slot.Fits slots (wordsOf behind) ∧
      kept = quantity :: keptOf slots (wordsOf behind) ∧
      ('\n' ∉ behind → ¬StartsBlank behind.tail) := by
  rw [pattern_eq] at found
  rcases Pattern.exists_of_read found with ⟨quantity, behind, later, takes, rfl⟩
  rcases (read_row_iff visible_slots).mp takes.reads with ⟨stops, fits, rfl⟩
  have nonempty : behind ≠ [] := by
    intro empty
    rw [empty] at fits
    cases fits
  have starts := stops.startsBlank nonempty
  refine ⟨quantity, behind, takes.divides, starts, fits, rfl, ?_⟩
  intro oneLine tailStarts
  rcases List.exists_cons_of_ne_nil nonempty with ⟨c, rest, rfl⟩
  have blank : isBlank c = true := stops c rfl
  have unreadable :=
    takes.unreadable_of_most rfl (isPhraseChar_of_mem oneLine List.mem_cons_self)
  -- One blank less would leave the same words to the slots, and the phrase prefers that.
  rw [Text.wordsOf_cons blank] at fits
  have reads := (read_row_iff visible_slots).mpr ⟨tailStarts.stopsWord, fits, rfl⟩
  exact unreadable (Option.isSome_of_mem reads)

theorem isSome_read_pattern {quantity behind : List Char} (oneLine : '\n' ∉ quantity)
    (stops : StopsWord behind) (fits : List.Forall₂ Slot.Fits slots (wordsOf behind)) :
    (pattern.read (quantity ++ behind)).isSome = true := by
  have allowed : (Extent.most 0).Allows quantity.length := Nat.zero_le quantity.length
  rw [pattern_eq]
  exact isSome_read_phrase allowed oneLine
    (Option.isSome_of_mem ((read_row_iff visible_slots).mpr ⟨stops, fits, rfl⟩))

theorem exists_of_fits {behind : List Char}
    (fits : List.Forall₂ Slot.Fits slots (wordsOf behind)) :
    ∃ item amount, PriceWords (Text.words (String.ofList behind)) [] item amount ∧
      keptOf slots (wordsOf behind) = [item.toList, amount.toList] := by
  simp only [slots, List.forall₂_cons_left_iff, List.forall₂_nil_left_iff] at fits
  rcases fits with ⟨item, _, _, ⟨is, _, isFits, ⟨amount, _, amountFits, ⟨credits, _, creditsFit,
    rfl, rfl⟩, rfl⟩, rfl⟩, words⟩
  refine ⟨String.ofList item, String.ofList amount,
    ⟨String.ofList is, String.ofList credits, ?_, ?_, ?_, ?_⟩, ?_⟩
  · exact Text.words_eq_iff.mpr (by simpa using words)
  · exact isKeyword_ofList.mpr isFits
  · exact fits_ofClass_iff.mp (by simpa using amountFits)
  · exact isKeyword_ofList.mpr creditsFit
  · rw [words]
    simp [slots, keptOf, Slot.kept]

theorem exists_of_read? {line : String} {sentence : PriceDefinition}
    (found : read? line = some sentence) :
    ∃ behind, line.toList = sentence.quantity.toList ++ behind ∧ StartsBlank behind ∧
      PriceWords (Text.words (String.ofList behind)) [] sentence.item sentence.amount ∧
      ('\n' ∉ behind → ¬StartsBlank behind.tail) := by
  have keeps : pattern.read line.toList =
      some [sentence.quantity.toList, sentence.item.toList, sentence.amount.toList] :=
    Form.read?_eq_some_iff.mp found
  rcases exists_of_read_pattern keeps with
    ⟨quantity, behind, parts, starts, fits, kept, reaches⟩
  rcases exists_of_fits fits with ⟨item, amount, words, keptWords⟩
  rw [keptWords] at kept
  simp only [List.cons.injEq, String.toList_inj, and_true] at kept
  rcases kept with ⟨rfl, rfl, rfl⟩
  exact ⟨behind, parts, starts, words, reaches⟩

theorem words_of_read? {line : String} {sentence : PriceDefinition}
    (found : read? line = some sentence) :
    PriceWords (Text.words line) (Text.words sentence.quantity) sentence.item
        sentence.amount ∧
      (Text.words sentence.quantity ≠ [] ∨ StartsBlank line.toList) := by
  rcases exists_of_read? found with ⟨behind, parts, starts, ⟨is, credits, words, fits⟩, _⟩
  constructor
  · refine ⟨is, credits, ?_, fits⟩
    rw [Text.words_eq_append parts starts.stopsWord, words, List.nil_append]
  · by_cases none : Text.words sentence.quantity = []
    · right
      rw [parts]
      exact Text.startsBlank_append_of_words none starts
    · exact .inl none

theorem isSome_read?_of_words {line item amount : String} {phrase : List String}
    (oneLine : '\n' ∉ line.toList) (expected : PriceWords (Text.words line) phrase item amount)
    (room : phrase ≠ [] ∨ StartsBlank line.toList) : (read? line).isSome = true := by
  rcases expected with ⟨is, credits, words, isKeyword, digits, creditsKeyword⟩
  have itemWord : IsWord item.toList := Text.isWord_of_mem_words (by rw [words]; simp)
  have itemFits : (Slot.ofClass isItemChar).Fits item.toList := by
    refine ⟨itemWord.nonempty, ?_⟩
    intro c member
    simp [isItemChar, itemWord.solid c member]
  have charWords := Text.words_eq_iff.mp words
  rw [List.map_append] at charWords
  rcases Text.exists_cut_of_wordsOf charWords with
    ⟨quantity, behind, parts, _, behindWords, noQuantity, stops⟩
  have behindStops : StopsWord behind := by
    by_cases noPhrase : phrase = []
    · have starts := room.resolve_left (fun absent => absent noPhrase)
      rw [parts, noQuantity (by simp [noPhrase])] at starts
      exact starts.stopsWord
    · exact stops (by simpa using noPhrase)
  have fits : List.Forall₂ Slot.Fits slots (wordsOf behind) := by
    rw [behindWords]
    exact .cons itemFits (.cons isKeyword (.cons (fits_ofClass_iff.mpr digits)
      (.cons creditsKeyword .nil)))
  have quantityOneLine : '\n' ∉ quantity := fun member => oneLine (by simp [parts, member])
  rw [read?, Form.isSome_read?, find_eq_read, parts]
  exact isSome_read_pattern quantityOneLine behindStops fits

theorem read?_iff_words {line item amount : String} {phrase : List String}
    (oneLine : '\n' ∉ line.toList) :
    (∃ quantity, read? line = some ⟨quantity, item, amount⟩ ∧ Text.words quantity = phrase) ↔
      PriceWords (Text.words line) phrase item amount ∧
        (phrase ≠ [] ∨ StartsBlank line.toList) := by
  constructor
  · intro reads
    rcases reads with ⟨quantity, found, rfl⟩
    have parts := words_of_read? found
    exact parts
  · intro wordsFit
    rcases wordsFit with ⟨expected, room⟩
    have readable := isSome_read?_of_words oneLine expected room
    rcases Option.isSome_iff_exists.mp readable with ⟨sentence, found⟩
    rcases (words_of_read? found).1.unique expected with ⟨rfl, rfl, rfl⟩
    exact ⟨sentence.quantity, found, rfl⟩

end PriceDefinition

end TradeSpeech.Sentence
