import TradeSpeech.Proofs.Sentence.Recognition

/-! # Questions that are put together

A phrase without blanks at its ends can be put into a question. It is read back as it
was, and so is an item, whatever it is written with. -/

namespace TradeSpeech.Text

theorem visible_of_head?_trimmed (text : List Char) :
    ∀ c ∈ (trimmed text).head?, isBlank c = false := by
  rcases exists_append_trimmedEnd (text.dropWhile isBlank) with ⟨tail, parts, _⟩
  intro c first
  have stopped := List.head?_dropWhile_not isBlank text
  rcases List.head?_eq_some_iff.mp first with ⟨rest, equal⟩
  rw [trimmed_eq_trimmedEnd] at equal
  rw [parts, equal] at stopped
  simpa using stopped

theorem visible_of_getLast?_trimmed (text : List Char) :
    ∀ c ∈ (trimmed text).getLast?, isBlank c = false := by
  intro c last
  have stopped := List.head?_dropWhile_not isBlank (text.dropWhile isBlank).reverse
  rw [Option.mem_def, trimmed, List.getLast?_reverse] at last
  rw [last] at stopped
  simpa using stopped

theorem trimmed_toList {text : String} (whole : trim text = text) :
    trimmed text.toList = text.toList := by
  rw [← String.toList_inj] at whole
  simpa [trim] using whole

theorem IsWord.trimmed {word : List Char} (isWord : IsWord word) : Text.trimmed word = word := by
  simpa using isWord.trimmed_append isBlankText_nil isBlankText_nil

end TradeSpeech.Text

namespace TradeSpeech.Sentence

open Text (isBlank isBlankText wordsOf IsWord StopsWord StartsBlank)

/-! ## Openings -/

theorem Opens.behind {keywords : List String} {opening after : List Char}
    (opens : Opens keywords opening []) (stops : StopsWord after) :
    Opens keywords (opening ++ after) after := by
  rcases opens with ⟨said, begins, spells⟩
  rcases begins.exists_opening with ⟨front, parts, others⟩
  rw [List.append_nil] at parts
  rw [parts]
  exact ⟨said, others after stops, spells⟩

theorem opens_howMuchIs : Opens ["how", "much", "is"] "how much is".toList [] := by
  have words : AfterKeywords ["how", "much", "is"] (Text.words "how much is") [] :=
    ⟨["how", "much", "is"], by decide, by decide⟩
  exact words.opens

theorem opens_howManyCreditsIs :
    Opens ["how", "many", "credits", "is"] "how many Credits is".toList [] := by
  have words : AfterKeywords ["how", "many", "credits", "is"]
      (Text.words "how many Credits is") [] :=
    ⟨["how", "many", "Credits", "is"], by decide, by decide⟩
  exact words.opens

/-! ## Question for a value -/

theorem ValueQuestion.read?_asking {phrase : String} (oneLine : '\n' ∉ phrase.toList)
    (trimmed : Text.trim phrase = phrase) :
    read? ("how much is " ++ phrase ++ " ?") = some ⟨phrase⟩ := by
  have asks : Asks ("how much is " ++ phrase ++ " ?") ("how much is " ++ phrase ++ " ") := by
    refine ⟨"", ?_, rfl⟩
    rw [← String.toList_inj]
    simp
  have starts : StartsBlank (' ' :: (phrase.toList ++ [' '])) := ⟨' ', rfl, rfl⟩
  have opens : Opens ["how", "much", "is"] ("how much is " ++ phrase ++ " ").toList
      (' ' :: (phrase.toList ++ [' '])) := by
    simpa using opens_howMuchIs.behind starts.stopsWord
  have kept : Text.trimmed ([' '] ++ (phrase.toList ++ [' '])) = phrase.toList := by
    apply Text.trimmed_append rfl rfl
    · rw [← Text.trimmed_toList trimmed]
      exact Text.visible_of_head?_trimmed phrase.toList
    · rw [← Text.trimmed_toList trimmed]
      exact Text.visible_of_getLast?_trimmed phrase.toList
  have lineOneLine : '\n' ∉ ("how much is " ++ phrase ++ " ?").toList := by
    simp [oneLine]
  rw [read?_of_opens lineOneLine asks opens starts]
  rw [List.singleton_append] at kept
  rw [kept, String.ofList_toList]

/-! ## Question for a price -/

theorem PriceQuestionSpan.quantity_eq {phrase quantity item : String}
    (span : PriceQuestionSpan (' ' :: (phrase.toList ++ ' ' :: (item.toList ++ [' '])))
      quantity item)
    (isWord : IsWord item.toList) :
    quantity.toList = phrase.toList.dropWhile isBlank := by
  rcases span with ⟨blanks, separator, loose, equal, blank, _, looseBlank, quantityStarts⟩
  rcases List.eq_nil_or_concat item.toList with none | ⟨front, c, itemEnds⟩
  · exact absurd none isWord.nonempty
  · rw [List.concat_eq_append] at itemEnds
    have visible : isBlank c = false := isWord.solid c (by simp [itemEnds])
    -- Both texts end with the item and blanks; what stands before them is the same.
    have ends : ([' '] ++ phrase.toList ++ ' ' :: front) ++ c :: [' '] =
        (blanks ++ quantity.toList ++ separator :: front) ++ c :: loose := by
      simpa [itemEnds] using equal
    have before := (Text.append_mark_inj ends visible rfl visible looseBlank).1
    have spoken := (List.append_inj' before rfl).1
    have dropped := congrArg (List.dropWhile isBlank) spoken
    rw [List.singleton_append, List.dropWhile_cons_of_pos (by rfl),
      Text.dropWhile_isBlank_append blank quantityStarts] at dropped
    exact dropped.symm

theorem words_asked (phrase : String) {item : String} (isWord : IsWord item.toList) :
    Text.words (String.ofList (' ' :: (phrase.toList ++ ' ' :: (item.toList ++ [' '])))) =
      Text.words phrase ++ [item] := by
  have blank : isBlank ' ' = true := rfl
  rw [Text.words_ofList, Text.wordsOf_cons blank, Text.wordsOf_append_cons _ _ blank,
    Text.wordsOf_append_blanks _ rfl, isWord.wordsOf]
  simp [Text.words]

theorem PriceQuestion.exists_read?_asking {phrase item : String}
    (oneLine : '\n' ∉ phrase.toList) (someWords : Text.words phrase ≠ [])
    (isWord : IsWord item.toList) :
    ∃ quantity, quantity.toList = phrase.toList.dropWhile isBlank ∧
      read? ("how many Credits is " ++ phrase ++ " " ++ item ++ " ?") =
        some ⟨quantity, item⟩ := by
  have asks : Asks ("how many Credits is " ++ phrase ++ " " ++ item ++ " ?")
      ("how many Credits is " ++ phrase ++ " " ++ item ++ " ") := by
    refine ⟨"", ?_, rfl⟩
    rw [← String.toList_inj]
    simp
  have afterStops : StopsWord (' ' :: (phrase.toList ++ ' ' :: (item.toList ++ [' ']))) := by
    intro c first
    cases first
    rfl
  have opens : Opens ["how", "many", "credits", "is"]
      ("how many Credits is " ++ phrase ++ " " ++ item ++ " ").toList
      (' ' :: (phrase.toList ++ ' ' :: (item.toList ++ [' ']))) := by
    simpa using opens_howManyCreditsIs.behind afterStops
  have expected := opens.afterKeywords
  rw [words_asked phrase isWord] at expected
  have lineOneLine : '\n' ∉ ("how many Credits is " ++ phrase ++ " " ++ item ++ " ?").toList := by
    have noBreak : '\n' ∉ item.toList := fun member => nomatch isWord.solid _ member
    simp [oneLine, noBreak]
  rcases (read?_iff_words lineOneLine).mpr ⟨_, asks, expected, .inl someWords⟩ with
    ⟨quantity, found, _⟩
  have span := span_of_read? lineOneLine found asks
  have behind : Text.afterWords 4 _ = _ := opens.afterWords
  rw [behind] at span
  exact ⟨quantity, span.quantity_eq isWord, found⟩

theorem PriceQuestion.read?_asking {phrase item : String} (oneLine : '\n' ∉ phrase.toList)
    (trimmed : Text.trim phrase = phrase) (someWords : Text.words phrase ≠ [])
    (isWord : IsWord item.toList) :
    read? ("how many Credits is " ++ phrase ++ " " ++ item ++ " ?") = some ⟨phrase, item⟩ := by
  have starts : ∀ c ∈ phrase.toList.head?, isBlank c = false := by
    rw [← Text.trimmed_toList trimmed]
    exact Text.visible_of_head?_trimmed phrase.toList
  rcases exists_read?_asking oneLine someWords isWord with ⟨quantity, whole, found⟩
  rw [← List.nil_append phrase.toList, Text.dropWhile_isBlank_append rfl starts,
    String.toList_inj] at whole
  rw [found, whole]

end TradeSpeech.Sentence
