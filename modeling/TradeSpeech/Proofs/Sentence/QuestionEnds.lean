import TradeSpeech.Proofs.Sentence.Slots
import TradeSpeech.Sentence.Forms

/-! # Ends of questions

What stands between the keywords of a question and the end of the line. The
last visible character is the question mark; a phrase before it comes without
the blanks around it, and a phrase before an item reaches to the last blank
before the item. -/

namespace TradeSpeech.Sentence

open Text (isBlank isBlankText wordsOf IsWord StopsWord StartsBlank Begins)

def phraseToMark : Pattern :=
  [gap, keep isPhraseChar (.fewest 0), looseBlanks, mark '?', looseBlanks]

def phraseAndItemToMark : Pattern :=
  [gap, keep isPhraseChar (.most 0), gap, keep isItemChar (.fewest 1), looseBlanks,
    mark '?', looseBlanks]

theorem isSome_read_questionEnd {loose tail : List Char} (looseBlank : isBlankText loose = true)
    (tailBlank : isBlankText tail = true) :
    (Pattern.read [looseBlanks, mark '?', looseBlanks] (loose ++ '?' :: tail)).isSome = true :=
  isSome_read_looseBlanks looseBlank
    (isSome_read_mark (Option.isSome_of_mem (read_looseBlanks_iff.mpr ⟨tailBlank, rfl⟩)))

theorem exists_of_read_questionEnd {text : List Char} {kept : List (List Char)}
    (found : Pattern.read [looseBlanks, mark '?', looseBlanks] text = some kept) :
    kept = [] ∧ ∃ loose tail, text = loose ++ '?' :: tail ∧ isBlankText loose = true ∧
      isBlankText tail = true := by
  rcases exists_of_read_looseBlanks found with ⟨loose, rest, rfl, looseBlank, markRead⟩
  rcases exists_of_read_mark markRead with ⟨tail, rfl, tailRead⟩
  rcases read_looseBlanks_iff.mp tailRead with ⟨tailBlank, rfl⟩
  exact ⟨rfl, loose, tail, rfl, looseBlank, tailBlank⟩

/-- A blank at the front of a phrase would belong to the gap before it, which
takes most. -/
theorem visible_of_behind_gap {extent : Extent} {pieces : Pattern}
    {text blanks phrase rest ending : List Char} {value later : List (List Char)}
    (anyLength : ∀ length, extent.Allows length)
    (gapTakes : gap.Takes (Pattern.read (keep isPhraseChar extent :: pieces)) text blanks rest
      value)
    (phraseTakes : (keep isPhraseChar extent).Takes (Pattern.read pieces) rest phrase ending
      later) :
    ∀ c ∈ phrase.head?, isBlank c = false := by
  intro c first
  rw [Bool.eq_false_iff]
  intro blankFirst
  rcases List.head?_eq_some_iff.mp first with ⟨others, rfl⟩
  rw [phraseTakes.divides, List.cons_append] at gapTakes
  have shorter : (keep isPhraseChar extent).Allows others :=
    ⟨fun d member => phraseTakes.allowed.accepted d (List.mem_cons_of_mem c member),
      anyLength others.length⟩
  exact gapTakes.unreadable_of_most rfl blankFirst
    (Pattern.isSome_read shorter (Option.isSome_of_mem phraseTakes.reads))

theorem exists_of_read_phraseToMark {text : List Char} {kept : List (List Char)}
    (found : phraseToMark.read text = some kept) :
    ∃ after tail, text = after ++ '?' :: tail ∧ StartsBlank after ∧ isBlankText tail = true ∧
      kept = [Text.trimmed after] := by
  rcases Pattern.exists_of_read found with ⟨blanks, rest, later, gapTakes, rfl⟩
  rcases Pattern.exists_of_read gapTakes.reads with ⟨phrase, ending, more, phraseTakes, rfl⟩
  rcases exists_of_read_questionEnd phraseTakes.reads with
    ⟨rfl, loose, tail, rfl, looseBlank, tailBlank⟩
  have blank : isBlankText blanks = true := Text.isBlankText_iff.mpr gapTakes.allowed.accepted
  have count : 1 ≤ blanks.length := gapTakes.allowed.count
  have starts := visible_of_behind_gap (fun _ => Nat.zero_le _) gapTakes phraseTakes
  -- A blank at its end would be left to the loose blanks, as the phrase takes fewest.
  have ends : ∀ c ∈ phrase.getLast?, isBlank c = false := by
    intro c last
    rw [Bool.eq_false_iff]
    intro blankLast
    rcases List.getLast?_eq_some_iff.mp last with ⟨front, rfl⟩
    have looser : isBlankText (c :: loose) = true := by simp [blankLast, looseBlank]
    exact phraseTakes.unreadable_of_fewest rfl (Nat.zero_le front.length)
      (isSome_read_questionEnd looser tailBlank)
  refine ⟨blanks ++ (phrase ++ loose), tail, ?_, ?_, tailBlank, ?_⟩
  · rw [gapTakes.divides, phraseTakes.divides]
    simp
  · exact Text.startsBlank_append _ blank (List.ne_nil_of_length_pos count)
  · rw [Text.trimmed_append blank looseBlank starts ends]
    rfl

theorem isSome_read_phraseToMark {after tail : List Char} (starts : StartsBlank after)
    (oneLine : '\n' ∉ after) (tailBlank : isBlankText tail = true) :
    (phraseToMark.read (after ++ '?' :: tail)).isSome = true := by
  rcases starts with ⟨c, first, blank⟩
  rcases List.head?_eq_some_iff.mp first with ⟨phrase, rfl⟩
  have allowed : (Extent.fewest 0).Allows phrase.length := Nat.zero_le phrase.length
  have phraseRead := isSome_read_phrase allowed
    (fun member => oneLine (List.mem_cons_of_mem c member))
    (isSome_read_questionEnd Text.isBlankText_nil tailBlank)
  have gapBlank : isBlankText [c] = true := by simp [blank]
  simpa [phraseToMark] using isSome_read_gap gapBlank (List.cons_ne_nil c []) phraseRead

theorem length_separator_eq_one {text phrase separator rest : List Char} {pieces : Pattern}
    {value : List (List Char)} {least : Nat}
    (takes : (keep isPhraseChar (.most least)).Takes (Pattern.read (gap :: pieces)) text phrase
      (separator ++ rest) value)
    (blank : isBlankText separator = true) (nonempty : separator ≠ [])
    (oneLine : '\n' ∉ separator) (reads : (Pattern.read pieces rest).isSome = true) :
    separator.length = 1 := by
  rcases List.exists_cons_of_ne_nil nonempty with ⟨c, more, rfl⟩
  by_cases single : more = []
  · rw [single]
    rfl
  · rw [List.cons_append] at takes
    have unreadable :=
      takes.unreadable_of_most rfl (isPhraseChar_of_mem oneLine List.mem_cons_self)
    have moreBlank := ((Text.isBlankText_cons c more).mp blank).2
    exact absurd (isSome_read_gap moreBlank single reads) unreadable

/-- A text made of blanks, a phrase, a separator and an item, where the blanks
are as many as they can be and then the phrase is as long as it can be. -/
structure ItemPhrase (text : List Char) where
  blanks : List Char
  phrase : List Char
  separator : List Char
  item : List Char
  loose : List Char
  parts : text = blanks ++ (phrase ++ (separator ++ (item ++ loose)))
  blanksBlank : isBlankText blanks = true
  blanksNonempty : blanks ≠ []
  separatorBlank : isBlankText separator = true
  separatorNonempty : separator ≠ []
  itemWord : IsWord item
  looseBlank : isBlankText loose = true
  phraseStarts : ∀ c ∈ phrase.head?, isBlank c = false
  phraseReaches : '\n' ∉ separator → separator.length = 1

namespace ItemPhrase

variable {text : List Char}

theorem wordsOf_eq (parts : ItemPhrase text) :
    wordsOf text = wordsOf parts.phrase ++ [parts.item] := by
  have separatorStarts := Text.startsBlank_append (parts.item ++ parts.loose)
    parts.separatorBlank parts.separatorNonempty
  calc
    wordsOf text = wordsOf (parts.phrase ++
        (parts.separator ++ (parts.item ++ parts.loose))) := by
      conv_lhs => rw [parts.parts]
      exact Text.wordsOf_blanks_append _ parts.blanksBlank
    _ = wordsOf parts.phrase ++ wordsOf (parts.item ++ parts.loose) := by
      rw [Text.wordsOf_append_of_stopsWord _ separatorStarts.stopsWord,
        Text.wordsOf_blanks_append _ parts.separatorBlank]
    _ = wordsOf parts.phrase ++ [parts.item] := by
      rw [Text.wordsOf_append_blanks _ parts.looseBlank, parts.itemWord.wordsOf]

theorem startsBlank (parts : ItemPhrase text) : StartsBlank text := by
  conv => rw [parts.parts]
  exact Text.startsBlank_append _ parts.blanksBlank parts.blanksNonempty

theorem startsBlank_tail (parts : ItemPhrase text) (noPhrase : wordsOf parts.phrase = []) :
    StartsBlank text.tail := by
  have phraseBlank := Text.isBlankText_of_wordsOf_eq_nil noPhrase
  rcases List.exists_cons_of_ne_nil parts.blanksNonempty with ⟨c, blanks, equal⟩
  have blank := parts.blanksBlank
  rw [equal, Text.isBlankText_cons] at blank
  have allBlank : isBlankText (blanks ++ (parts.phrase ++ parts.separator)) = true := by
    simp [blank.2, phraseBlank, parts.separatorBlank]
  have nonempty : blanks ++ (parts.phrase ++ parts.separator) ≠ [] := by
    simp [parts.separatorNonempty]
  have starts := Text.startsBlank_append (parts.item ++ parts.loose) allBlank nonempty
  have tailParts : text.tail = blanks ++ (parts.phrase ++ parts.separator) ++
      (parts.item ++ parts.loose) := by
    conv_lhs => rw [parts.parts, equal]
    simp
  rw [tailParts]
  exact starts

end ItemPhrase

theorem exists_of_read_phraseAndItemToMark {text : List Char} {kept : List (List Char)}
    (found : phraseAndItemToMark.read text = some kept) :
    ∃ after tail, text = after ++ '?' :: tail ∧ StartsBlank after ∧ isBlankText tail = true ∧
      ∃ parts : ItemPhrase after, kept = [parts.phrase, parts.item] := by
  rcases Pattern.exists_of_read found with ⟨blanks, afterGap, _, gapTakes, rfl⟩
  rcases Pattern.exists_of_read gapTakes.reads with ⟨phrase, afterPhrase, _, phraseTakes, rfl⟩
  rcases exists_of_read_gap phraseTakes.reads with
    ⟨separator, afterSeparator, rfl, separatorBlank, separatorNonempty, itemRead⟩
  rcases Pattern.exists_of_read itemRead with ⟨item, ending, _, itemTakes, rfl⟩
  rcases exists_of_read_questionEnd itemTakes.reads with
    ⟨rfl, loose, tail, rfl, looseBlank, tailBlank⟩
  have blank : isBlankText blanks = true := Text.isBlankText_iff.mpr gapTakes.allowed.accepted
  have count : 1 ≤ blanks.length := gapTakes.allowed.count
  have itemCount : 1 ≤ item.length := itemTakes.allowed.count
  have isWord : IsWord item := by
    refine ⟨List.ne_nil_of_length_pos itemCount, ?_⟩
    intro c member
    simpa [keep, isItemChar] using itemTakes.allowed.accepted c member
  have itemReadable := Option.isSome_of_mem itemRead
  have starts := visible_of_behind_gap (fun _ => Nat.zero_le _) gapTakes phraseTakes
  have nonempty := List.ne_nil_of_length_pos count
  refine ⟨blanks ++ (phrase ++ (separator ++ (item ++ loose))), tail, ?_,
    Text.startsBlank_append _ blank nonempty, tailBlank, ?_⟩
  · rw [gapTakes.divides, phraseTakes.divides, itemTakes.divides]
    simp
  · exact ⟨{
      blanks := blanks
      phrase := phrase
      separator := separator
      item := item
      loose := loose
      parts := rfl
      blanksBlank := blank
      blanksNonempty := nonempty
      separatorBlank := separatorBlank
      separatorNonempty := separatorNonempty
      itemWord := isWord
      looseBlank := looseBlank
      phraseStarts := starts
      phraseReaches := fun oneLine => length_separator_eq_one phraseTakes separatorBlank
        separatorNonempty oneLine itemReadable }, rfl⟩

theorem isSome_read_phraseAndItemToMark {c : Char}
    {phrase separator item loose tail : List Char} (blank : isBlank c = true)
    (oneLine : '\n' ∉ phrase) (separatorBlank : isBlankText separator = true)
    (nonempty : separator ≠ []) (isWord : IsWord item) (looseBlank : isBlankText loose = true)
    (tailBlank : isBlankText tail = true) :
    (phraseAndItemToMark.read
      (c :: (phrase ++ (separator ++ (item ++ loose))) ++ '?' :: tail)).isSome = true := by
  have itemAllowed : (keep isItemChar (.fewest 1)).Allows item :=
    ⟨fun d member => by simp [keep, isItemChar, isWord.solid d member],
      List.length_pos_iff.mpr isWord.nonempty⟩
  have itemRead := Pattern.isSome_read itemAllowed
    (isSome_read_questionEnd looseBlank tailBlank)
  have allowed : (Extent.most 0).Allows phrase.length := Nat.zero_le phrase.length
  have phraseRead := isSome_read_phrase allowed oneLine
    (isSome_read_gap separatorBlank nonempty itemRead)
  have gapBlank : isBlankText [c] = true := by simp [blank]
  simpa [phraseAndItemToMark] using isSome_read_gap gapBlank (List.cons_ne_nil c []) phraseRead

/-- The words decide whether a phrase and an item can be read: behind the first
blank there is a phrase, or another blank in its place. -/
theorem isSome_read_of_wordsOf {after tail item : List Char} {phraseWords : List (List Char)}
    (words : wordsOf after = phraseWords ++ [item]) (starts : StartsBlank after)
    (room : phraseWords ≠ [] ∨ StartsBlank after.tail) (oneLine : '\n' ∉ after)
    (tailBlank : isBlankText tail = true) :
    (phraseAndItemToMark.read (after ++ '?' :: tail)).isSome = true := by
  rcases Text.exists_cut_of_wordsOf words with ⟨left, right, rfl, leftWords, rightWords, none, some⟩
  rcases Text.exists_of_wordsOf_eq_cons rightWords with
    ⟨separator, loose, rfl, separatorBlank, isWord, looseStops, looseWords⟩
  have looseBlank := Text.isBlankText_of_wordsOf_eq_nil looseWords
  have visible := isWord.not_stopsWord loose
  rcases starts with ⟨c, first, blank⟩
  by_cases noPhrase : phraseWords = []
  · have leftEmpty := none noPhrase
    subst leftEmpty
    cases separator with
    | nil => exact absurd (StartsBlank.stopsWord ⟨c, first, blank⟩) visible
    | cons d separator =>
        have next := room.resolve_left (fun absent => absent noPhrase)
        have nonempty : separator ≠ [] := by
          rintro rfl
          exact visible next.stopsWord
        rw [Text.isBlankText_cons] at separatorBlank
        have phraseOneLine : '\n' ∉ ([] : List Char) := List.not_mem_nil
        exact isSome_read_phraseAndItemToMark separatorBlank.1 phraseOneLine separatorBlank.2
          nonempty isWord looseBlank tailBlank
  · have nonempty : separator ≠ [] := by
      rintro rfl
      exact visible (some noPhrase)
    cases left with
    | nil => exact absurd leftWords.symm noPhrase
    | cons d phrase =>
        have same : d = c := by simpa using first
        subst same
        have phraseOneLine : '\n' ∉ phrase := fun member => oneLine (by simp [member])
        simpa using isSome_read_phraseAndItemToMark blank phraseOneLine separatorBlank nonempty
          isWord looseBlank tailBlank

end TradeSpeech.Sentence
