import Mathlib.Data.List.DropRight
import TradeSpeech.Text.Blank

/-! # The words of a text

How white space divides a text. A text is taken apart at its first word, between
any two of its words, or at its last visible character, and put together again
at places where no two words run into one. -/

namespace TradeSpeech.Text

structure IsWord (run : List Char) : Prop where
  nonempty : run ≠ []
  solid : ∀ c ∈ run, isBlank c = false

instance (run : List Char) : Decidable (IsWord run) :=
  decidable_of_iff (run ≠ [] ∧ run.any isBlank = false)
    ⟨fun parts => ⟨parts.1, by simpa using parts.2⟩,
      fun isWord => ⟨isWord.nonempty, by simpa using isWord.solid⟩⟩

def StopsWord (text : List Char) : Prop :=
  ∀ c ∈ text.head?, isBlank c = true

def StartsBlank (text : List Char) : Prop :=
  ∃ c ∈ text.head?, isBlank c = true

instance (text : List Char) : Decidable (StartsBlank text) :=
  decidable_of_iff (text.head?.any isBlank = true) (by simp [StartsBlank, Option.any_eq_true])

theorem StartsBlank.stopsWord {text : List Char} (starts : StartsBlank text) :
    StopsWord text := by
  rcases starts with ⟨c, first, blank⟩
  intro other otherFirst
  rw [Option.mem_def] at first otherFirst
  cases first.symm.trans otherFirst
  exact blank

theorem StartsBlank.append {text : List Char} (starts : StartsBlank text)
    (more : List Char) : StartsBlank (text ++ more) := by
  rcases starts with ⟨c, first, blank⟩
  rcases List.head?_eq_some_iff.mp first with ⟨rest, rfl⟩
  exact ⟨c, rfl, blank⟩

@[simp] theorem isBlankText_nil : isBlankText [] = true := rfl

theorem isBlankText_iff {text : List Char} :
    isBlankText text = true ↔ ∀ c ∈ text, isBlank c = true := by
  simp [isBlankText]

@[simp] theorem isBlankText_cons (c : Char) (rest : List Char) :
    isBlankText (c :: rest) = true ↔ isBlank c = true ∧ isBlankText rest = true := by
  simp [isBlankText]

@[simp] theorem isBlankText_append (left right : List Char) :
    isBlankText (left ++ right) = true ↔
      isBlankText left = true ∧ isBlankText right = true := by
  simp [isBlankText]

theorem stopsWord_of_isBlankText {text : List Char} (blank : isBlankText text = true) :
    StopsWord text := by
  intro c first
  exact isBlankText_iff.mp blank c (List.mem_of_mem_head? first)

theorem startsBlank_append {left : List Char} (right : List Char)
    (blank : isBlankText left = true) (nonempty : left ≠ []) :
    StartsBlank (left ++ right) := by
  cases left with
  | nil => exact absurd rfl nonempty
  | cons c rest => exact ⟨c, rfl, ((isBlankText_cons c rest).mp blank).1⟩

theorem StopsWord.startsBlank {text : List Char} (stops : StopsWord text)
    (nonempty : text ≠ []) : StartsBlank text := by
  cases text with
  | nil => exact absurd rfl nonempty
  | cons c rest => exact ⟨c, rfl, stops c rfl⟩

/-! ## Words of texts put together -/

@[simp] theorem wordsOf_nil : wordsOf [] = [] := rfl

theorem wordsOf_append_cons (left right : List Char) {c : Char} (blank : isBlank c = true) :
    wordsOf (left ++ c :: right) = wordsOf left ++ wordsOf right := by
  simp [wordsOf, List.splitOnP_append_cons left right blank]

theorem wordsOf_cons {c : Char} (blank : isBlank c = true) (rest : List Char) :
    wordsOf (c :: rest) = wordsOf rest := by
  simpa using wordsOf_append_cons [] rest blank

theorem wordsOf_append_of_stopsWord (left : List Char) {right : List Char}
    (stops : StopsWord right) : wordsOf (left ++ right) = wordsOf left ++ wordsOf right := by
  cases right with
  | nil => simp
  | cons c rest =>
      have blank : isBlank c = true := stops c rfl
      rw [wordsOf_append_cons left rest blank, wordsOf_cons blank]

theorem wordsOf_of_isBlankText {text : List Char} (blank : isBlankText text = true) :
    wordsOf text = [] := by
  induction text with
  | nil => rfl
  | cons c rest induction =>
      rw [isBlankText_cons] at blank
      rw [wordsOf_cons blank.1, induction blank.2]

theorem wordsOf_blanks_append {lead : List Char} (rest : List Char)
    (blank : isBlankText lead = true) : wordsOf (lead ++ rest) = wordsOf rest := by
  induction lead with
  | nil => rfl
  | cons c lead induction =>
      rw [isBlankText_cons] at blank
      rw [List.cons_append, wordsOf_cons blank.1, induction blank.2]

theorem wordsOf_append_blanks (text : List Char) {tail : List Char}
    (blank : isBlankText tail = true) : wordsOf (text ++ tail) = wordsOf text := by
  rw [wordsOf_append_of_stopsWord text (stopsWord_of_isBlankText blank),
    wordsOf_of_isBlankText blank, List.append_nil]

theorem IsWord.wordsOf {word : List Char} (isWord : IsWord word) : wordsOf word = [word] := by
  have nonempty : word.isEmpty = false := by
    simpa using isWord.nonempty
  simp [Text.wordsOf, List.splitOnP_eq_singleton isWord.solid, nonempty]

theorem IsWord.wordsOf_append {word rest : List Char} (isWord : IsWord word)
    (stops : StopsWord rest) : Text.wordsOf (word ++ rest) = word :: Text.wordsOf rest := by
  rw [wordsOf_append_of_stopsWord word stops, isWord.wordsOf, List.singleton_append]

/-! ## Taking a text apart -/

def afterWord (text : List Char) : List Char :=
  (text.dropWhile isBlank).dropWhile fun c => !isBlank c

def afterWords : Nat → List Char → List Char
  | 0, text => text
  | count + 1, text => afterWords count (afterWord text)

theorem dropWhile_isBlank_append {lead text : List Char} (blank : isBlankText lead = true)
    (starts : ∀ c ∈ text.head?, isBlank c = false) :
    (lead ++ text).dropWhile isBlank = text := by
  rw [List.dropWhile_append_of_pos (isBlankText_iff.mp blank)]
  cases text with
  | nil => rfl
  | cons c rest => exact List.dropWhile_cons_of_neg (by simp [starts c rfl])

theorem afterWord_append {lead word rest : List Char} (blank : isBlankText lead = true)
    (isWord : IsWord word) (stops : StopsWord rest) :
    afterWord (lead ++ (word ++ rest)) = rest := by
  rcases List.exists_cons_of_ne_nil isWord.nonempty with ⟨c, letters, rfl⟩
  have visible : isBlank c = false := isWord.solid c (by simp)
  have wordEnds : ((c :: letters) ++ rest).dropWhile (fun c => !isBlank c) = rest := by
    rw [List.dropWhile_append_of_pos (fun d member => by simp [isWord.solid d member])]
    cases rest with
    | nil => rfl
    | cons d rest => exact List.dropWhile_cons_of_neg (by simp [stops d rfl])
  have wordBegins : (lead ++ ((c :: letters) ++ rest)).dropWhile isBlank =
      (c :: letters) ++ rest :=
    dropWhile_isBlank_append blank (by simp [visible])
  rw [afterWord, wordBegins, wordEnds]

theorem exists_word_append {c : Char} (visible : isBlank c = false) (rest : List Char) :
    ∃ word others, c :: rest = word ++ others ∧ IsWord word ∧ StopsWord others := by
  let solid : Char → Bool := fun d => !isBlank d
  refine ⟨(c :: rest).takeWhile solid, (c :: rest).dropWhile solid,
    List.takeWhile_append_dropWhile.symm, ⟨?_, ?_⟩, ?_⟩
  · rw [List.takeWhile_cons_of_pos (by simp [solid, visible])]
    exact List.cons_ne_nil _ _
  · intro d member
    have taken : solid d = true := List.all_eq_true.mp List.all_takeWhile d member
    simpa [solid] using taken
  · intro d first
    have stopped := List.head?_dropWhile_not solid (c :: rest)
    rw [Option.mem_def] at first
    rw [first] at stopped
    simpa [solid] using stopped

theorem exists_of_wordsOf_eq_cons {text word : List Char} {later : List (List Char)}
    (words : wordsOf text = word :: later) :
    ∃ lead rest, text = lead ++ (word ++ rest) ∧ isBlankText lead = true ∧ IsWord word ∧
      StopsWord rest ∧ wordsOf rest = later := by
  induction text with
  | nil => cases words
  | cons c text induction =>
      cases blank : isBlank c with
      | true =>
          rw [wordsOf_cons blank] at words
          rcases induction words with ⟨lead, rest, rfl, leadBlank, found⟩
          exact ⟨c :: lead, rest, rfl, by simp [blank, leadBlank], found⟩
      | false =>
          rcases exists_word_append blank text with ⟨first, rest, parts, isWord, stops⟩
          rw [parts, isWord.wordsOf_append stops] at words
          injection words with sameWord sameLater
          subst sameWord
          exact ⟨[], rest, by simpa using parts, rfl, isWord, stops, sameLater⟩

theorem isWord_of_mem_wordsOf {text word : List Char} (member : word ∈ wordsOf text) :
    IsWord word := by
  generalize found : wordsOf text = words at member
  induction words generalizing text with
  | nil => cases member
  | cons first later induction =>
      rcases exists_of_wordsOf_eq_cons found with ⟨lead, rest, _, _, isWord, _, restWords⟩
      rcases List.mem_cons.mp member with rfl | member
      · exact isWord
      · exact induction restWords member

theorem isBlankText_of_wordsOf_eq_nil {text : List Char} (words : wordsOf text = []) :
    isBlankText text = true := by
  induction text with
  | nil => rfl
  | cons c text induction =>
      cases blank : isBlank c with
      | true =>
          rw [wordsOf_cons blank] at words
          simp [blank, induction words]
      | false =>
          rcases exists_word_append blank text with ⟨first, rest, parts, isWord, stops⟩
          rw [parts, isWord.wordsOf_append stops] at words
          cases words

theorem IsWord.not_stopsWord {word : List Char} (isWord : IsWord word) (rest : List Char) :
    ¬StopsWord (word ++ rest) := by
  rcases List.exists_cons_of_ne_nil isWord.nonempty with ⟨c, letters, rfl⟩
  intro stops
  have visible : isBlank c = false := isWord.solid c List.mem_cons_self
  have blank : isBlank c = true := stops c rfl
  rw [visible] at blank
  cases blank

/-- The text begins with the words `said`, each after blanks, and goes on with
`rest` right behind the last of them. -/
inductive Begins : List Char → List (List Char) → List Char → Prop
  | nil (text : List Char) : Begins text [] text
  | cons (blank : isBlankText lead = true) (isWord : IsWord word) (stops : StopsWord more)
      (later : Begins more said rest) : Begins (lead ++ (word ++ more)) (word :: said) rest

theorem Begins.wordsOf {text rest : List Char} {said : List (List Char)}
    (begins : Begins text said rest) : Text.wordsOf text = said ++ Text.wordsOf rest := by
  induction begins with
  | nil text => rfl
  | cons blank isWord stops later induction =>
      rw [wordsOf_blanks_append _ blank, isWord.wordsOf_append stops, induction,
        List.cons_append]

theorem Begins.afterWords {text rest : List Char} {said : List (List Char)}
    (begins : Begins text said rest) : Text.afterWords said.length text = rest := by
  induction begins with
  | nil text => rfl
  | cons blank isWord stops later induction =>
      rw [List.length_cons, Text.afterWords, afterWord_append blank isWord stops, induction]

theorem begins_of_wordsOf {text : List Char} {said later : List (List Char)}
    (words : Text.wordsOf text = said ++ later) :
    Begins text said (Text.afterWords said.length text) := by
  induction said generalizing text with
  | nil => exact .nil text
  | cons word said induction =>
      rcases exists_of_wordsOf_eq_cons words with
        ⟨lead, rest, rfl, blank, isWord, stops, restWords⟩
      rw [List.length_cons, Text.afterWords, afterWord_append blank isWord stops]
      exact .cons blank isWord stops (induction restWords)

theorem Begins.wordsOf_eq {text rest : List Char} {said : List (List Char)}
    (begins : Begins text said rest) (blank : isBlankText rest = true) :
    Text.wordsOf text = said := by
  rw [begins.wordsOf, wordsOf_of_isBlankText blank, List.append_nil]

theorem exists_begins_wordsOf (text : List Char) :
    ∃ rest, Begins text (Text.wordsOf text) rest ∧ isBlankText rest = true := by
  have begins := begins_of_wordsOf (List.append_nil (Text.wordsOf text)).symm
  have noMore := begins.wordsOf
  rw [eq_comm, List.append_right_eq_self] at noMore
  exact ⟨_, begins, isBlankText_of_wordsOf_eq_nil noMore⟩

/-- The words at the beginning do not depend on how the text goes on. -/
theorem Begins.exists_opening {text rest : List Char} {said : List (List Char)}
    (begins : Begins text said rest) :
    ∃ opening, text = opening ++ rest ∧
      ∀ other, StopsWord other → Begins (opening ++ other) said other := by
  induction begins with
  | nil text => exact ⟨[], rfl, fun other _ => .nil other⟩
  | @cons lead word more said rest blank isWord stops later induction =>
      rcases induction with ⟨opening, rfl, others⟩
      refine ⟨lead ++ (word ++ opening), by simp, ?_⟩
      intro other otherStops
      have goesOn := others other otherStops
      have openingStops : StopsWord (opening ++ other) := by
        cases opening with
        | nil => exact otherStops
        | cons c opening => exact fun d first => stops d first
      simpa using Begins.cons blank isWord openingStops goesOn

theorem Begins.append {text rest : List Char} {said : List (List Char)}
    (begins : Begins text said rest) (starts : StartsBlank rest) (more : List Char) :
    Begins (text ++ more) said (rest ++ more) := by
  rcases begins.exists_opening with ⟨opening, rfl, others⟩
  have goesOn := others (rest ++ more) (starts.append more).stopsWord
  simpa using goesOn

theorem Begins.exists_append {text rest more : List Char} {said : List (List Char)}
    (begins : Begins text said (rest ++ more)) (starts : StartsBlank rest) :
    ∃ body, text = body ++ more ∧ Begins body said rest := by
  rcases begins.exists_opening with ⟨opening, rfl, others⟩
  exact ⟨opening ++ rest, by simp, others rest starts.stopsWord⟩

theorem Begins.stopsWord {text rest word : List Char} {said : List (List Char)}
    (begins : Begins text (word :: said) rest) : StopsWord rest := by
  generalize found : word :: said = words at begins
  induction begins generalizing word said with
  | nil text => cases found
  | cons blank isWord stops later induction =>
      injection found with _ found
      cases later with
      | nil => exact stops
      | cons => exact induction rfl

theorem exists_cut_of_wordsOf {text : List Char} {early late : List (List Char)}
    (words : Text.wordsOf text = early ++ late) :
    ∃ left right, text = left ++ right ∧ Text.wordsOf left = early ∧ Text.wordsOf right = late ∧
      (early = [] → left = []) ∧ (early ≠ [] → StopsWord right) := by
  cases early with
  | nil => exact ⟨[], text, rfl, rfl, words, fun _ => rfl, fun some => absurd rfl some⟩
  | cons word said =>
      have begins := begins_of_wordsOf words
      have stops := begins.stopsWord
      have both := begins.wordsOf
      rw [words] at both
      rcases begins.exists_opening with ⟨left, parts, others⟩
      have leftBegins := others [] (fun _ none => nomatch none)
      rw [List.append_nil] at leftBegins
      exact ⟨left, _, parts, leftBegins.wordsOf_eq rfl, (List.append_cancel_left both).symm,
        fun none => (nomatch none), fun _ => stops⟩

/-! ## Where the visible text ends -/

def trimmedEnd (text : List Char) : List Char :=
  (text.reverse.dropWhile isBlank).reverse

@[simp] theorem trimmedEnd_append_mark (front : List Char) {c : Char} {tail : List Char}
    (visible : isBlank c = false) (blank : isBlankText tail = true) :
    trimmedEnd (front ++ c :: tail) = front ++ [c] := by
  have tailBlank : ∀ d ∈ tail.reverse, isBlank d = true := by
    intro d member
    exact isBlankText_iff.mp blank d (List.mem_reverse.mp member)
  simp [trimmedEnd, List.dropWhile_append_of_pos tailBlank, visible]

theorem trimmed_eq_trimmedEnd (text : List Char) :
    trimmed text = trimmedEnd (text.dropWhile isBlank) := rfl

/-- A text is divided at its last visible character in one way only. -/
theorem append_mark_inj {left right tail rest : List Char} {c d : Char}
    (equal : left ++ c :: tail = right ++ d :: rest)
    (leftVisible : isBlank c = false) (tailBlank : isBlankText tail = true)
    (rightVisible : isBlank d = false) (restBlank : isBlankText rest = true) :
    left = right ∧ c = d := by
  have ends := congrArg trimmedEnd equal
  rw [trimmedEnd_append_mark left leftVisible tailBlank,
    trimmedEnd_append_mark right rightVisible restBlank] at ends
  have parts := List.append_inj' ends rfl
  exact ⟨parts.1, List.singleton_inj.mp parts.2⟩

theorem exists_wordsOf_append_mark (front : List Char) {c : Char} {tail : List Char}
    (visible : isBlank c = false) (blank : isBlankText tail = true) :
    ∃ early letters, wordsOf (front ++ c :: tail) = early ++ [letters ++ [c]] ∧
      wordsOf front = early ++ wordsOf letters ∧ (letters = [] ∨ IsWord letters) := by
  rcases List.eq_nil_or_concat (wordsOf (front ++ c :: tail)) with none | ⟨early, last, words⟩
  · have allBlank := isBlankText_of_wordsOf_eq_nil none
    simp [visible] at allBlank
  · rw [List.concat_eq_append] at words
    rcases exists_cut_of_wordsOf words with
      ⟨left, right, parts, leftWords, rightWords, noLeft, stops⟩
    rcases exists_of_wordsOf_eq_cons rightWords with
      ⟨lead, rest, rfl, leadBlank, isWord, _, restWords⟩
    have restBlank := isBlankText_of_wordsOf_eq_nil restWords
    rcases List.eq_nil_or_concat last with rfl | ⟨letters, d, rfl⟩
    · exact absurd rfl isWord.nonempty
    · rw [List.concat_eq_append] at parts words isWord stops
      have lastLetter : isBlank d = false := isWord.solid d (by simp)
      have divided : front ++ c :: tail = (left ++ (lead ++ letters)) ++ d :: rest := by
        rw [parts]
        simp
      rcases append_mark_inj divided visible blank lastLetter restBlank with ⟨rfl, rfl⟩
      refine ⟨early, letters, words, ?_, ?_⟩
      · rw [← leftWords]
        by_cases noEarly : early = []
        · rw [noLeft noEarly, List.nil_append, wordsOf_nil, List.nil_append,
            wordsOf_blanks_append letters leadBlank]
        · have someLead : lead ≠ [] := by
            rintro rfl
            exact isWord.not_stopsWord rest (stops noEarly)
          have leadStops := (startsBlank_append letters leadBlank someLead).stopsWord
          rw [wordsOf_append_of_stopsWord left leadStops,
            wordsOf_blanks_append letters leadBlank]
      · by_cases none : letters = []
        · exact .inl none
        · exact .inr ⟨none, fun e member => isWord.solid e (List.mem_append_left [c] member)⟩

theorem wordsOf_eq_of_append_mark {front other tail rest : List Char} {c d : Char}
    (words : wordsOf (front ++ c :: tail) = wordsOf (other ++ d :: rest))
    (visible : isBlank c = false) (blank : isBlankText tail = true)
    (otherVisible : isBlank d = false) (restBlank : isBlankText rest = true) :
    wordsOf front = wordsOf other := by
  rcases exists_wordsOf_append_mark front visible blank with ⟨early, letters, whole, frontWords, _⟩
  rcases exists_wordsOf_append_mark other otherVisible restBlank with
    ⟨others, run, otherWhole, otherWords, _⟩
  rw [whole, otherWhole] at words
  rcases List.append_inj' words rfl with ⟨rfl, sameLast⟩
  rcases List.append_inj' (List.singleton_inj.mp sameLast) rfl with ⟨rfl, _⟩
  rw [frontWords, otherWords]

theorem wordsOf_append_mark_of_single {front tail word : List Char} {c : Char}
    (visible : isBlank c = false) (blank : isBlankText tail = true)
    (single : wordsOf front = [word]) :
    wordsOf (front ++ c :: tail) = [word ++ [c]] ∨ wordsOf (front ++ c :: tail) = [word, [c]] := by
  rcases exists_wordsOf_append_mark front visible blank with
    ⟨early, letters, whole, frontWords, isLetters⟩
  rw [single] at frontWords
  rcases isLetters with rfl | isWord
  · right
    rw [wordsOf_nil, List.append_nil] at frontWords
    rw [whole, ← frontWords]
    rfl
  · left
    rw [isWord.wordsOf] at frontWords
    rcases List.append_inj' (show [] ++ [word] = _ from frontWords) rfl with ⟨rfl, sameWord⟩
    rw [whole, List.singleton_inj.mp sameWord]
    rfl

theorem length_wordsOf_le_one {front tail word : List Char} {c : Char}
    (visible : isBlank c = false) (blank : isBlankText tail = true)
    (marked : wordsOf (front ++ c :: tail) = [word ++ [c]] ∨
      wordsOf (front ++ c :: tail) = [word, [c]]) : (wordsOf front).length ≤ 1 := by
  rcases exists_wordsOf_append_mark front visible blank with
    ⟨early, letters, whole, frontWords, isLetters⟩
  rw [whole] at marked
  rw [frontWords]
  rcases marked with joined | apart
  · have noEarly : early = [] := by
      simpa using congrArg List.length joined
    rcases isLetters with rfl | isWord
    · simp [noEarly]
    · simp [noEarly, isWord.wordsOf]
  · rcases List.append_inj' (show _ = [word] ++ [[c]] from apart) rfl with ⟨rfl, sameMark⟩
    have noLetters : letters = [] := by
      simpa using sameMark
    simp [noLetters]

def lastVisible (text : List Char) : Option Char :=
  (wordsOf text).getLast?.bind List.getLast?

theorem lastVisible_append_mark (front : List Char) {c : Char} {tail : List Char}
    (visible : isBlank c = false) (blank : isBlankText tail = true) :
    lastVisible (front ++ c :: tail) = some c := by
  rcases exists_wordsOf_append_mark front visible blank with ⟨early, letters, words, _⟩
  rw [lastVisible, words]
  simp

theorem exists_of_lastVisible {text : List Char} {c : Char} (last : lastVisible text = some c) :
    ∃ front tail, text = front ++ c :: tail ∧ isBlankText tail = true := by
  rw [lastVisible, Option.bind_eq_some_iff] at last
  rcases last with ⟨word, lastWord, lastLetter⟩
  rcases List.getLast?_eq_some_iff.mp lastWord with ⟨early, words⟩
  rcases List.getLast?_eq_some_iff.mp lastLetter with ⟨letters, rfl⟩
  rcases exists_cut_of_wordsOf words with ⟨left, right, rfl, _, rightWords, _⟩
  rcases exists_of_wordsOf_eq_cons rightWords with ⟨lead, rest, rfl, _, _, _, restWords⟩
  exact ⟨left ++ (lead ++ letters), rest, by simp, isBlankText_of_wordsOf_eq_nil restWords⟩

theorem trimmed_append {lead core tail : List Char} (leadBlank : isBlankText lead = true)
    (tailBlank : isBlankText tail = true) (starts : ∀ c ∈ core.head?, isBlank c = false)
    (ends : ∀ c ∈ core.getLast?, isBlank c = false) :
    trimmed (lead ++ (core ++ tail)) = core := by
  rcases List.eq_nil_or_concat core with rfl | ⟨front, c, equal⟩
  · have allBlank : ∀ d ∈ lead ++ tail, isBlank d = true := by
      apply isBlankText_iff.mp
      simp [leadBlank, tailBlank]
    have dropped : (lead ++ tail).dropWhile isBlank = [] := by
      rw [← List.append_nil (lead ++ tail), List.dropWhile_append_of_pos allBlank]
      rfl
    simp [trimmed_eq_trimmedEnd, dropped, trimmedEnd]
  · rw [List.concat_eq_append] at equal
    subst equal
    have visible : isBlank c = false := ends c (by simp)
    have leadDropped : (lead ++ (front ++ [c] ++ tail)).dropWhile isBlank =
        front ++ c :: tail := by
      rw [List.dropWhile_append_of_pos (isBlankText_iff.mp leadBlank)]
      cases front with
      | nil => exact List.dropWhile_cons_of_neg (by simp [visible])
      | cons d front =>
          have first : isBlank d = false := starts d rfl
          simp [first]
    rw [trimmed_eq_trimmedEnd, leadDropped, trimmedEnd_append_mark front visible tailBlank]

theorem IsWord.trimmed_append {lead word tail : List Char} (isWord : IsWord word)
    (leadBlank : isBlankText lead = true) (tailBlank : isBlankText tail = true) :
    trimmed (lead ++ (word ++ tail)) = word :=
  Text.trimmed_append leadBlank tailBlank
    (fun c first => isWord.solid c (List.mem_of_mem_head? first))
    (fun c last => isWord.solid c (List.mem_of_getLast? last))

theorem exists_append_trimmedEnd (text : List Char) :
    ∃ tail, text = trimmedEnd text ++ tail ∧ isBlankText tail = true := by
  refine ⟨(text.reverse.takeWhile isBlank).reverse, ?_, ?_⟩
  · rw [trimmedEnd, ← List.reverse_append, List.takeWhile_append_dropWhile,
      List.reverse_reverse]
  · rw [isBlankText, List.all_reverse]
    exact List.all_takeWhile

theorem trimmed_subset (text : List Char) : trimmed text ⊆ text := by
  rcases exists_append_trimmedEnd (text.dropWhile isBlank) with ⟨tail, parts, _⟩
  rw [← trimmed_eq_trimmedEnd] at parts
  have ends : trimmed text ⊆ text.dropWhile isBlank := by
    rw [parts]
    exact List.subset_append_left (trimmed text) tail
  exact List.Subset.trans ends (List.dropWhile_suffix isBlank).subset

theorem wordsOf_dropWhile_isBlank (text : List Char) :
    wordsOf (text.dropWhile isBlank) = wordsOf text := by
  have leadBlank : isBlankText (text.takeWhile isBlank) = true := List.all_takeWhile
  rw [← wordsOf_blanks_append (text.dropWhile isBlank) leadBlank,
    List.takeWhile_append_dropWhile]

theorem wordsOf_trimmed (text : List Char) : wordsOf (trimmed text) = wordsOf text := by
  rcases exists_append_trimmedEnd (text.dropWhile isBlank) with ⟨tail, parts, blank⟩
  have tailDropped := wordsOf_append_blanks (trimmedEnd (text.dropWhile isBlank)) blank
  rw [← parts] at tailDropped
  calc
    wordsOf (trimmed text) = wordsOf (text.dropWhile isBlank) := tailDropped.symm
    _ = wordsOf text := wordsOf_dropWhile_isBlank text

theorem trimmed_dropWhile_isBlank (text : List Char) :
    trimmed (text.dropWhile isBlank) = trimmed text := by
  rw [trimmed, List.dropWhile_idempotent, trimmed]

theorem isWord_trimmed_of_single {text : List Char} (single : (wordsOf text).length = 1) :
    IsWord (trimmed text) := by
  rcases List.length_eq_one_iff.mp single with ⟨word, words⟩
  rcases exists_of_wordsOf_eq_cons words with ⟨lead, rest, rfl, leadBlank, isWord, _, restWords⟩
  rw [isWord.trimmed_append leadBlank (isBlankText_of_wordsOf_eq_nil restWords)]
  exact isWord

/-! ## Words as texts -/

theorem words_ofList (text : List Char) :
    words (String.ofList text) = (wordsOf text).map String.ofList := by
  rw [words, String.toList_ofList]

theorem words_eq_iff {text : String} {found : List String} :
    words text = found ↔ wordsOf text.toList = found.map String.toList := by
  constructor
  · rintro rfl
    simp [words, Function.comp_def]
  · intro equal
    simp [words, equal, Function.comp_def]

theorem words_eq_append {text left : String} {right : List Char}
    (parts : text.toList = left.toList ++ right) (stops : StopsWord right) :
    words text = words left ++ words (String.ofList right) := by
  rw [words, parts, wordsOf_append_of_stopsWord _ stops, List.map_append, words, words,
    String.toList_ofList]

theorem isWord_of_mem_words {text word : String} (member : word ∈ words text) :
    IsWord word.toList := by
  rcases List.mem_map.mp member with ⟨run, runMember, rfl⟩
  rw [String.toList_ofList]
  exact isWord_of_mem_wordsOf runMember

theorem startsBlank_append_of_words {left : String} {right : List Char}
    (none : words left = []) (starts : StartsBlank right) :
    StartsBlank (left.toList ++ right) := by
  have blank : isBlankText left.toList = true :=
    isBlankText_of_wordsOf_eq_nil (words_eq_iff.mp none)
  by_cases empty : left.toList = []
  · rw [empty]
    exact starts
  · exact startsBlank_append right blank empty

end TradeSpeech.Text
