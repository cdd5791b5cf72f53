import TradeSpeech.Proofs.Sentence.Likeness
import TradeSpeech.Proofs.Sentence.Questions
import TradeSpeech.Proofs.Sentence.Definitions
import TradeSpeech.Proofs.Text.Case

/-! # Sentences that differ in case

No class of characters that a sentence is made of tells small letters from capitals.
Lines that differ in case only are therefore divided alike, and what is kept of them
differs in case only. -/

namespace TradeSpeech.Sentence

open Text (isBlank isDigit SameButCase)

/-! ## Readings of renamed texts -/

section

variable {f : Char → Char} {accepts : Char → Bool} {next : List Char → Option α}
  {renamed : List Char → Option β} {change : α → β}

theorem Preference.choose_map (preference : Preference) (change : α → β)
    (longer shorter : Option α) :
    (preference.choose longer shorter).map change =
      preference.choose (longer.map change) (shorter.map change) := by
  cases preference with
  | longer | shorter => exact Option.map_or

theorem takeRun_map (preference : Preference) (blind : ∀ c, accepts (f c) = accepts c)
    (later : ∀ rest, renamed (rest.map f) = (next rest).map change) (least : Nat)
    (text : List Char) :
    takeRun preference accepts renamed least (text.map f) =
      (takeRun preference accepts next least text).map (Prod.map (List.map f) change) := by
  induction text generalizing least with
  | nil =>
      have atEnd : renamed [] = (next []).map change := later []
      cases least with
      | zero => simp [takeRun, atEnd, Function.comp_def, emptyRun]
      | succ least => rfl
  | cons c rest induction =>
      have here : renamed (f c :: rest.map f) = (next (c :: rest)).map change :=
        later (c :: rest)
      cases least with
      | zero =>
          cases accepted : accepts c <;>
            simp [takeRun, blind, accepted, induction, here, Preference.choose_map,
              Function.comp_def, emptyRun, extendRun]
      | succ least =>
          cases accepted : accepts c <;>
            simp [takeRun, blind, accepted, induction, Function.comp_def, extendRun]

theorem Piece.take_map {piece : Piece} (blind : ∀ c, piece.accepts (f c) = piece.accepts c)
    (later : ∀ rest, renamed (rest.map f) = (next rest).map change) (text : List Char) :
    piece.take renamed (text.map f) =
      (piece.take next text).map (Prod.map (List.map f) change) := by
  rcases piece with ⟨accepts, extent, kept⟩
  cases extent with
  | one =>
      cases text with
      | nil => rfl
      | cons c rest =>
          cases accepted : accepts c <;>
            simp_all [Piece.take, Function.comp_def, emptyRun, extendRun]
  | most least | fewest least => exact takeRun_map _ blind later least text

def Pattern.IsBlindTo (pattern : Pattern) (f : Char → Char) : Prop :=
  ∀ piece ∈ pattern, ∀ c, piece.accepts (f c) = piece.accepts c

theorem Pattern.read_map {pattern : Pattern} (blind : pattern.IsBlindTo f)
    (text : List Char) :
    pattern.read (text.map f) = (pattern.read text).map (List.map (List.map f)) := by
  induction pattern generalizing text with
  | nil => cases text <;> rfl
  | cons piece pieces induction =>
      have later : Pattern.IsBlindTo pieces f := fun other member =>
        blind other (List.mem_cons_of_mem piece member)
      rw [Pattern.read, Pattern.read,
        Piece.take_map (blind piece List.mem_cons_self) (induction later), Option.map_map,
        Option.map_map]
      congr 1
      funext taken
      cases isKept : piece.kept <;> simp [Piece.keepRun, isKept]

end

/-! ## Classes of characters -/

theorem ofChar?_toLower (c : Char) : Symbol.ofChar? c.toLower = Symbol.ofChar? c := by
  rw [Symbol.ofChar?, Symbol.ofChar?, Char.toUpper_toLower_eq_toUpper]

@[simp] theorem isSymbolLetter_toLower (c : Char) : isSymbolLetter c.toLower = isSymbolLetter c := by
  rw [isSymbolLetter, isSymbolLetter, ofChar?_toLower]

@[simp] theorem isWordLetter_toLower (c : Char) :
    Text.isWordLetter c.toLower = Text.isWordLetter c := by
  rw [Text.isWordLetter, Text.isWordLetter, Text.keywordForm_toLower]

@[simp] theorem isItemChar_toLower (c : Char) : isItemChar c.toLower = isItemChar c := by
  rw [isItemChar, isItemChar, Text.isBlank_toLower]

@[simp] theorem beq_toLower {d : Char} (noLetter : Text.isLetter d = false) (c : Char) :
    (c.toLower == d) = (c == d) := by
  rw [Bool.eq_iff_iff, beq_iff_eq, beq_iff_eq, Text.toLower_eq_iff noLetter]

@[simp] theorem isPhraseChar_toLower (c : Char) : isPhraseChar c.toLower = isPhraseChar c := by
  rw [isPhraseChar, isPhraseChar, bne, bne, beq_toLower (by decide)]

theorem isDigit_iff {c : Char} : isDigit c = true ↔ 48 ≤ c.toNat ∧ c.toNat ≤ 57 := by
  simp only [isDigit, Bool.and_eq_true, decide_eq_true_eq, Char.le_def, UInt32.le_iff_toNat_le]
  rfl

theorem toLower_of_isDigit {c : Char} (digit : isDigit c = true) : c.toLower = c := by
  rw [isDigit_iff] at digit
  rw [← Char.toNat_inj, Text.toNat_toLower, if_neg (by omega)]

@[simp] theorem isDigit_toLower (c : Char) : isDigit c.toLower = isDigit c := by
  rw [Bool.eq_iff_iff, isDigit_iff, isDigit_iff, Text.toNat_toLower]
  split <;> omega

/-! ## Patterns -/

@[simp] theorem isBlindTo_cons {piece : Piece} {pieces : Pattern} {f : Char → Char} :
    Pattern.IsBlindTo (piece :: pieces) f ↔
      (∀ c, piece.accepts (f c) = piece.accepts c) ∧ Pattern.IsBlindTo pieces f :=
  List.forall_mem_cons

@[simp] theorem isBlindTo_append {front pieces : Pattern} {f : Char → Char} :
    Pattern.IsBlindTo (front ++ pieces) f ↔
      Pattern.IsBlindTo front f ∧ Pattern.IsBlindTo pieces f :=
  List.forall_mem_append

@[simp] theorem isBlindTo_nil {f : Char → Char} : Pattern.IsBlindTo [] f :=
  fun _ member => absurd member List.not_mem_nil

@[simp] theorem isBlindTo_keyword (word : String) : (keyword word).IsBlindTo Char.toLower := by
  intro piece member
  rcases List.mem_map.mp member with ⟨lower, _, rfl⟩
  intro c
  simp only [letter, Text.sameLetter, Text.keywordForm_toLower]

theorem Kind.pattern_isBlindTo_toLower (kind : Kind) : kind.pattern.IsBlindTo Char.toLower := by
  cases kind <;>
    simp (disch := decide) [pattern, AliasDefinition.pattern, PriceDefinition.pattern,
      ValueQuestion.pattern, PriceQuestion.pattern, looseBlanks, gap, keep, mark,
      Text.isBlank_toLower]

theorem Pattern.find_sameButCase {pattern : Pattern} {line other : String}
    (blind : pattern.IsBlindTo Char.toLower) (same : SameButCase line other) :
    (pattern.find line.toList).map (List.map (List.map Char.toLower)) =
      (pattern.find other.toList).map (List.map (List.map Char.toLower)) := by
  rw [find_eq_read, find_eq_read, ← Pattern.read_map blind, Text.sameButCase_iff.mp same,
    Pattern.read_map blind]

/-! ## Forms -/

theorem Pattern.exists_read_of_sameButCase {pattern : Pattern} {line other : String}
    {kept : List String} (blind : pattern.IsBlindTo Char.toLower)
    (same : SameButCase line other)
    (found : pattern.read line.toList = some (kept.map String.toList)) :
    ∃ others : List String, pattern.read other.toList = some (others.map String.toList) ∧
      List.Forall₂ SameButCase kept others := by
  have sameKept := Pattern.find_sameButCase blind same
  rw [find_eq_read, find_eq_read, found, Option.map_some, eq_comm,
    Option.map_eq_some_iff] at sameKept
  rcases sameKept with ⟨others, otherFound, equal⟩
  refine ⟨others.map String.ofList, by simpa [Function.comp_def] using otherFound, ?_⟩
  rw [← Text.forall₂_eq_iff_map_eq_map, List.forall₂_map_right_iff] at equal
  rw [List.forall₂_map_right_iff]
  apply equal.flip.imp
  intro text run sameRun
  rw [Text.sameButCase_iff, String.toList_ofList, sameRun]

theorem Form.exists_read?_of_sameButCase {form : Form Sentence} {line other : String}
    {sentence : Sentence} (blind : form.pattern.IsBlindTo Char.toLower)
    (same : SameButCase line other) (found : form.read? line = some sentence) :
    ∃ echo, form.read? other = some echo ∧
      List.Forall₂ SameButCase (form.parts sentence) (form.parts echo) := by
  rcases Pattern.exists_read_of_sameButCase blind same (read?_eq_some_iff.mp found) with
    ⟨others, kept, alike⟩
  rcases exists_parts_of_read kept with ⟨echo, parts⟩
  rw [List.map_map, String.ofList_comp_toList, List.map_id] at parts
  rw [← parts] at kept alike
  exact ⟨echo, read?_eq_some_iff.mpr kept, alike⟩

theorem ofToken?_eq_of_sameButCase {left right : String} (same : SameButCase left right) :
    Symbol.ofToken? left = Symbol.ofToken? right := by
  unfold SameButCase at same
  unfold Symbol.ofToken?
  generalize left.toList = letters at same
  generalize right.toList = others at same
  cases same with
  | nil => rfl
  | @cons c d _ _ sameLetter later =>
      cases later with
      | nil =>
          change Symbol.ofChar? c = Symbol.ofChar? d
          rw [← ofChar?_toLower c, sameLetter, ofChar?_toLower]
      | cons => rfl

theorem eq_of_sameButCase_of_isMadeOf {left right : String} (same : SameButCase left right)
    (leftDigits : IsMadeOf isDigit left) (rightDigits : IsMadeOf isDigit right) :
    left = right := by
  have noCase : ∀ {text : String}, IsMadeOf isDigit text →
      text.toList.map Char.toLower = text.toList := by
    intro text digits
    rw [List.map_congr_left fun c member => toLower_of_isDigit (digits.2 c member),
      List.map_id']
  rw [Text.sameButCase_iff, noCase leftDigits, noCase rightDigits] at same
  exact String.toList_inj.mp same

section

variable {line other : String}

theorem sameName_of_sameButCase (same : SameButCase line other) :
    SameName SameButCase line other :=
  ⟨same.upperCase_eq, same⟩

theorem AliasDefinition.exists_of_sameButCase {sentence : AliasDefinition}
    (same : SameButCase line other) (found : read? line = some sentence) :
    ∃ echo, read? other = some echo ∧ sentence.Alike SameButCase echo := by
  rcases Form.exists_read?_of_sameButCase (Kind.pattern_isBlindTo_toLower .defineAlias)
      same found with ⟨echo, read, parts⟩
  rcases parts with _ | ⟨sameWord, _ | ⟨sameSymbols, _⟩⟩
  exact ⟨echo, read, {
    word := sameName_of_sameButCase sameWord
    token := ofToken?_eq_of_sameButCase sameSymbols
    symbols := sameSymbols }⟩

theorem PriceDefinition.exists_of_sameButCase {sentence : PriceDefinition}
    (same : SameButCase line other) (found : read? line = some sentence) :
    ∃ echo, read? other = some echo ∧ sentence.Alike SameButCase echo := by
  rcases Form.exists_read?_of_sameButCase (Kind.pattern_isBlindTo_toLower .definePrice)
      same found with ⟨echo, read, parts⟩
  rcases parts with _ | ⟨sameQuantity, _ | ⟨sameItem, _ | ⟨sameAmount, _⟩⟩⟩
  rcases (words_of_read? found).1 with ⟨_, _, _, _, digits, _⟩
  rcases (words_of_read? read).1 with ⟨_, _, _, _, echoDigits, _⟩
  exact ⟨echo, read, {
    quantity := sameQuantity
    item := sameName_of_sameButCase sameItem
    amount := eq_of_sameButCase_of_isMadeOf sameAmount digits echoDigits }⟩

theorem ValueQuestion.exists_of_sameButCase {sentence : ValueQuestion}
    (same : SameButCase line other) (found : read? line = some sentence) :
    ∃ echo, read? other = some echo ∧ sentence.Alike SameButCase echo := by
  rcases Form.exists_read?_of_sameButCase (Kind.pattern_isBlindTo_toLower .queryValue)
      same found with ⟨echo, read, parts⟩
  rcases parts with _ | ⟨sameQuantity, _⟩
  exact ⟨echo, read, ⟨sameQuantity⟩⟩

theorem PriceQuestion.exists_of_sameButCase {sentence : PriceQuestion}
    (same : SameButCase line other) (found : read? line = some sentence) :
    ∃ echo, read? other = some echo ∧ sentence.Alike SameButCase echo := by
  rcases Form.exists_read?_of_sameButCase (Kind.pattern_isBlindTo_toLower .queryPrice)
      same found with ⟨echo, read, parts⟩
  rcases parts with _ | ⟨sameQuantity, _ | ⟨sameItem, _⟩⟩
  exact ⟨echo, read, {
    quantity := sameQuantity
    item := sameName_of_sameButCase sameItem }⟩

theorem echoes_of_sameButCase (same : SameButCase line other) :
    Echoes SameButCase line other where
  defineAlias _ := AliasDefinition.exists_of_sameButCase same
  definePrice _ := PriceDefinition.exists_of_sameButCase same
  queryValue _ := ValueQuestion.exists_of_sameButCase same
  queryPrice _ := PriceQuestion.exists_of_sameButCase same

theorem sayAlike_of_sameButCase (same : SameButCase line other) :
    SayAlike SameButCase line other where
  forth := echoes_of_sameButCase same
  back := echoes_of_sameButCase same.symm

end

end TradeSpeech.Sentence
