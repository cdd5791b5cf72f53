import TradeSpeech.Proofs.Text.Words
import TradeSpeech.Sentence.Pattern

/-! # Letters and words

The characters of which the parts of a sentence are made are visible, so that
these parts are words. -/

namespace TradeSpeech.Text

/-! ## Case in numbers -/

theorem toNat_toLower (c : Char) :
    c.toLower.toNat = if 65 ≤ c.toNat ∧ c.toNat ≤ 90 then c.toNat + 32 else c.toNat := by
  by_cases upper : c.val ≥ 'A'.val ∧ c.val ≤ 'Z'.val
  · have range : 65 ≤ c.toNat ∧ c.toNat ≤ 90 := upper
    have same : c.toLower = _ := dif_pos upper
    have shifted : c.toLower.toNat = (c.val + ('a'.val - 'A'.val)).toNat := by
      rw [same]
      rfl
    have distance : ('a'.val - 'A'.val).toNat = 32 := rfl
    have value : c.val.toNat = c.toNat := rfl
    rw [if_pos range, shifted, UInt32.toNat_add, distance, value]
    omega
  · have range : ¬(65 ≤ c.toNat ∧ c.toNat ≤ 90) := upper
    have same : c.toLower = c := dif_neg upper
    rw [if_neg range, same]

theorem toNat_toUpper (c : Char) :
    c.toUpper.toNat = if 97 ≤ c.toNat ∧ c.toNat ≤ 122 then c.toNat - 32 else c.toNat := by
  by_cases lower : 'a'.val ≤ c.val ∧ c.val ≤ 'z'.val
  · have range : 97 ≤ c.toNat ∧ c.toNat ≤ 122 := lower
    have same : c.toUpper = _ := dif_pos lower
    have shifted : c.toUpper.toNat = (c.val + ('A'.val - 'a'.val)).toNat := by
      rw [same]
      rfl
    have distance : ('A'.val - 'a'.val).toNat = 2 ^ 32 - 32 := rfl
    have value : c.val.toNat = c.toNat := rfl
    rw [if_pos range, shifted, UInt32.toNat_add, distance, value]
    omega
  · have range : ¬(97 ≤ c.toNat ∧ c.toNat ≤ 122) := lower
    have same : c.toUpper = c := dif_neg lower
    rw [if_neg range, same]

theorem isLetter_iff {c : Char} :
    isLetter c = true ↔ 97 ≤ c.toNat ∧ c.toNat ≤ 122 ∨ 65 ≤ c.toNat ∧ c.toNat ≤ 90 := by
  simp only [isLetter, Bool.or_eq_true, Bool.and_eq_true, decide_eq_true_eq, Char.le_def,
    UInt32.le_iff_toNat_le]
  rfl

theorem isLetter_toLower (c : Char) : isLetter c.toLower = true ↔ isLetter c = true := by
  rw [isLetter_iff, isLetter_iff, toNat_toLower]
  split <;> omega

theorem isWordLetter_iff {c : Char} :
    isWordLetter c = true ↔ isLetter c = true ∨ c = '\u017f' ∨ c = '\u212a' := by
  by_cases longS : c = '\u017f'
  · simp [longS, isWordLetter, keywordForm, isLetter]
  · by_cases kelvin : c = '\u212a'
    · simp [kelvin, isWordLetter, keywordForm, isLetter]
    · rw [isWordLetter, keywordForm, if_neg longS, if_neg kelvin, isLetter_toLower]
      simp [longS, kelvin]

/-! ## White space has no case -/

theorem not_isLetter_of_isBlank {c : Char} (blank : isBlank c = true) :
    ¬(97 ≤ c.toNat ∧ c.toNat ≤ 122 ∨ 65 ≤ c.toNat ∧ c.toNat ≤ 90) := by
  simp only [isBlank, Bool.or_eq_true, Bool.and_eq_true, decide_eq_true_eq, beq_iff_eq] at blank
  omega

theorem toLower_of_isBlank {c : Char} (blank : isBlank c = true) : c.toLower = c := by
  have notLetter := not_isLetter_of_isBlank blank
  apply Char.toNat_inj.mp
  rw [toNat_toLower, if_neg (by omega)]

theorem keywordForm_of_isBlank {c : Char} (blank : isBlank c = true) : keywordForm c = c := by
  have notLongS : c ≠ '\u017f' := by
    rintro rfl
    cases blank
  have notKelvin : c ≠ '\u212a' := by
    rintro rfl
    cases blank
  rw [keywordForm, if_neg notLongS, if_neg notKelvin, toLower_of_isBlank blank]

/-! ## What sentences are made of is visible -/

theorem isBlank_eq_false_of_isWordLetter {c : Char} (letter : isWordLetter c = true) :
    isBlank c = false := by
  rw [Bool.eq_false_iff]
  intro blank
  rw [isWordLetter, keywordForm_of_isBlank blank, isLetter_iff] at letter
  exact not_isLetter_of_isBlank blank letter

end TradeSpeech.Text

namespace TradeSpeech.Sentence

open Text (isBlank isDigit)

def symbolLetters : List Char :=
  ['I', 'V', 'X', 'L', 'C', 'D', 'M', 'i', 'v', 'x', 'l', 'c', 'd', 'm']

theorem isSymbolLetter_iff {c : Char} : isSymbolLetter c = true ↔ c ∈ symbolLetters := by
  constructor
  · intro letter
    rw [isSymbolLetter, Symbol.ofChar?, List.find?_isSome] at letter
    rcases letter with ⟨symbol, _, same⟩
    have upper : symbol.toChar.toNat = c.toUpper.toNat := by
      rw [beq_iff_eq.mp same]
    rw [Text.toNat_toUpper] at upper
    simp only [symbolLetters, List.mem_cons, List.not_mem_nil, or_false, ← Char.toNat_inj]
    cases symbol <;> simp [Symbol.toChar] at upper ⊢ <;> split at upper <;> omega
  · intro member
    simp only [symbolLetters, List.mem_cons, List.not_mem_nil, or_false] at member
    rcases member with rfl | rfl | rfl | rfl | rfl | rfl | rfl | rfl | rfl | rfl | rfl | rfl |
      rfl | rfl <;> rfl

theorem isBlank_eq_false_of_isSymbolLetter {c : Char} (letter : isSymbolLetter c = true) :
    isBlank c = false := by
  have visible : symbolLetters.any isBlank = false := by decide
  rw [Bool.eq_false_iff]
  exact List.any_eq_false.mp visible c (isSymbolLetter_iff.mp letter)

theorem isBlank_eq_false_of_isDigit {c : Char} (digit : isDigit c = true) :
    isBlank c = false := by
  simp only [isDigit, Bool.and_eq_true, decide_eq_true_eq, Char.le_def,
    UInt32.le_iff_toNat_le] at digit
  have range : 48 ≤ c.toNat ∧ c.toNat ≤ 57 := digit
  rw [Bool.eq_false_iff]
  intro blank
  simp only [isBlank, Bool.or_eq_true, Bool.and_eq_true, decide_eq_true_eq,
    beq_iff_eq] at blank
  omega

end TradeSpeech.Sentence
