import Mathlib
import TradeSpeech.Proofs.Text.Letters

/-! # Texts that differ in case

White space, keywords and names take no notice of the case of a letter. Where two
texts differ in the case of ASCII letters only, so do their lines and their words,
and the words have the same upper-case spellings. -/

namespace TradeSpeech.Text

def SameButCase (left right : String) : Prop :=
  List.Forall₂ (fun c d => c.toLower = d.toLower) left.toList right.toList

theorem forall₂_eq_iff_map_eq_map {f : α → β} {left right : List α} :
    List.Forall₂ (fun x y => f x = f y) left right ↔ left.map f = right.map f := by
  rw [← List.forall₂_eq_eq_eq, List.forall₂_map_left_iff, List.forall₂_map_right_iff]

theorem sameButCase_iff {left right : String} :
    SameButCase left right ↔
      left.toList.map Char.toLower = right.toList.map Char.toLower :=
  forall₂_eq_iff_map_eq_map

instance (left right : String) : Decidable (SameButCase left right) :=
  decidable_of_iff _ sameButCase_iff.symm

example : SameButCase "GLOB is ſ \u212a" "glob IS ſ \u212a" ∧ ¬SameButCase "ſ" "s" := by decide

namespace SameButCase

variable {left right : String}

theorem refl (text : String) : SameButCase text text :=
  sameButCase_iff.mpr rfl

theorem symm (same : SameButCase left right) : SameButCase right left :=
  sameButCase_iff.mpr (sameButCase_iff.mp same).symm

theorem append {more others : String} (same : SameButCase left right)
    (alsoSame : SameButCase more others) : SameButCase (left ++ more) (right ++ others) := by
  rw [sameButCase_iff] at same alsoSame ⊢
  simp [same, alsoSame]

end SameButCase

theorem sameButCase_ofList {left right : List Char} :
    SameButCase (String.ofList left) (String.ofList right) ↔
      left.map Char.toLower = right.map Char.toLower := by
  rw [sameButCase_iff, String.toList_ofList, String.toList_ofList]

/-! ## Characters -/

theorem toLower_eq_iff {c d : Char} (noLetter : isLetter d = false) :
    c.toLower = d ↔ c = d := by
  rw [Bool.eq_false_iff, Ne, isLetter_iff] at noLetter
  rw [← Char.toNat_inj, ← Char.toNat_inj, toNat_toLower]
  split <;> omega

@[simp] theorem isBlank_toLower (c : Char) : isBlank c.toLower = isBlank c := by
  rw [Bool.eq_iff_iff]
  simp only [isBlank, Bool.or_eq_true, Bool.and_eq_true, decide_eq_true_eq, beq_iff_eq,
    toNat_toLower]
  split <;> omega

@[simp] theorem keywordForm_toLower (c : Char) : keywordForm c.toLower = keywordForm c := by
  have longS : c.toLower = '\u017f' ↔ c = '\u017f' := toLower_eq_iff (by decide)
  have kelvin : c.toLower = '\u212a' ↔ c = '\u212a' := toLower_eq_iff (by decide)
  simp only [keywordForm, longS, kelvin, Char.toLower_toLower_eq_toLower]

@[simp] theorem upperSpelling_toLower (c : Char) : upperSpelling c.toLower = upperSpelling c := by
  by_cases upper : 65 ≤ c.toNat ∧ c.toNat ≤ 90
  · have ascii : c.toNat < 0x80 := by omega
    have loweredAscii : c.toLower.toNat < 0x80 := by
      rw [toNat_toLower, if_pos upper]
      omega
    rw [upperSpelling, if_pos loweredAscii, upperSpelling, if_pos ascii,
      Char.toUpper_toLower_eq_toUpper]
  · have unchanged : c.toLower = c := by
      rw [← Char.toNat_inj, toNat_toLower, if_neg upper]
    rw [unchanged]

/-! ## Words and lines -/

theorem splitOnP_map {f : α → β} {p : β → Bool} (text : List α) :
    (text.map f).splitOnP p = (text.splitOnP (p ∘ f)).map (List.map f) := by
  induction text with
  | nil => rfl
  | cons x rest induction =>
      rw [List.map_cons, List.splitOnP_cons_eq_if_modifyHead, induction,
        List.splitOnP_cons_eq_if_modifyHead]
      cases parts : rest.splitOnP (p ∘ f) with
      | nil => exact absurd parts (List.splitOnP_ne_nil _ _)
      | cons first later => cases separates : p (f x) <;> simp [separates]

theorem isBlank_comp_toLower : isBlank ∘ Char.toLower = isBlank := by
  funext c
  exact isBlank_toLower c

theorem wordsOf_map_toLower (text : List Char) :
    wordsOf (text.map Char.toLower) = (wordsOf text).map (List.map Char.toLower) := by
  rw [wordsOf, splitOnP_map, isBlank_comp_toLower, List.filter_map, wordsOf]
  congr 2
  funext word
  simp

theorem trimmed_map_toLower (text : List Char) :
    trimmed (text.map Char.toLower) = (trimmed text).map Char.toLower := by
  simp only [trimmed, List.dropWhile_map, isBlank_comp_toLower, ← List.map_reverse]

theorem withoutReturn_map_toLower (line : List Char) :
    withoutReturn (line.map Char.toLower) = (withoutReturn line).map Char.toLower := by
  have carriageReturn : (line.map Char.toLower).getLast? = some '\r' ↔
      line.getLast? = some '\r' := by
    rw [List.getLast?_map, Option.map_eq_some_iff]
    constructor
    · intro last
      rcases last with ⟨c, last, same⟩
      rw [last, (toLower_eq_iff (by decide)).mp same]
    · intro last
      exact ⟨'\r', last, rfl⟩
  rw [withoutReturn, withoutReturn, apply_ite (List.map Char.toLower), List.map_dropLast]
  simp only [carriageReturn]

theorem splitOn_lineFeed_map_toLower (text : List Char) :
    (text.map Char.toLower).splitOn '\n' = (text.splitOn '\n').map (List.map Char.toLower) := by
  have lineFeed : (fun c => c == '\n') ∘ Char.toLower = fun c => c == '\n' := by
    funext c
    rw [Bool.eq_iff_iff]
    have notLetter : isLetter '\n' = false := by decide
    simpa using toLower_eq_iff notLetter
  rw [List.splitOn_eq_splitOnP, List.splitOn_eq_splitOnP, splitOnP_map, lineFeed]

theorem spoken_map_toLower (text : List Char) :
    (((text.map Char.toLower).splitOn '\n').map withoutReturn).filter
        (fun line => !isBlankText line) =
      (((text.splitOn '\n').map withoutReturn).filter fun line => !isBlankText line).map
        (List.map Char.toLower) := by
  have returns : withoutReturn ∘ List.map Char.toLower =
      List.map Char.toLower ∘ withoutReturn := by
    funext line
    exact withoutReturn_map_toLower line
  have speaks : (fun line => !isBlankText line) ∘ List.map Char.toLower =
      fun line => !isBlankText line := by
    funext line
    simp [isBlankText, Function.comp_def]
  rw [splitOn_lineFeed_map_toLower, List.map_map, returns, ← List.map_map, List.filter_map,
    speaks]

namespace SameButCase

variable {left right : String}

theorem upperCase_eq (same : SameButCase left right) : upperCase left = upperCase right := by
  have spelled : ∀ text : List Char,
      (text.map Char.toLower).flatMap upperSpelling = text.flatMap upperSpelling := by
    intro text
    simp [List.flatMap_map]
  rw [sameButCase_iff] at same
  rw [upperCase, ← spelled, same, spelled, upperCase]

theorem trim (same : SameButCase left right) : SameButCase (trim left) (trim right) := by
  rw [sameButCase_iff] at same
  rw [Text.trim, Text.trim, sameButCase_ofList, ← trimmed_map_toLower, same,
    trimmed_map_toLower]

theorem words (same : SameButCase left right) :
    List.Forall₂ SameButCase (words left) (words right) := by
  have sameWords := congrArg wordsOf (sameButCase_iff.mp same)
  rw [wordsOf_map_toLower, wordsOf_map_toLower, ← forall₂_eq_iff_map_eq_map] at sameWords
  rw [Text.words, Text.words, List.forall₂_map_left_iff, List.forall₂_map_right_iff]
  exact sameWords.imp fun _ _ => sameButCase_ofList.mpr

theorem spokenLines (same : SameButCase left right) :
    List.Forall₂ SameButCase (spokenLines left) (spokenLines right) := by
  have sameLines := congrArg (fun text : List Char =>
    ((text.splitOn '\n').map withoutReturn).filter fun line => !isBlankText line)
    (sameButCase_iff.mp same)
  simp only [spoken_map_toLower] at sameLines
  rw [← forall₂_eq_iff_map_eq_map] at sameLines
  rw [Text.spokenLines, Text.spokenLines, List.forall₂_map_left_iff,
    List.forall₂_map_right_iff]
  exact sameLines.imp fun _ _ => sameButCase_ofList.mpr

end SameButCase

end TradeSpeech.Text
