import TradeSpeech.Sentence.Pattern
import TradeSpeech.Text.Suffixes

/-! Readings found in one pass. Trying the divisions of a text one after the
other may try the same suffix with the same pieces very often. Here the pieces
are taken from the last to the first, and each piece is given what the pieces
after it make of every suffix, so that a text costs each piece one pass. The
main statement is that the reading found is the reading of the pattern. -/

namespace TradeSpeech.Sentence

open Text (Suffixes)

def Piece.lengthened (accepts : Char → Bool) :
    Suffixes (Option (List Char × α)) → Suffixes (Option (List Char × α))
  | .finish _ => .finish none
  | .letter c _ rest =>
    .letter c (if accepts c then rest.value.map (extendRun c) else none)
      (lengthened accepts rest)

def Piece.preferred (preference : Preference) (accepts : Char → Bool) :
    Suffixes (Option α) → Suffixes (Option (List Char × α))
  | .finish value => .finish (value.map emptyRun)
  | .letter c value rest =>
    let after := preferred preference accepts rest
    let longer := if accepts c then after.value.map (extendRun c) else none
    .letter c (preference.choose longer (value.map emptyRun)) after

def Piece.lengthenedBy (accepts : Char → Bool) (count : Nat)
    (taken : Suffixes (Option (List Char × α))) : Suffixes (Option (List Char × α)) :=
  match count with
  | 0 => taken
  | count + 1 => lengthened accepts (lengthenedBy accepts count taken)

def Piece.takes (piece : Piece) (later : Suffixes (Option α)) :
    Suffixes (Option (List Char × α)) :=
  match piece.extent with
  | .one => lengthened piece.accepts (later.map (Option.map emptyRun))
  | .most least => lengthenedBy piece.accepts least (preferred .longer piece.accepts later)
  | .fewest least => lengthenedBy piece.accepts least (preferred .shorter piece.accepts later)

def Pattern.readings : Pattern → List Char → Suffixes (Option (List (List Char)))
  | [], text => .of (fun suffix => if suffix.isEmpty then some [] else none) text
  | piece :: pieces, text => (piece.takes (readings pieces text)).map (Option.map piece.keepRun)

def Pattern.find (pattern : Pattern) (text : List Char) : Option (List (List Char)) :=
  (pattern.readings text).value

/-! ## What is found is the reading -/

theorem lengthened_of (accepts : Char → Bool) (worth longer : List Char → Option (List Char × α))
    (atEnd : longer [] = none)
    (before : ∀ c rest, longer (c :: rest) =
      if accepts c then (worth rest).map (extendRun c) else none) (text : List Char) :
    Piece.lengthened accepts (.of worth text) = .of longer text := by
  induction text with
  | nil => simp [Suffixes.of, Piece.lengthened, atEnd]
  | cons c rest induction => simp [Suffixes.of, Piece.lengthened, before, induction]

section

variable (preference : Preference) (accepts : Char → Bool) (next : List Char → Option α)

theorem preferred_of (text : List Char) :
    Piece.preferred preference accepts (.of next text) =
      .of (takeRun preference accepts next 0) text := by
  induction text with
  | nil => rfl
  | cons c rest induction =>
    simp only [Suffixes.of, Piece.preferred, induction, Suffixes.value_of, takeRun]

theorem lengthenedBy_preferred_of (least : Nat) (text : List Char) :
    Piece.lengthenedBy accepts least (Piece.preferred preference accepts (.of next text)) =
      .of (takeRun preference accepts next least) text := by
  induction least with
  | zero => exact preferred_of preference accepts next text
  | succ least induction =>
    rw [Piece.lengthenedBy, induction]
    exact lengthened_of accepts _ _ rfl (fun _ _ => rfl) text

end

theorem takes_of (piece : Piece) (next : List Char → Option α) (text : List Char) :
    piece.takes (.of next text) = .of (piece.take next) text := by
  obtain ⟨accepts, extent, kept⟩ := piece
  cases extent with
  | one =>
    simp only [Piece.takes, Suffixes.map_of]
    exact lengthened_of accepts _ _ rfl (fun _ _ => rfl) text
  | most least => exact lengthenedBy_preferred_of .longer accepts next least text
  | fewest least => exact lengthenedBy_preferred_of .shorter accepts next least text

theorem readings_eq (pattern : Pattern) (text : List Char) :
    pattern.readings text = .of pattern.read text := by
  induction pattern with
  | nil =>
    rw [Pattern.readings]
    congr 1
    funext suffix
    cases suffix <;> rfl
  | cons piece pieces induction =>
    rw [Pattern.readings, induction, takes_of, Suffixes.map_of]
    rfl

theorem find_eq_read (pattern : Pattern) (text : List Char) :
    pattern.find text = pattern.read text := by
  rw [Pattern.find, readings_eq, Suffixes.value_of]

end TradeSpeech.Sentence
