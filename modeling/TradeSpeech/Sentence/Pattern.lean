import TradeSpeech.Text.Blank
import TradeSpeech.Text.Casing
import TradeSpeech.Text.Digits
import TradeSpeech.Numeral.Symbol

/-! Patterns of sentences. A pattern is a row of pieces, each of which takes a
run of characters of one class. A text may divide among the pieces in several
ways; the pieces state which way they prefer, earlier pieces before later ones,
and the reading of a text is the most preferred division that uses all of it.
This module says what the reading is; `Sentence.Reading` finds it in one pass. -/

namespace TradeSpeech.Sentence

inductive Extent
  | one
  | most (least : Nat)
  | fewest (least : Nat)
  deriving DecidableEq, Repr

structure Piece where
  accepts : Char → Bool
  extent : Extent
  kept : Bool

abbrev Pattern := List Piece

def emptyRun (found : α) : List Char × α :=
  ([], found)

def extendRun (c : Char) (taken : List Char × α) : List Char × α :=
  (c :: taken.1, taken.2)

/-- Which of two runs is taken if the rest can be read behind both. -/
inductive Preference
  | longer
  | shorter
  deriving DecidableEq, Repr

def Preference.choose (preference : Preference) (longer shorter : Option α) : Option α :=
  match preference with
  | .longer => longer.or shorter
  | .shorter => shorter.or longer

/-- Takes at least `least` accepted characters. What is to be done with the rest of the text is
`next`: a run is taken only if the rest can be read too. -/
def takeRun (preference : Preference) (accepts : Char → Bool) (next : List Char → Option α) :
    (least : Nat) → List Char → Option (List Char × α)
  | 0, [] => (next []).map emptyRun
  | _ + 1, [] => none
  | 0, c :: rest =>
    let longer :=
      if accepts c then (takeRun preference accepts next 0 rest).map (extendRun c) else none
    preference.choose longer ((next (c :: rest)).map emptyRun)
  | least + 1, c :: rest =>
    if accepts c then (takeRun preference accepts next least rest).map (extendRun c) else none

def Piece.take (piece : Piece) (next : List Char → Option α) (text : List Char) :
    Option (List Char × α) :=
  match piece.extent with
  | .one =>
    match text with
    | c :: rest =>
      if piece.accepts c then ((next rest).map emptyRun).map (extendRun c) else none
    | [] => none
  | .most least => takeRun .longer piece.accepts next least text
  | .fewest least => takeRun .shorter piece.accepts next least text

def Piece.keepRun (piece : Piece) (taken : List Char × List (List Char)) : List (List Char) :=
  if piece.kept then taken.1 :: taken.2 else taken.2

def Pattern.read : Pattern → List Char → Option (List (List Char))
  | [], [] => some []
  | [], _ :: _ => none
  | piece :: pieces, text => (piece.take (Pattern.read pieces) text).map piece.keepRun

/-! The pieces of which sentences are made. -/

def looseBlanks : Piece where
  accepts := Text.isBlank
  extent := .most 0
  kept := false

def gap : Piece where
  accepts := Text.isBlank
  extent := .most 1
  kept := false

def letter (lower : Char) : Piece where
  accepts := Text.sameLetter lower
  extent := .one
  kept := false

def keyword (word : String) : Pattern :=
  word.toList.map letter

def mark (c : Char) : Piece where
  accepts := (· == c)
  extent := .one
  kept := false

def keep (accepts : Char → Bool) (extent : Extent) : Piece where
  accepts := accepts
  extent := extent
  kept := true

def isPhraseChar (c : Char) : Bool :=
  c != '\n'

def isItemChar (c : Char) : Bool :=
  !Text.isBlank c

def isSymbolLetter (c : Char) : Bool :=
  (Symbol.ofChar? c).isSome

example : (keyword "is").read ['I', '\u017f'] = some [] := by decide

example : Pattern.read [keep isPhraseChar (.most 0), keep isItemChar (.most 1)] ['a', ' ', 'b'] =
    some [['a', ' '], ['b']] := by decide

example : Pattern.read [keep isPhraseChar (.fewest 0), keep isItemChar (.most 1)] ['a', 'b'] =
    some [[], ['a', 'b']] := by decide

end TradeSpeech.Sentence
