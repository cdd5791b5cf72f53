import TradeSpeech.Foundation.Except
import TradeSpeech.Numeral.Symbol

/-! Numerals: the sequences of symbols that name a quantity, and the faults of
texts that do not. -/

namespace TradeSpeech

namespace Numeral

inductive Fault
  | empty
  | unknownSymbol (letter : Char)
  | excessiveRepeat (letter : Char)
  | illegalSubtraction (minuend subtrahend : Char)
  deriving DecidableEq, Repr

def Fault.message : Fault → String
  | empty => "empty numeral"
  | unknownSymbol letter => s!"'{letter}' is not a numeral symbol"
  | excessiveRepeat letter => s!"'{letter}' repeats more than three times in a row"
  | illegalSubtraction minuend subtrahend =>
    s!"'{subtrahend}' cannot be subtracted from '{minuend}'"

def spell : List Char → Except Char (List Symbol)
  | [] => .ok []
  | letter :: rest =>
    match Symbol.ofChar? letter with
    | none => .error letter
    | some symbol =>
      match spell rest with
      | .ok symbols => .ok (symbol :: symbols)
      | .error unknown => .error unknown

def longRun? : List Symbol → Option Symbol
  | first :: second :: third :: fourth :: rest =>
    if first = second ∧ second = third ∧ third = fourth then
      some first
    else
      longRun? (second :: third :: fourth :: rest)
  | _ => none

/-- Whether `lesser` may stand directly before `greater`: a symbol before one
that outranks it has an even rank and is at most two ranks below. -/
def mayPrecede (lesser greater : Symbol) : Bool :=
  greater.rank ≤ lesser.rank || (lesser.rank % 2 == 0 && greater.rank ≤ lesser.rank + 2)

def badPair? : List Symbol → Option (Symbol × Symbol)
  | first :: second :: rest =>
    if mayPrecede first second then badPair? (second :: rest) else some (first, second)
  | _ => none

def IsWellFormed (symbols : List Symbol) : Prop :=
  symbols ≠ [] ∧ longRun? symbols = none ∧ badPair? symbols = none

instance (symbols : List Symbol) : Decidable (IsWellFormed symbols) :=
  inferInstanceAs (Decidable (_ ∧ _ ∧ _))

end Numeral

structure Numeral where
  symbols : List Symbol
  wellFormed : Numeral.IsWellFormed symbols

namespace Numeral

/-- Reads a sequence of symbols as a numeral. A run that is too long is found
before a pair that is in the wrong order. -/
def ofSymbols (symbols : List Symbol) : Except Fault Numeral :=
  if empty : symbols = [] then .error .empty
  else
    match run : longRun? symbols, pair : badPair? symbols with
    | some symbol, _ => .error (.excessiveRepeat symbol.toChar)
    | none, some (subtrahend, minuend) =>
      .error (.illegalSubtraction minuend.toChar subtrahend.toChar)
    | none, none => .ok ⟨symbols, empty, run, pair⟩

def parse (text : String) : Except Fault Numeral :=
  match spell text.toList with
  | .error letter => .error (.unknownSymbol letter)
  | .ok symbols => ofSymbols symbols

def name (numeral : Numeral) : String :=
  String.ofList (numeral.symbols.map Symbol.toChar)

/-! The value is found in one walk from the left. Symbols of one run gather in
`pending`; a lesser symbol settles what is pending; a greater one has what is
pending taken from it. -/

structure Walk where
  settled : Nat
  pending : Nat
  last : Symbol
  deriving DecidableEq, Repr

namespace Walk

def start (first : Symbol) : Walk where
  settled := 0
  pending := first.value
  last := first

def step (walk : Walk) (current : Symbol) : Walk :=
  if current = walk.last then
    { walk with pending := walk.pending + current.value }
  else if current.value < walk.last.value then
    { settled := walk.settled + walk.pending, pending := current.value, last := current }
  else
    { walk with pending := current.value - walk.pending, last := current }

def total (walk : Walk) : Nat :=
  walk.settled + walk.pending

end Walk

def worth : List Symbol → Nat
  | [] => 0
  | first :: rest => (rest.foldl Walk.step (Walk.start first)).total

def value (numeral : Numeral) : Nat :=
  worth numeral.symbols

private def valueOf (text : String) : Except Fault Nat :=
  (parse text).map value

example : valueOf "mcmxliv" = .ok 1944 := by decide

/-- Only neighbours are compared, so an ascent may be followed by any descent. -/
example : valueOf "IXV" = .ok 14 := by decide

example : valueOf "" = .error .empty := by decide

example : valueOf "XXXXZ" = .error (.unknownSymbol 'Z') := by decide

example : valueOf "ILXXXX" = .error (.excessiveRepeat 'X') := by decide

example : valueOf "VX" = .error (.illegalSubtraction 'X' 'V') := by decide

end Numeral

end TradeSpeech
