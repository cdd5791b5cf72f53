import TradeSpeech.Error
import TradeSpeech.Lexicon
import TradeSpeech.Text.Blank
import TradeSpeech.Text.Digits

/-! What has been said so far, and the quantities that phrases name in it. -/

namespace TradeSpeech

structure Session where
  aliases : Lexicon Symbol
  prices : Lexicon Float

namespace Session

instance : EmptyCollection Session := ⟨{ aliases := ∅, prices := ∅ }⟩

end Session

namespace Lexicon

def symbolsOf (aliases : Lexicon Symbol) : List String → Except Error (List Symbol)
  | [] => .ok []
  | word :: rest =>
    match aliases.lookup word with
    | none => .error (.unknownAlias word)
    | some symbol => (aliases.symbolsOf rest).map (symbol :: ·)

def resolve (aliases : Lexicon Symbol) (phrase : String) : Except Error (List Symbol) :=
  aliases.symbolsOf (Text.words phrase)

end Lexicon

namespace Session

def quantity (session : Session) (phrase : String) : Except Error Numeral :=
  match session.aliases.resolve phrase with
  | .error error => .error error
  | .ok symbols =>
    match Numeral.ofSymbols symbols with
    | .ok numeral => .ok numeral
    | .error fault =>
      .error (.malformedNumeral (String.ofList (symbols.map Symbol.toChar)) fault)

def defineAlias (session : Session) (word : String) (symbol : Symbol) : Session :=
  { session with aliases := session.aliases.define word symbol }

def definePrice (session : Session) (item : String) (price : Float) : Session :=
  { session with prices := session.prices.define item price }

end Session

/-! Amounts of credits and counts of units are whole numbers of 64 bits; prices
and totals are binary floating-point numbers. -/

def amountLimit : Nat := Nat.pow 2 64

def amountOf? (digits : String) : Option Nat :=
  let amount := numberOf digits.toList
  if amount < amountLimit then some amount else none

def asFloat (count : Nat) : Float :=
  (UInt64.ofNat count).toFloat

def unitPrice (credits units : Nat) : Float :=
  asFloat credits / asFloat units

def totalPrice (price : Float) (units : Nat) : Float :=
  price * asFloat units

example : amountOf? "0018446744073709551615" = some (amountLimit - 1) := by
  decide +kernel

example : amountOf? "18446744073709551616" = none := by decide +kernel

example : unitPrice 3910 20 = 195.5 := by decide +kernel

end TradeSpeech
