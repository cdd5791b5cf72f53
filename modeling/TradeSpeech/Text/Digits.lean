/-! Digits, and the numbers that they write. -/

namespace TradeSpeech

def Text.isDigit (c : Char) : Bool :=
  '0' ≤ c && c ≤ '9'

def numberOf (digits : List Char) : Nat :=
  digits.foldl (fun number digit => 10 * number + (digit.toNat - '0'.toNat)) 0

def Text.hexValue? (c : Char) : Option Nat :=
  if isDigit c then some (c.toNat - '0'.toNat)
  else if 'a' ≤ c && c ≤ 'f' then some (c.toNat - 'a'.toNat + 10)
  else if 'A' ≤ c && c ≤ 'F' then some (c.toNat - 'A'.toNat + 10)
  else none

def Text.hexNumber? (digits : List Char) : Option Nat :=
  digits.foldl (fun number digit => do return 16 * (← number) + (← hexValue? digit)) (some 0)

end TradeSpeech
