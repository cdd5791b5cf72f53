import TradeSpeech.Decimal.Binary
import TradeSpeech.Toml.Node

/-! Numbers. A document has to keep to their shapes, but a shape is looser than
a number. What a text of the right shape is worth, if it is worth anything, is
another question, and `Node.unreadable` stands where it is worth nothing. -/

namespace TradeSpeech.Toml

/-! ## Digits -/

def digitValue? (base : Nat) (c : Char) : Option Nat :=
  (Text.hexValue? c).filter (· < base)

def isDigitOf (base : Nat) (c : Char) : Bool :=
  (digitValue? base c).isSome

def numberOf (base : Nat) (digits : List Nat) : Nat :=
  digits.foldl (fun number digit => base * number + digit) 0

def underscoresPlaced (base : Nat) : List Char → Bool
  | [] => true
  | '_' :: _ => false
  | c :: '_' :: d :: rest =>
    isDigitOf base c && isDigitOf base d && underscoresPlaced base (d :: rest)
  | _ :: rest => underscoresPlaced base rest

example : underscoresPlaced 10 "1_000_0".toList = true := by decide +kernel

example : underscoresPlaced 10 "1__0".toList = false := by decide +kernel

def splitSign : List Char → Option Char × List Char
  | '-' :: rest => (some '-', rest)
  | '+' :: rest => (some '+', rest)
  | text => (none, text)

def hasNeedlessZero : List Char → Bool
  | '0' :: c :: _ => isDigitOf 10 c || c == '_'
  | _ => false

/-! ## Whole numbers -/

def isWithinRange (number : Int) : Bool :=
  -- Either a signed or an unsigned word of 128 bits will do.
  -Nat.pow 2 127 ≤ number && number < Nat.pow 2 128

def wholeValue (base : Nat) (negative : Bool) (text : List Char) : Node :=
  match (text.filter (· != '_')).mapM (digitValue? base) with
  | none | some [] => .unreadable
  | some digits =>
    let number : Int := numberOf base digits
    let number := if negative then -number else number
    if isWithinRange number then .integer number else .unreadable

/-- The shape of a whole number in base ten: digits alone, or an underscore
after the first of them and then whatever there is, but no blank that is not a
tab. -/
def isWhole (text : List Char) : Bool :=
  match text.dropWhile (isDigitOf 10) with
  | [] => !text.isEmpty
  | c :: rest => c == '_' && !rest.contains ' '

/-- A whole number in another base than ten, after the mark of the base. Its
shape asks for digits of the base, though not for one of them at least. -/
def based? (base : Nat) (text : List Char) : Option Node :=
  if text.all (fun c => isDigitOf base c || c == '_') && underscoresPlaced base text then
    some (wholeValue base false text)
  else none

/-! ## Numbers with a fraction or an exponent -/

def digitRun? (text : List Char) : Option (List Nat × List Char) :=
  let (run, rest) := text.span fun c => isDigitOf 10 c || c == '_'
  match run.filterMap (digitValue? 10) with
  | [] => none
  | digits => some (digits, rest)

def exponent? (text : List Char) : Option (Int × List Char) := do
  let (sign, text) := splitSign text
  let (digits, rest) ← digitRun? text
  let number : Int := numberOf 10 digits
  return (if sign = some '-' then -number else number, rest)

def real? (negative : Bool) (text : List Char) : Option Node := do
  let (whole, rest) ← digitRun? text
  let (fraction, rest) ← match rest with
    | '.' :: rest => digitRun? rest
    | rest => some ([], rest)
  let (exponent, rest) ← match rest with
    | 'e' :: rest | 'E' :: rest => exponent? rest
    | rest => some (0, rest)
  if rest.isEmpty then
    let number :=
      Decimal.nearest negative (numberOf 10 (whole ++ fraction)) (exponent - fraction.length)
    return if number.isFinite then .real number else .unreadable
  else none

def isRealMark (c : Char) : Bool :=
  c == '.' || c == 'e' || c == 'E'

/-! ## All numbers -/

/-- A number in base ten. The underscores of a whole number may stand beside
digits of any base. -/
def decimal? (text : List Char) : Option Node :=
  let (sign, body) := splitSign text
  let negative := sign == some '-'
  if hasNeedlessZero body then none
  else if body.any isRealMark then
    if underscoresPlaced 10 body then real? negative body else none
  else if isWhole body && underscoresPlaced 16 body then some (wholeValue 10 negative body)
  else none

def namedNumber? (text : List Char) : Option Node :=
  let (sign, name) := splitSign text
  if name = ['i', 'n', 'f'] then
    some (.real (Decimal.ofMagnitudeBits (sign == some '-') Decimal.infiniteBits))
  else if name = ['n', 'a', 'n'] then
    some (.real (Decimal.ofMagnitudeBits false (Decimal.infiniteBits + 1)))
  else none

def number? (text : List Char) : Option Node :=
  match text with
  | '0' :: 'x' :: digits => based? 16 digits
  | '0' :: 'o' :: digits => based? 8 digits
  | '0' :: 'b' :: digits => based? 2 digits
  | text => (namedNumber? text).or (decimal? text)

end TradeSpeech.Toml
