import TradeSpeech.Text.Digits

/-! Reading JSON texts. -/

namespace TradeSpeech.Json

open Text (isDigit hexNumber?)

/-- A JSON value as it is written. A string whose escapes name half of a
surrogate pair stands for no text; members of an object keep their order, and a
name may occur more than once. -/
inductive Value
  | null
  | boolean (value : Bool)
  | number (text : String)
  | string (text : Option String)
  | array (items : List Value)
  | object (members : List (Option String × Value))

def isSpace (c : Char) : Bool :=
  c == ' ' || c == '\t' || c == '\n' || c == '\r'

def skipSpaces (text : List Char) : List Char :=
  text.dropWhile isSpace

/-! ## Strings -/

def shortEscape? : Char → Option Char
  | '"' => some '"'
  | '\\' => some '\\'
  | '/' => some '/'
  | 'b' => some '\x08'
  | 'f' => some '\x0c'
  | 'n' => some '\n'
  | 'r' => some '\r'
  | 't' => some '\t'
  | _ => none

def isHighSurrogate (unit : Nat) : Bool :=
  0xD800 ≤ unit && unit < 0xDC00

def isLowSurrogate (unit : Nat) : Bool :=
  0xDC00 ≤ unit && unit < 0xE000

def pairedChar (high low : Nat) : Char :=
  Char.ofNat (0x10000 + (high - 0xD800) * 0x400 + (low - 0xDC00))

/-- The text that code points spell, where the halves of a surrogate pair stand
side by side; a half on its own spells nothing. -/
def spelled? : List Nat → Option (List Char)
  | [] => some []
  | point :: rest =>
    if isHighSurrogate point then
      match rest with
      | low :: after =>
        if isLowSurrogate low then (spelled? after).map (pairedChar point low :: ·) else none
      | [] => none
    else if isLowSurrogate point then none
    else (spelled? rest).map (Char.ofNat point :: ·)

def stringBody : List Char → Option (List Nat × List Char)
  | [] => none
  | '"' :: rest => some ([], rest)
  | '\\' :: 'u' :: a :: b :: c :: d :: rest =>
    match hexNumber? [a, b, c, d] with
    | none => none
    | some point => (stringBody rest).map fun (points, after) => (point :: points, after)
  | '\\' :: letter :: rest =>
    match shortEscape? letter with
    | none => none
    | some c => (stringBody rest).map fun (points, after) => (c.toNat :: points, after)
  | c :: rest =>
    if c.toNat < 0x20 || c == '\\' then none
    else (stringBody rest).map fun (points, after) => (c.toNat :: points, after)

def stringText (text : List Char) : Option (Option String × List Char) :=
  (stringBody text).map fun (points, after) => ((spelled? points).map String.ofList, after)

/-! ## Numbers -/

def digits? (text : List Char) : Option (List Char × List Char) :=
  match text.span isDigit with
  | ([], _) => none
  | (found, rest) => some (found, rest)

def wholePart? : List Char → Option (List Char × List Char)
  | '0' :: rest =>
    match rest with
    | c :: _ => if isDigit c then none else some (['0'], rest)
    | [] => some (['0'], rest)
  | text => digits? text

def fraction? : List Char → Option (List Char × List Char)
  | '.' :: rest => (digits? rest).map fun (found, after) => ('.' :: found, after)
  | text => some ([], text)

def exponent? : List Char → Option (List Char × List Char)
  | c :: rest =>
    if c = 'e' || c = 'E' then
      match rest with
      | s :: after =>
        if s = '+' || s = '-' then
          (digits? after).map fun (found, remaining) => (c :: s :: found, remaining)
        else
          (digits? rest).map fun (found, remaining) => (c :: found, remaining)
      | [] => none
    else some ([], c :: rest)
  | [] => some ([], [])

def number? (text : List Char) : Option (List Char × List Char) := do
  let (sign, text) := match text with
    | '-' :: rest => (['-'], rest)
    | _ => ([], text)
  let (whole, text) ← wholePart? text
  let (fraction, text) ← fraction? text
  let (exponent, text) ← exponent? text
  return (sign ++ whole ++ fraction ++ exponent, text)

/-! ## Values -/

def items (item : List Char → Option (Value × List Char)) :
    (fuel : Nat) → List Char → Option (List Value × List Char)
  | 0, _ => none
  | fuel + 1, text => do
    let (value, rest) ← item text
    match skipSpaces rest with
    | ',' :: rest =>
      let (values, rest) ← items item fuel rest
      return (value :: values, rest)
    | ']' :: rest => return ([value], rest)
    | _ => none

def members (item : List Char → Option (Value × List Char)) :
    (fuel : Nat) → List Char → Option (List (Option String × Value) × List Char)
  | 0, _ => none
  | fuel + 1, text =>
    match skipSpaces text with
    | '"' :: text => do
      let (name, rest) ← stringText text
      match skipSpaces rest with
      | ':' :: rest =>
        let (value, rest) ← item rest
        let member := (name, value)
        match skipSpaces rest with
        | ',' :: rest =>
          let (others, rest) ← members item fuel rest
          return (member :: others, rest)
        | '\x7d' :: rest => return ([member], rest)
        | _ => none
      | _ => none
    | _ => none

/-- Reads a value after blanks. The size bounds how deep brackets are nested and
how many parts a value has; no text shorter than it goes beyond it. -/
def value : (size : Nat) → List Char → Option (Value × List Char)
  | 0, _ => none
  | size + 1, text =>
    match skipSpaces text with
    | 'n' :: 'u' :: 'l' :: 'l' :: rest => some (.null, rest)
    | 't' :: 'r' :: 'u' :: 'e' :: rest => some (.boolean true, rest)
    | 'f' :: 'a' :: 'l' :: 's' :: 'e' :: rest => some (.boolean false, rest)
    | '"' :: rest => (stringText rest).map fun (text, after) => (.string text, after)
    | '[' :: rest =>
      match skipSpaces rest with
      | ']' :: rest => some (.array [], rest)
      | rest =>
        (items (value size) size rest).map fun (values, after) => (.array values, after)
    | '\x7b' :: rest =>
      match skipSpaces rest with
      | '\x7d' :: rest => some (.object [], rest)
      | rest =>
        (members (value size) size rest).map fun (found, after) => (.object found, after)
    | text => (number? text).map fun (found, after) => (.number (String.ofList found), after)

def read? (text : String) : Option Value :=
  match value (text.length + 1) text.toList with
  | some (found, rest) => if (skipSpaces rest).isEmpty then some found else none
  | none => none

end TradeSpeech.Json
