import TradeSpeech.Text.Digits

/-! Texts in quotes. Between double quotes a backslash starts an escape; between
single quotes every character stands for itself. Three quotes enclose a text
that may have several lines. -/

namespace TradeSpeech.Toml

def isPlain (c : Char) : Bool :=
  c == '\t' || (0x20 ≤ c.toNat && c.toNat != 0x7F)

def isSpace (c : Char) : Bool :=
  c == ' ' || c == '\t'

def charOf? (code : Nat) : Option Char :=
  if code < 0xD800 || (0xE000 ≤ code && code < 0x110000) then some (Char.ofNat code) else none

def hexChar? (count : Nat) (text : List Char) : Option Char :=
  let digits := text.take count
  if digits.length < count then none
  else (Text.hexNumber? digits).bind charOf?

def escape? : List Char → Option (Char × Nat)
  | 'b' :: _ => some ('\x08', 1)
  | 't' :: _ => some ('\t', 1)
  | 'n' :: _ => some ('\n', 1)
  | 'f' :: _ => some ('\x0c', 1)
  | 'r' :: _ => some ('\r', 1)
  | 'e' :: _ => some ('\x1b', 1)
  | '"' :: _ => some ('"', 1)
  | '\\' :: _ => some ('\\', 1)
  | 'x' :: text => (hexChar? 2 text).map fun c => (c, 3)
  | 'u' :: text => (hexChar? 4 text).map fun c => (c, 5)
  | 'U' :: text => (hexChar? 8 text).map fun c => (c, 9)
  | _ => none

/-- Skips blanks and line endings. A carriage return on its own is no line
ending. -/
def skipFolded : List Char → List Char
  | '\r' :: '\n' :: rest => skipFolded rest
  | c :: rest => if isSpace c || c == '\n' then skipFolded rest else c :: rest
  | [] => []

/-- What follows a line ending that is escaped, if a text starts with one: the
rest of the line is blank, and the blanks and line endings after it are dropped
too. -/
def afterFold? (text : List Char) : Option (List Char) :=
  match text.dropWhile isSpace with
  | '\n' :: rest => some (skipFolded rest)
  | '\r' :: '\n' :: rest => some (skipFolded rest)
  | _ => none

def line? (quote : Char) (escapes : Bool) :
    (fuel : Nat) → List Char → Option (List Char × List Char)
  | 0, _ | _, [] => none
  | fuel + 1, c :: rest =>
    if c = quote then some ([], rest)
    else if escapes && c = '\\' then do
      let (character, width) ← escape? rest
      let (text, after) ← line? quote escapes fuel (rest.drop width)
      return (character :: text, after)
    else if isPlain c then do
      let (text, after) ← line? quote escapes fuel rest
      return (c :: text, after)
    else none

/-- Reads a text that may have several lines up to its three closing quotes. Up
to two quotes directly before them belong to the text. -/
def block? (quote : Char) (escapes : Bool) :
    (fuel : Nat) → List Char → Option (List Char × List Char)
  | 0, _ | _, [] => none
  | fuel + 1, c :: rest =>
    if c = quote then
      let quotes := min 5 ((c :: rest).takeWhile (· = quote)).length
      if 3 ≤ quotes then some (List.replicate (quotes - 3) quote, (c :: rest).drop quotes)
      else do
        let (text, after) ← block? quote escapes fuel rest
        return (c :: text, after)
    else if escapes && c = '\\' then
      match afterFold? rest with
      | some folded => block? quote escapes fuel folded
      | none => do
        let (character, width) ← escape? rest
        let (text, after) ← block? quote escapes fuel (rest.drop width)
        return (character :: text, after)
    else if c = '\r' then
      match rest with
      | '\n' :: rest => do
        let (text, after) ← block? quote escapes fuel rest
        return ('\r' :: '\n' :: text, after)
      | _ => none
    else if c = '\n' || isPlain c then do
      let (text, after) ← block? quote escapes fuel rest
      return (c :: text, after)
    else none

def withoutFirstEnding : List Char → List Char
  | '\n' :: rest => rest
  | '\r' :: '\n' :: rest => rest
  | text => text

def quotedLine? (size : Nat) (text : List Char) : Option (List Char × List Char) :=
  match text with
  | '"' :: rest => line? '"' true size rest
  | '\'' :: rest => line? '\'' false size rest
  | _ => none

def quoted? (size : Nat) (text : List Char) : Option (List Char × List Char) :=
  match text with
  | '"' :: '"' :: '"' :: rest => block? '"' true size (withoutFirstEnding rest)
  | '\'' :: '\'' :: '\'' :: rest => block? '\'' false size (withoutFirstEnding rest)
  | text => quotedLine? size text

end TradeSpeech.Toml
