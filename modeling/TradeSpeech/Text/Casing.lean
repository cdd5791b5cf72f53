import TradeSpeech.Text.CaseTable

/-! Upper-case spellings, by which names are compared, and the letters that
stand for one another in a keyword. -/

namespace TradeSpeech.Text

def isLetter (c : Char) : Bool :=
  ('a' ≤ c && c ≤ 'z') || ('A' ≤ c && c ≤ 'Z')

/-- The lower-case form by which a character takes part in a keyword. Beyond
ASCII, the long s stands for an s and the Kelvin sign for a k. -/
def keywordForm (c : Char) : Char :=
  if c = '\u017f' then 's' else if c = '\u212a' then 'k' else c.toLower

def sameLetter (letter c : Char) : Bool :=
  keywordForm c == letter

def isWordLetter (c : Char) : Bool :=
  isLetter (keywordForm c)

/-- The spelling of one character in upper case, which may be several
characters and does not depend on the characters around it. -/
def upperSpelling (c : Char) : List Char :=
  if c.toNat < 0x80 then
    [c.toUpper]
  else
    match longSpellings.lookup c.toNat with
    | some codes => codes.map Char.ofNat
    | none =>
      match caseRuns.findSome? fun run => run.spelling? c.toNat with
      | some code => [Char.ofNat code]
      | none => [c]

def upperCase (text : String) : String :=
  String.ofList (text.toList.flatMap upperSpelling)

example : upperCase "Glob-7" = "GLOB-7" := by decide

example : upperCase "ß\u017f" = "SSS" := by decide

/-- The Kelvin sign is a capital already, and keeps its own spelling. -/
example : upperCase "\u212a" = "\u212a" := by decide

end TradeSpeech.Text
