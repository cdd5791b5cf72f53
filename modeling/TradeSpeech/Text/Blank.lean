/-! White space, and the words and lines it divides a text into. -/

namespace TradeSpeech.Text

/-- The characters that carry the Unicode property White_Space. -/
def isBlank (c : Char) : Bool :=
  let code := c.toNat
  (0x09 ≤ code && code ≤ 0x0D) || code == 0x20 || code == 0x85 || code == 0xA0 ||
    code == 0x1680 || (0x2000 ≤ code && code ≤ 0x200A) || code == 0x2028 ||
    code == 0x2029 || code == 0x202F || code == 0x205F || code == 0x3000

example : [' ', '\t', '\n', '\r', '\x0b', '\u0085', '\u00a0', '\u3000'].all isBlank = true := by
  decide

/-- A zero-width space, a separator control and a byte order mark are not blank. -/
example : ['\u200b', '\x1f', '\ufeff', 'a'].any isBlank = false := by decide

def isBlankText (text : List Char) : Bool :=
  text.all isBlank

def wordsOf (text : List Char) : List (List Char) :=
  (text.splitOnP isBlank).filter fun word => !word.isEmpty

def trimmed (text : List Char) : List Char :=
  ((text.dropWhile isBlank).reverse.dropWhile isBlank).reverse

def words (text : String) : List String :=
  (wordsOf text.toList).map String.ofList

def trim (text : String) : String :=
  String.ofList (trimmed text.toList)

example : words "  glob\tprok \n" = ["glob", "prok"] := by decide

example : trim " glob  prok " = "glob  prok" := by decide

def withoutReturn (line : List Char) : List Char :=
  if line.getLast? = some '\r' then line.dropLast else line

/-- The lines of a text that say something: the stretches between line feeds,
each less one carriage return at its end, that hold more than blanks. -/
def spokenLines (text : String) : List String :=
  (((text.toList.splitOn '\n').map withoutReturn).filter fun line => !isBlankText line).map
    String.ofList

example : spokenLines "glob is I\r\n\n   \nhow much is glob ?" =
    ["glob is I", "how much is glob ?"] := by decide

end TradeSpeech.Text
