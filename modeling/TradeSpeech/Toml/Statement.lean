import TradeSpeech.Toml.Quoted
import TradeSpeech.Toml.Scalar

/-! The statements of a document: pairs of a key and a value, and the headers
that say which table the pairs after them belong to. Where something may be
repeated, `size` bounds how often: the length of the document will do. -/

namespace TradeSpeech.Toml

inductive Statement
  | pair (path : List String) (key : String) (value : Node)
  | table (path : List String) (key : String)
  | tables (path : List String) (key : String)

/-! ## Blanks, line endings and comments -/

def skipSpaces (text : List Char) : List Char :=
  text.dropWhile isSpace

def skipLines (inComment : Bool) : List Char → Option (List Char)
  | [] => some []
  | '\n' :: rest => skipLines false rest
  | '\r' :: '\n' :: rest => skipLines false rest
  | c :: rest =>
    if inComment then
      if isPlain c then skipLines true rest else none
    else if isSpace c then skipLines false rest
    else if c = '#' then skipLines true rest
    else some (c :: rest)

def endLine (text : List Char) : Option (List Char) :=
  let rest := match skipSpaces text with
    | '#' :: rest => rest.dropWhile isPlain
    | rest => rest
  match rest with
  | [] => some []
  | '\n' :: rest => some rest
  | '\r' :: '\n' :: rest => some rest
  | _ => none

/-! ## Keys -/

def isKeyChar (c : Char) : Bool :=
  ('a' ≤ c && c ≤ 'z') || ('A' ≤ c && c ≤ 'Z') || Text.isDigit c || c == '-' || c == '_'

def keyPart? (size : Nat) (text : List Char) : Option (String × List Char) :=
  match text with
  | '"' :: _ | '\'' :: _ =>
    (quotedLine? size text).map fun (part, rest) => (String.ofList part, rest)
  | text =>
    match text.span isKeyChar with
    | ([], _) => none
    | (part, rest) => some (String.ofList part, rest)

/-- A key of at most `count` parts with points between them. Gives the parts
before the last one, the last one, and what follows the blanks after the key. -/
def keyParts? (size : Nat) :
    (count : Nat) → List Char → Option (List String × String × List Char)
  | 0, _ => none
  | count + 1, text => do
    let (part, rest) ← keyPart? size text
    match skipSpaces rest with
    | '.' :: rest =>
      let (path, key, rest) ← keyParts? size count (skipSpaces rest)
      return (part :: path, key, rest)
    | rest => return ([], part, rest)

/-- How deep a document may go: the parts of a key, and the brackets around a
value. -/
def depthLimit : Nat := 80

def key? (size : Nat) (text : List Char) : Option (List String × String × List Char) :=
  keyParts? size depthLimit text

/-! ## Values -/

def isScalarChar (c : Char) : Bool :=
  !(c == '\n' || c == '\r' || c == '#' || c == ',' || c == '=' || c == '[' || c == ']' ||
    c == '{' || c == '}')

def opensQuotation : List Char → Bool
  | c :: d :: rest => (isSpace c && (d == '"' || d == '\'')) || opensQuotation (d :: rest)
  | _ => false

/-- A value without brackets. Without quotes it goes on over blanks, up to what
ends a value, and the blanks in front of that do not belong to it. -/
def simpleValue? (size : Nat) (text : List Char) : Option (Node × List Char) :=
  match text with
  | '"' :: _ | '\'' :: _ =>
    (quoted? size text).map fun (value, rest) => (.text (String.ofList value), rest)
  | text => do
    let (written, rest) := text.span isScalarChar
    if opensQuotation written then none
    return (← scalar? (written.reverse.dropWhile isSpace).reverse, rest)

def items? (value? : List Char → Option (Node × List Char)) :
    (size : Nat) → List Char → Option (List Node × List Char)
  | 0, _ => none
  | size + 1, text => do
    match ← skipLines false text with
    | ']' :: rest => return ([], rest)
    | text =>
      let (value, rest) ← value? text
      match ← skipLines false rest with
      | ',' :: rest =>
        let (values, rest) ← items? value? size rest
        return (value :: values, rest)
      | ']' :: rest => return ([value], rest)
      | _ => none

def pair? (skip : List Char → Option (List Char))
    (value? : List Char → Option (Node × List Char)) (size : Nat) (text : List Char) :
    Option (List String × String × Node × List Char) := do
  let (path, key, rest) ← key? size text
  let '=' :: rest ← skip rest | none
  let (value, rest) ← value? (← skip rest)
  return (path, key, value, rest)

/-- The pairs of a table between braces after its opening brace, added to
`entries`. Lines may end anywhere but within a key, and a comma may follow the
last pair. -/
def pairs? (value? : List Char → Option (Node × List Char)) (size : Nat) :
    (count : Nat) → Entries → List Char → Option (Entries × List Char)
  | 0, _, _ => none
  | count + 1, entries, text => do
    match ← skipLines false text with
    | '}' :: rest => return (entries, rest)
    | text =>
      let (path, key, value, rest) ← pair? (skipLines false) value? size text
      let entries ← entries.addPair path key value .inline
      match ← skipLines false rest with
      | ',' :: rest => pairs? value? size count entries rest
      | '}' :: rest => return (entries, rest)
      | _ => none

def value? (size : Nat) : (depth : Nat) → List Char → Option (Node × List Char)
  | 0, text => simpleValue? size text
  | depth + 1, text =>
    match text with
    | '[' :: rest =>
      (items? (value? size depth) size rest).map fun (items, after) => (.array items, after)
    | '{' :: rest =>
      (pairs? (value? size depth) size size [] rest).map fun (entries, after) =>
        (.table .inline entries, after)
    | text => simpleValue? size text

/-! ## Statements -/

def statement? (size : Nat) (text : List Char) : Option (Statement × List Char) :=
  match text with
  | '[' :: '[' :: rest => do
    let (path, key, rest) ← key? size (skipSpaces rest)
    let ']' :: ']' :: rest := rest | none
    return (.tables path key, rest)
  | '[' :: rest => do
    let (path, key, rest) ← key? size (skipSpaces rest)
    let ']' :: rest := rest | none
    return (.table path key, rest)
  | text => do
    let (path, key, value, rest) ←
      pair? (fun text => some (skipSpaces text)) (value? size depthLimit) size text
    return (.pair path key value, rest)

def statements? (size : Nat) : (count : Nat) → List Char → Option (List Statement)
  | 0, _ => none
  | count + 1, text => do
    match ← skipLines false text with
    | [] => return []
    | text =>
      let (statement, rest) ← statement? size text
      return statement :: (← statements? size count (← endLine rest))

end TradeSpeech.Toml
