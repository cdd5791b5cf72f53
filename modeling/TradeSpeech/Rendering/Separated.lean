import TradeSpeech.Rendering.Row

/-! Transcripts as records of fields that a delimiter separates. -/

namespace TradeSpeech.Rendering

def isLayout (delimiter c : Char) : Bool :=
  c == delimiter || c == '"' || c == '\r' || c == '\n'

def doubled (c : Char) : List Char :=
  if c = '"' then ['"', '"'] else [c]

def field (delimiter : Char) (text : String) : String :=
  if text.toList.any (isLayout delimiter) then
    String.ofList ('"' :: text.toList.flatMap doubled ++ ['"'])
  else
    text

def record (delimiter : Char) (texts : List String) : String :=
  String.intercalate (String.singleton delimiter) (texts.map (field delimiter)) ++ "\n"

def Row.fields (row : Row) : List String :=
  [row.line, statusText row.status, row.message]

def header : List String := ["line", "status", "message"]

def separated (delimiter : Char) (transcript : Transcript) : String :=
  String.join ((header :: (rows transcript).map Row.fields).map (record delimiter))

example : record ',' ["a,\"b\"", "true", ""] = "\"a,\"\"b\"\"\",true,\n" := by decide

/-! ## Writing

Records are written as bytes, one after the other. A record that has another number of fields
than the first one is refused. -/

structure Written where
  bytes : ByteArray
  width : Option Nat

namespace Written

def nothing : Written where
  bytes := ByteArray.empty
  width := none

def add (delimiter : Char) (written : Written) (texts : List String) : Except Error Written :=
  let width := written.width.getD texts.length
  if texts.length = width then
    .ok ⟨written.bytes ++ (record delimiter texts).toUTF8, some width⟩
  else
    .error (.separatedValues ("CSV error: found record with " ++ toString texts.length ++
      " fields, but the previous record has " ++ toString width ++ " fields"))

def addAll (delimiter : Char) (written : Written) : List (List String) → Except Error Written
  | [] => .ok written
  | texts :: later =>
    match written.add delimiter texts with
    | .error error => .error error
    | .ok written => written.addAll delimiter later

def text (written : Written) : Except Error String :=
  match String.fromUTF8? written.bytes with
  | some text => .ok text
  | none => .error (.internalFault "the records written are not a text")

end Written

def writeSeparated (delimiter : Char) (transcript : Transcript) : Except Error String :=
  match Written.nothing.addAll delimiter (header :: (rows transcript).map Row.fields) with
  | .error error => .error error
  | .ok written => written.text

end TradeSpeech.Rendering
