/-! # Reading separated records

A text of records is read one character at a time. A record is ended by a line feed, with or
without a carriage return in front of it, and its fields are separated by a delimiter. A field
that holds a delimiter, a quote or a part of a line ending stands in quotes, and a quote in it
is written twice. The last record may lack its ending. -/

namespace TradeSpeech.Separated

inductive Place
  /-- In front of a field. -/
  | start
  /-- In a field without quotes. -/
  | plain (text : List Char)
  /-- In a field, behind its opening quote. -/
  | quoted (text : List Char)
  /-- Behind a quote in such a field: the closing one, or the first of two. -/
  | closed (text : List Char)
  /-- Behind a field and the carriage return of a line ending. -/
  | returned (text : List Char)
  deriving DecidableEq, Repr

structure Reader where
  records : List (List String)
  fields : List String
  place : Place
  deriving DecidableEq, Repr

def isPlain (delimiter c : Char) : Bool :=
  c != delimiter && c != '"' && c != '\r' && c != '\n'

namespace Reader

def fresh : Reader where
  records := []
  fields := []
  place := .start

def endField (reader : Reader) (text : List Char) : Reader where
  records := reader.records
  fields := reader.fields ++ [String.ofList text]
  place := .start

def endRecord (reader : Reader) (text : List Char) : Reader where
  records := reader.records ++ [reader.fields ++ [String.ofList text]]
  fields := []
  place := .start

def behind (delimiter : Char) (reader : Reader) (text : List Char) (c : Char) : Option Reader :=
  if c = delimiter then some (reader.endField text)
  else if c = '\n' then some (reader.endRecord text)
  else if c = '\r' then some { reader with place := .returned text }
  else none

def within (delimiter : Char) (reader : Reader) (text : List Char) (c : Char) : Option Reader :=
  if isPlain delimiter c then some { reader with place := .plain (text ++ [c]) }
  else reader.behind delimiter text c

def next (delimiter : Char) (reader : Reader) (c : Char) : Option Reader :=
  match reader.place with
  | .start =>
    if c = '"' then some { reader with place := .quoted [] } else reader.within delimiter [] c
  | .plain text => reader.within delimiter text c
  | .quoted text =>
    if c = '"' then some { reader with place := .closed text }
    else some { reader with place := .quoted (text ++ [c]) }
  | .closed text =>
    if c = '"' then some { reader with place := .quoted (text ++ [c]) }
    else reader.behind delimiter text c
  | .returned text => if c = '\n' then some (reader.endRecord text) else none

def finish (reader : Reader) : Option (List (List String)) :=
  match reader.place with
  | .start => some (if reader.fields = [] then reader.records else (reader.endRecord []).records)
  | .plain text | .closed text => some (reader.endRecord text).records
  | .quoted _ | .returned _ => none

end Reader

def read? (delimiter : Char) (text : String) : Option (List (List String)) :=
  (text.toList.foldlM (Reader.next delimiter) Reader.fresh).bind Reader.finish

example : read? ',' "line,\"a \"\"b\"\",\n\"\r\n\n,x" =
    some [["line", "a \"b\",\n"], [""], ["", "x"]] := by decide

example : read? ',' "a\"b" = none ∧ read? ',' "\"a\"b" = none ∧ read? ',' "\"a" = none := by
  decide

end TradeSpeech.Separated
