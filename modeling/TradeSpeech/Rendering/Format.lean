import TradeSpeech.Rendering.Objects
import TradeSpeech.Rendering.Plain
import TradeSpeech.Rendering.Separated

/-! The formats in which a transcript can be presented. -/

namespace TradeSpeech

inductive Format
  | text
  | json
  | csv
  | tsv
  deriving DecidableEq, Repr

namespace Format

def all : List Format := [text, json, csv, tsv]

def tag : Format → String
  | text => "text"
  | json => "json"
  | csv => "csv"
  | tsv => "tsv"

def ofTag? (tag : String) : Option Format :=
  all.find? fun format => format.tag == tag

def render (format : Format) (separator : String) (transcript : Transcript) : String :=
  match format with
  | text => Rendering.plain separator transcript
  | json => Rendering.objects transcript
  | csv => Rendering.separated ',' transcript
  | tsv => Rendering.separated '\t' transcript

def present (format : Format) (separator : String) (transcript : Transcript) :
    Except Error String :=
  match format with
  | text => .ok (Rendering.plain separator transcript)
  | json => .ok (Rendering.objects transcript)
  | csv => Rendering.writeSeparated ',' transcript
  | tsv => Rendering.writeSeparated '\t' transcript

end Format

end TradeSpeech
