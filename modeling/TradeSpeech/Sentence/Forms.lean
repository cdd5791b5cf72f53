import TradeSpeech.Sentence.Reading

/-! The four forms of sentence. -/

namespace TradeSpeech.Sentence

inductive Kind
  | defineAlias
  | definePrice
  | queryValue
  | queryPrice
  deriving DecidableEq, Repr

namespace Kind

def all : List Kind := [defineAlias, definePrice, queryValue, queryPrice]

def title : Kind → String
  | defineAlias => "define-alias"
  | definePrice => "define-price"
  | queryValue => "query-value"
  | queryPrice => "query-price"

def tag : Kind → String
  | defineAlias => "define_alias"
  | definePrice => "define_price"
  | queryValue => "query_value"
  | queryPrice => "query_price"

def ofTag? (tag : String) : Option Kind :=
  all.find? fun kind => kind.tag == tag

end Kind

/-- A form of sentence. The pattern keeps texts of a line, as many as a sentence has parts, and
the sentence is made of them. -/
structure Form (Sentence : Type) where
  pattern : Pattern
  parts : Sentence → List String
  ofParts? : List String → Option Sentence
  ofParts?_parts (sentence : Sentence) : ofParts? (parts sentence) = some sentence
  exists_parts (texts : List String) :
    texts.length = pattern.countP Piece.kept → ∃ sentence, parts sentence = texts

def Form.read? (form : Form Sentence) (line : String) : Option Sentence :=
  (form.pattern.find line.toList).bind fun kept => form.ofParts? (kept.map String.ofList)

/-! ## Definition of an alias

`glob is I`: a word of letters, and one or more symbol letters. -/

structure AliasDefinition where
  word : String
  symbols : String
  deriving DecidableEq, Repr

namespace AliasDefinition

def pattern : Pattern :=
  [looseBlanks, keep Text.isWordLetter (.most 1), gap] ++ keyword "is" ++
    [gap, keep isSymbolLetter (.most 1), looseBlanks]

def form : Form AliasDefinition where
  pattern := pattern
  parts sentence := [sentence.word, sentence.symbols]
  ofParts?
    | [word, symbols] => some ⟨word, symbols⟩
    | _ => none
  ofParts?_parts _ := rfl
  exists_parts
    | [word, symbols], _ => ⟨⟨word, symbols⟩, rfl⟩

def read? (line : String) : Option AliasDefinition :=
  form.read? line

example : read? "  Prok IS v  " = some ⟨"Prok", "v"⟩ := by decide

example : read? "glob glob is I" = none := by decide

end AliasDefinition

/-! ## Definition of a price

`glob glob Silver is 34 Credits`: a phrase, an item, and an amount in digits.
The phrase may be empty if something blank stands before the item. -/

structure PriceDefinition where
  quantity : String
  item : String
  amount : String
  deriving DecidableEq, Repr

namespace PriceDefinition

def pattern : Pattern :=
  [keep isPhraseChar (.most 0), gap, keep isItemChar (.most 1), gap] ++ keyword "is" ++
    [gap, keep Text.isDigit (.most 1), gap] ++ keyword "credits" ++ [looseBlanks]

def form : Form PriceDefinition where
  pattern := pattern
  parts sentence := [sentence.quantity, sentence.item, sentence.amount]
  ofParts?
    | [quantity, item, amount] => some ⟨quantity, item, amount⟩
    | _ => none
  ofParts?_parts _ := rfl
  exists_parts
    | [quantity, item, amount], _ => ⟨⟨quantity, item, amount⟩, rfl⟩

def read? (line : String) : Option PriceDefinition :=
  form.read? line

example : read? "glob glob Silver is 34 Credits" = some ⟨"glob glob", "Silver", "34"⟩ := by
  decide

/-- Of two blanks before the item the last one separates. -/
example : read? "glob  is is 1 credits" = some ⟨"glob ", "is", "1"⟩ := by decide

example : read? "Silver is 34 Credits" = none := by decide

end PriceDefinition

/-! ## Question for a value

`how much is pish tegj ?`: the phrase between the keywords and the last question
mark, without the blanks at its ends. -/

structure ValueQuestion where
  quantity : String
  deriving DecidableEq, Repr

namespace ValueQuestion

def pattern : Pattern :=
  [looseBlanks] ++ keyword "how" ++ [gap] ++ keyword "much" ++ [gap] ++ keyword "is" ++
    [gap, keep isPhraseChar (.fewest 0), looseBlanks, mark '?', looseBlanks]

def form : Form ValueQuestion where
  pattern := pattern
  parts sentence := [sentence.quantity]
  ofParts?
    | [quantity] => some ⟨quantity⟩
    | _ => none
  ofParts?_parts _ := rfl
  exists_parts
    | [quantity], _ => ⟨⟨quantity⟩, rfl⟩

def read? (line : String) : Option ValueQuestion :=
  form.read? line

example : read? "How Much is glob prok?" = some ⟨"glob prok"⟩ := by decide

example : read? "how much is a ? ?" = some ⟨"a ?"⟩ := by decide

end ValueQuestion

/-! ## Question for a price

`how many Credits is glob prok Silver ?`: a phrase and an item, where the item
reaches to the last question mark or the blanks before it. -/

structure PriceQuestion where
  quantity : String
  item : String
  deriving DecidableEq, Repr

namespace PriceQuestion

def pattern : Pattern :=
  [looseBlanks] ++ keyword "how" ++ [gap] ++ keyword "many" ++ [gap] ++ keyword "credits" ++
    [gap] ++ keyword "is" ++
    [gap, keep isPhraseChar (.most 0), gap, keep isItemChar (.fewest 1), looseBlanks,
      mark '?', looseBlanks]

def form : Form PriceQuestion where
  pattern := pattern
  parts sentence := [sentence.quantity, sentence.item]
  ofParts?
    | [quantity, item] => some ⟨quantity, item⟩
    | _ => none
  ofParts?_parts _ := rfl
  exists_parts
    | [quantity, item], _ => ⟨⟨quantity, item⟩, rfl⟩

def read? (line : String) : Option PriceQuestion :=
  form.read? line

example : read? "how many credits is glob Iron?" = some ⟨"glob", "Iron"⟩ := by decide

example : read? "how many Credits is Silver ?" = none := by decide

/-- A second blank after the keyword leaves room for an empty phrase. -/
example : read? "how many Credits is  Silver??" = some ⟨"", "Silver?"⟩ := by decide

/-- A question mark on its own may be an item. -/
example : read? "how many Credits is glob ??" = some ⟨"glob", "?"⟩ := by decide

end PriceQuestion

end TradeSpeech.Sentence
