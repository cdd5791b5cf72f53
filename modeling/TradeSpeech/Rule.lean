import TradeSpeech.Decimal.Shortest
import TradeSpeech.Sentence.Forms
import TradeSpeech.Session

/-! What the sentences mean. A sentence acts on the session it is said in: a
definition adds to it and is acknowledged in silence, a question leaves it as
it is and is answered with a message. -/

namespace TradeSpeech

open Sentence (Kind Form AliasDefinition PriceDefinition ValueQuestion PriceQuestion)

/-- What saying a sentence does: the session afterwards, and a message, silence
or an error. -/
abbrev Action := Session → Session × Except Error (Option String)

/-- A form of sentence with its meaning. `recognise` says whether a line has the
form, and if so what it does. -/
structure Rule where
  kind : Kind
  recognise : String → Option Action

namespace Sentence

def AliasDefinition.say (sentence : AliasDefinition) : Action := fun session =>
  match Symbol.ofToken? sentence.symbols with
  | none => (session, .error (.notASingleSymbol sentence.symbols))
  | some symbol => (session.defineAlias sentence.word symbol, .ok none)

def PriceDefinition.say (sentence : PriceDefinition) : Action := fun session =>
  match session.quantity sentence.quantity with
  | .error error => (session, .error error)
  | .ok numeral =>
    match amountOf? sentence.amount with
    | none => (session, .error .amountOutOfRange)
    | some amount =>
      if numeral.value = 0 then (session, .error (.quantityOfZero numeral))
      else (session.definePrice sentence.item (unitPrice amount numeral.value), .ok none)

def ValueQuestion.say (sentence : ValueQuestion) : Action := fun session =>
  match session.quantity sentence.quantity with
  | .error error => (session, .error error)
  | .ok numeral =>
    (session, .ok (some (sentence.quantity ++ " is " ++ toString numeral.value)))

def PriceQuestion.say (sentence : PriceQuestion) : Action := fun session =>
  match session.quantity sentence.quantity with
  | .error error => (session, .error error)
  | .ok numeral =>
    match session.prices.lookup sentence.item with
    | none => (session, .error (.unknownItem sentence.item))
    | some price =>
      (session, .ok (some (Text.trim sentence.quantity ++ " " ++ sentence.item ++ " is " ++
        Decimal.text (totalPrice price numeral.value) ++ " Credits")))

end Sentence

namespace Rule

def ofForm (kind : Kind) (form : Form σ) (say : σ → Action) : Rule where
  kind := kind
  recognise line := (form.read? line).map say

def defineAlias : Rule :=
  ofForm .defineAlias AliasDefinition.form AliasDefinition.say

def definePrice : Rule :=
  ofForm .definePrice PriceDefinition.form PriceDefinition.say

def queryValue : Rule :=
  ofForm .queryValue ValueQuestion.form ValueQuestion.say

def queryPrice : Rule :=
  ofForm .queryPrice PriceQuestion.form PriceQuestion.say

def standard : List Rule := [defineAlias, definePrice, queryValue, queryPrice]

def ofKind : Kind → Rule
  | .defineAlias => defineAlias
  | .definePrice => definePrice
  | .queryValue => queryValue
  | .queryPrice => queryPrice

end Rule

end TradeSpeech
