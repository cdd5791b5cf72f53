import TradeSpeech.Decimal.Shortest
import TradeSpeech.Session
import TradeSpeech.Settings.Basic
import TradeSpeech.Text.Casing

/-! Which settings are usable. Every check names the field that it is made for. -/

namespace TradeSpeech

namespace Check

def nonEmpty (field value : String) : Except Error Unit :=
  if value.isEmpty then .error (.invalidValue field value "Value cannot be empty") else .ok ()

def singleWord (field value : String) : Except Error Unit :=
  if value.isEmpty || !value.toList.all Text.isLetter then
    .error (.invalidValue field value "Must be a single word of ASCII letters")
  else .ok ()

def singleSymbol (field token : String) : Except Error Symbol :=
  match Symbol.ofToken? token with
  | some symbol => .ok symbol
  | none => .error (.invalidValue field token "Must be exactly one of I, V, X, L, C, D, M")

def itemName (field name : String) : Except Error Unit :=
  if (Text.words name).length = 1 then .ok ()
  else .error (.invalidValue field name "Item names must be a single word")

def unitPrice (field : String) (price : Float) : Except Error Unit :=
  if !price.isFinite || price < 0 then
    .error (.invalidValue field (Decimal.text price) "Price must be a finite, non-negative number")
  else .ok ()

def first : List (Except Error Unit) → Except Error Unit
  | [] => .ok ()
  | .ok () :: checks => first checks
  | .error error :: _ => .error error

end Check

namespace Settings

def aliasField (word : String) : String :=
  "aliases." ++ word

def priceField (item : String) : String :=
  "prices." ++ item

/-- The checks on settings in the order in which they are made: the separator,
the aliases by name, the prices by name. -/
def checks (settings : Settings) : List (Except Error Unit) :=
  Check.nonEmpty "output.separator" settings.separator ::
    settings.aliases.toList.flatMap (fun (word, token) =>
      [Check.singleWord (aliasField word) word,
        (Check.singleSymbol (aliasField word) token).map fun _ => ()]) ++
    settings.prices.toList.flatMap fun (item, price) =>
      [Check.itemName (priceField item) item, Check.unitPrice (priceField item) price]

def validate (settings : Settings) : Except Error Unit :=
  Check.first settings.checks

end Settings

def Lexicon.seed (aliases : Lexicon Symbol) : List (String × String) →
    Except Error (Lexicon Symbol)
  | [] => .ok aliases
  | (word, token) :: rest =>
    match Check.singleSymbol (Settings.aliasField word) token with
    | .error error => .error error
    | .ok symbol => (aliases.define word symbol).seed rest

def Session.ofSettings (settings : Settings) : Except Error Session :=
  match (∅ : Lexicon Symbol).seed settings.aliases.toList with
  | .error error => .error error
  | .ok aliases => .ok { aliases, prices := (∅ : Lexicon Float).defineAll settings.prices.toList }

end TradeSpeech
