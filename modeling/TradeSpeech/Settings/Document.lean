import TradeSpeech.Settings.Placeholder
import TradeSpeech.Settings.Validation
import TradeSpeech.Toml.Document

/-! Settings as documents. The table `output` holds a format and a separator,
`aliases` a token for each word and `prices` a number for each item; whatever
else a document holds has to be readable, and is passed over. -/

namespace TradeSpeech.Settings

open Toml (Node Entries)

/-- The name under which a date or time is the only entry of a table. -/
def momentKey : String := "$__toml_private_datetime"

def entriesOf? : Node → Option Entries
  | .table _ entries => some entries
  | .moment moment => some [(momentKey, .text moment.text)]
  | _ => none

def itemsOf? : Node → Option (List Node)
  | .array items => some items
  | .tables items => some (items.map fun (origin, entries) => .table origin entries)
  | _ => none

def textOf? : Node → Option String
  | .text value => some value
  | _ => none

def isEmptyNode : Node → Bool
  | .array items => items.isEmpty
  | .tables items => items.isEmpty
  | .table _ entries => entries.isEmpty
  | _ => false

def formatOf? : Node → Option Format
  | .text tag => Format.ofTag? tag
  | .table _ [(tag, inner)] => if isEmptyNode inner then Format.ofTag? tag else none
  | _ => none

def priceOf? : Node → Option Float
  | .integer value =>
    if -Nat.pow 2 63 ≤ value && value < Nat.pow 2 64 then
      some (Decimal.nearest (value < 0) value.natAbs 0)
    else none
  | .real value => some value
  | _ => none

def orDefault (node : Option Node) (read? : Node → Option α) (default : α) : Option α :=
  match node with
  | none => some default
  | some node => read? node

def othersReadable (names : List String) (entries : Entries) : Bool :=
  Toml.entriesReadable (entries.filter fun (key, _) => !names.contains key)

/-- The format and the separator, by name or in this order. Of a list nothing
more is read. -/
def outputOf? (node : Node) : Option (Format × String) := do
  let (format, separator) ←
    match entriesOf? node, itemsOf? node with
    | some entries, _ =>
      if othersReadable ["format", "separator"] entries then
        some (entries.lookup "format", entries.lookup "separator")
      else none
    | none, some items => some (items[0]?, items[1]?)
    | none, none => none
  let defaults : Settings := {}
  return (← orDefault format formatOf? defaults.format,
    ← orDefault separator textOf? defaults.separator)

def mapOf? (read? : Node → Option α) (node : Node) : Option (Std.ExtTreeMap String α) := do
  let entries ← entriesOf? node
  let values ← entries.mapM fun (key, value) => do return (key, ← read? value)
  return Std.ExtTreeMap.ofList values

def ofEntries? (entries : Entries) : Option Settings := do
  if !othersReadable ["output", "aliases", "prices"] entries then none
  let defaults : Settings := {}
  let (format, separator) ←
    orDefault (entries.lookup "output") outputOf? (defaults.format, defaults.separator)
  let aliases ← orDefault (entries.lookup "aliases") (mapOf? textOf?) ∅
  let prices ← orDefault (entries.lookup "prices") (mapOf? priceOf?) ∅
  return { format, separator, aliases, prices }

def unreadable : Error :=
  .invalidSettings "toml_parsing" "TOML parsing error"

def parse (environment : String → Option String) (document : String) : Except Error Settings :=
  match (Toml.document? (Placeholder.substitute environment document)).bind ofEntries? with
  | some settings => .ok settings
  | none => .error unreadable

end TradeSpeech.Settings
