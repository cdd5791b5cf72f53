import TradeSpeech.Toml.Moment

/-! Documents of tables, and how statements add to them. -/

namespace TradeSpeech.Toml

inductive Origin
  /-- on the way to the table of a header -/
  | implied
  /-- on the way to the key of a dotted pair -/
  | dotted
  /-- by a header of its own -/
  | header
  /-- between braces, as a value -/
  | inline
  deriving DecidableEq, Repr

/-- A value of a document. What has the shape of a number but is worth nothing is
no mistake unless someone reads it. The arrays that headers fill are told from the arrays
that are written as values. -/
inductive Node
  | text (value : String)
  | integer (value : Int)
  | real (value : Float)
  | unreadable
  | truth (value : Bool)
  | moment (value : Moment)
  | array (items : List Node)
  | tables (items : List (Origin × List (String × Node)))
  | table (origin : Origin) (entries : List (String × Node))

abbrev Entries := List (String × Node)

mutual

def Node.isReadable : Node → Bool
  | .unreadable => false
  | .array items => itemsReadable items
  | .tables items => tablesReadable items
  | .table _ entries => entriesReadable entries
  | .text _ | .integer _ | .real _ | .truth _ | .moment _ => true

def itemsReadable : List Node → Bool
  | [] => true
  | item :: rest => item.isReadable && itemsReadable rest

def tablesReadable : List (Origin × List (String × Node)) → Bool
  | [] => true
  | (_, entries) :: rest => entriesReadable entries && tablesReadable rest

def entriesReadable : List (String × Node) → Bool
  | [] => true
  | (_, node) :: rest => node.isReadable && entriesReadable rest

end

namespace Entries

def put (entries : Entries) (key : String) (node : Node) : Entries :=
  match entries with
  | [] => [(key, node)]
  | (other, old) :: rest =>
    if other = key then (key, node) :: rest else (other, old) :: Entries.put rest key node

/-- Changes the table that a path leads to, seen from a table with an origin,
and makes the tables that are missing on the way. The path of a dotted pair may
not enter a table that has a header of its own; no path enters a table between
braces; and a path that meets the tables of a repeated header enters the last
of them. -/
def within (dotted : Bool) (change : Origin → Entries → Option Entries) :
    (path : List String) → Origin → Entries → Option Entries
  | [], origin, entries => change origin entries
  | key :: path, _, entries =>
    match entries.lookup key with
    | none => do
      let origin := if dotted then .dotted else .implied
      return entries.put key (.table origin (← within dotted change path origin []))
    | some (.table origin inner) =>
      if origin = .inline || (dotted && origin = .header) then none
      else do return entries.put key (.table origin (← within dotted change path origin inner))
    | some (.tables items) =>
      match items.getLast? with
      | none => none
      | some (origin, inner) => do
        let last ← within dotted change path origin inner
        return entries.put key (.tables (items.dropLast ++ [(origin, last)]))
    | some _ => none

def insert (dotted : Bool) (key : String) (node : Node) (origin : Origin) (entries : Entries) :
    Option Entries :=
  if decide (origin = .dotted) != dotted || (entries.lookup key).isSome then none
  else some (entries ++ [(key, node)])

def addPair (path : List String) (key : String) (node : Node) (origin : Origin)
    (entries : Entries) : Option Entries :=
  let dotted := !path.isEmpty
  entries.within dotted (Entries.insert dotted key node) path origin

/-- Makes the table of a header. A table that was implied until now gets its
header; any other entry of the same name is in the way. -/
def openTable (key : String) (_ : Origin) (entries : Entries) : Option Entries :=
  match entries.lookup key with
  | none => some (entries.put key (.table .header []))
  | some (.table .implied inner) => some (entries.put key (.table .header inner))
  | some _ => none

def openItem (key : String) (_ : Origin) (entries : Entries) : Option Entries :=
  match entries.lookup key with
  | none => some (entries.put key (.tables [(.header, [])]))
  | some (.tables items) => some (entries.put key (.tables (items ++ [(.header, [])])))
  | some _ => none

end Entries

end TradeSpeech.Toml
