import TradeSpeech.Toml.Statement

/-! Documents that statements build. -/

namespace TradeSpeech.Toml

structure Draft where
  entries : Entries
  current : List String

namespace Draft

def empty : Draft where
  entries := []
  current := []

def add (draft : Draft) : Statement → Option Draft
  | .pair path key value => do
    let entries ← draft.entries.within false (Entries.addPair path key value)
      draft.current .header
    return { draft with entries }
  | .table path key => do
    let entries ← draft.entries.within false (Entries.openTable key) path .header
    return { entries, current := path ++ [key] }
  | .tables path key => do
    let entries ← draft.entries.within false (Entries.openItem key) path .header
    return { entries, current := path ++ [key] }

end Draft

def byteOrderMark : Char := '\ufeff'

def document? (text : String) : Option Entries := do
  let characters := match text.toList with
    | c :: rest => if c = byteOrderMark then rest else c :: rest
    | [] => []
  let size := characters.length + 1
  let statements ← statements? size size characters
  let draft ← statements.foldlM Draft.add Draft.empty
  return draft.entries

end TradeSpeech.Toml
