import Std.Data.ExtTreeMap
import TradeSpeech.Text.Casing

/-! A lexicon gives meanings to names without regard to case: two names are
the same entry when their upper-case spellings are the same. -/

namespace TradeSpeech

/-- Meanings by upper-case name. -/
structure Lexicon (α : Type u) where
  entries : Std.ExtTreeMap String α

namespace Lexicon

instance : EmptyCollection (Lexicon α) := ⟨{ entries := ∅ }⟩

def lookup (lexicon : Lexicon α) (name : String) : Option α :=
  lexicon.entries[Text.upperCase name]?

def define (lexicon : Lexicon α) (name : String) (meaning : α) : Lexicon α where
  entries := lexicon.entries.insert (Text.upperCase name) meaning

def size (lexicon : Lexicon α) : Nat :=
  lexicon.entries.size

def isEmpty (lexicon : Lexicon α) : Bool :=
  lexicon.entries.isEmpty

/-- Gives each name its meaning in turn, so that of several case variants the
last one counts. -/
def defineAll (lexicon : Lexicon α) (definitions : List (String × α)) : Lexicon α :=
  definitions.foldl (fun lexicon (name, meaning) => lexicon.define name meaning) lexicon

@[simp] theorem lookup_empty (name : String) : (∅ : Lexicon α).lookup name = none := by
  change (∅ : Std.ExtTreeMap String α)[Text.upperCase name]? = none
  simp

theorem lookup_define (lexicon : Lexicon α) (name other : String) (meaning : α) :
    (lexicon.define name meaning).lookup other =
      if Text.upperCase name = Text.upperCase other then some meaning
      else lexicon.lookup other := by
  simp [lookup, define, Std.ExtTreeMap.getElem?_insert]

@[simp] theorem lookup_define_same (lexicon : Lexicon α) (name : String) (meaning : α) :
    (lexicon.define name meaning).lookup name = some meaning := by
  simp [lookup_define]

theorem lookup_define_other (lexicon : Lexicon α) {name other : String} (meaning : α)
    (different : Text.upperCase name ≠ Text.upperCase other) :
    (lexicon.define name meaning).lookup other = lexicon.lookup other := by
  simp [lookup_define, different]

example : ((∅ : Lexicon Nat).define "glob" 1).lookup "GLOB" = some 1 := by decide

example : (((∅ : Lexicon Nat).define "glob" 1).define "Glob" 2).size = 1 := by decide

end Lexicon

end TradeSpeech
