/-! A text with a value for each of its suffixes. What a suffix is worth often
depends on the character in front and on the suffix after it alone, so that one
pass from the end finds all the values. -/

namespace TradeSpeech.Text

/-- The characters of a text, and a value for each suffix, the whole text first
and the empty suffix last. -/
inductive Suffixes (α : Type u)
  | finish (value : α)
  | letter (c : Char) (value : α) (rest : Suffixes α)

namespace Suffixes

def value : Suffixes α → α
  | finish value => value
  | letter _ value _ => value

def of (worth : List Char → α) : List Char → Suffixes α
  | [] => finish (worth [])
  | c :: rest => letter c (worth (c :: rest)) (of worth rest)

@[simp] theorem value_of (worth : List Char → α) (text : List Char) :
    (of worth text).value = worth text := by
  cases text <;> rfl

def map (change : α → β) : Suffixes α → Suffixes β
  | finish value => finish (change value)
  | letter c value rest => letter c (change value) (rest.map change)

theorem map_of (change : α → β) (worth : List Char → α) (text : List Char) :
    (of worth text).map change = of (fun suffix => change (worth suffix)) text := by
  induction text with
  | nil => rfl
  | cons c rest induction => simp [of, map, induction]

end Suffixes

end TradeSpeech.Text
