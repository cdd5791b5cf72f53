import Mathlib.Algebra.Order.Ring.Nat
import Mathlib.Algebra.Order.BigOperators.Group.List
import TradeSpeech.Proofs.Numeral.Walk

/-! # The range of a walk

A walk over any symbols never holds more than the symbols it has seen are worth
together. So its sums fit a word of 64 bits for all sequences of symbols that fit a
memory, and the words that are summed may be taken for numbers. In a numeral, what
is pending is moreover positive, of the size of the last symbol, and less than any
symbol it is taken from. -/

namespace TradeSpeech

theorem Symbol.value_le (symbol : Symbol) : symbol.value ≤ 1000 := by
  cases symbol <;> decide

namespace Numeral

def sideBySide (symbols : List Symbol) : Nat :=
  (symbols.map Symbol.value).sum

@[simp] theorem sideBySide_cons (first : Symbol) (rest : List Symbol) :
    sideBySide (first :: rest) = first.value + sideBySide rest := by
  rw [sideBySide, List.map_cons, List.sum_cons, sideBySide]

theorem sideBySide_le (symbols : List Symbol) : sideBySide symbols ≤ 1000 * symbols.length := by
  have each : ∀ value ∈ symbols.map Symbol.value, value ≤ 1000 := by
    intro value member
    rcases List.mem_map.mp member with ⟨symbol, _, rfl⟩
    exact symbol.value_le
  have all := List.sum_le_card_nsmul (symbols.map Symbol.value) 1000 each
  rw [List.length_map, Nat.nsmul_eq_mul, Nat.mul_comm] at all
  exact all

def Walk.past (first : Symbol) (seen : List Symbol) : Walk :=
  seen.foldl step (start first)

theorem worth_append (first : Symbol) (seen behind : List Symbol) :
    worth (first :: seen ++ behind) = (behind.foldl Walk.step (Walk.past first seen)).total := by
  rw [List.cons_append, worth, List.foldl_append, Walk.past]

theorem worth_cons (first : Symbol) (rest : List Symbol) :
    worth (first :: rest) = (Walk.past first rest).total := rfl

/-! ## Sums -/

theorem Walk.total_step_le (walk : Walk) (current : Symbol) :
    (walk.step current).total ≤ walk.total + current.value := by
  rcases current.eq_or_value_lt walk.last with same | descends | ascends
  · subst same
    rw [step_last, total, total]
    simp only
    omega
  · rw [step_of_lt descends, total, total]
  · rw [step_of_gt ascends, total, total]
    simp only
    omega

theorem Walk.total_foldl_le (walk : Walk) (rest : List Symbol) :
    (rest.foldl step walk).total ≤ walk.total + sideBySide rest := by
  induction rest generalizing walk with
  | nil => exact Nat.le_refl walk.total
  | cons current rest induction =>
      have one := walk.total_step_le current
      have later := induction (walk.step current)
      rw [List.foldl_cons, sideBySide_cons]
      omega

theorem Walk.total_past_le (first : Symbol) (seen : List Symbol) :
    (past first seen).total ≤ sideBySide (first :: seen) := by
  have all := total_foldl_le (start first) seen
  have one : (start first).total = first.value := Nat.zero_add first.value
  rw [sideBySide_cons, past]
  omega

/-! ## Words

Words of 64 bits are summed as numbers as long as no sum is too large for a word. -/

def wordSum? (left right : Nat) : Option Nat :=
  if left + right < 2 ^ 64 then some (left + right) else none

theorem wordSum?_of_lt {left right : Nat} (fits : left + right < 2 ^ 64) :
    wordSum? left right = some (left + right) :=
  if_pos fits

theorem wordSum?_eq_some_iff {left right total : Nat} :
    wordSum? left right = some total ↔ left + right = total ∧ total < 2 ^ 64 := by
  rw [wordSum?, Option.ite_none_right_eq_some, Option.some_inj]
  omega

def Walk.wordStep? (walk : Walk) (current : Symbol) : Option Walk :=
  if current = walk.last then
    (wordSum? walk.pending current.value).map fun pending => { walk with pending }
  else if current.value < walk.last.value then
    (wordSum? walk.settled walk.pending).map fun settled =>
      { settled, pending := current.value, last := current }
  else
    some { walk with pending := current.value - walk.pending, last := current }

/-- What symbols are worth, if all sums on the way are words. -/
def wordWorth? : List Symbol → Option Nat
  | [] => some 0
  | first :: rest => do
    let walk ← rest.foldlM Walk.wordStep? (Walk.start first)
    wordSum? walk.settled walk.pending

theorem Walk.wordStep?_eq_some {walk : Walk} {current : Symbol}
    (fits : (walk.step current).total < 2 ^ 64) :
    walk.wordStep? current = some (walk.step current) := by
  -- The only sum of a step is a part of what the walk holds after it.
  rw [total] at fits
  unfold wordStep?
  unfold step at fits ⊢
  split
  · have sum : walk.pending + current.value < 2 ^ 64 := by
      simp_all only [if_true]
      omega
    rw [wordSum?_of_lt sum, Option.map_some]
  · split
    · have sum : walk.settled + walk.pending < 2 ^ 64 := by
        simp_all only [if_true, if_false]
        omega
      rw [wordSum?_of_lt sum, Option.map_some]
    · rfl

theorem Walk.foldlM_wordStep?_eq_some {walk : Walk} {rest : List Symbol}
    (fits : ∀ seen, seen <+: rest → (seen.foldl step walk).total < 2 ^ 64) :
    rest.foldlM wordStep? walk = some (rest.foldl step walk) := by
  induction rest generalizing walk with
  | nil => rfl
  | cons current rest induction =>
      have one : (walk.step current).total < 2 ^ 64 :=
        fits [current] (List.cons_prefix_cons.mpr ⟨rfl, List.nil_prefix⟩)
      rw [List.foldlM_cons, wordStep?_eq_some one, List.foldl_cons]
      apply induction
      intro seen begins
      exact fits (current :: seen) (List.cons_prefix_cons.mpr ⟨rfl, begins⟩)

theorem wordWorth?_of_beginnings {symbols : List Symbol}
    (fits : ∀ front, front <+: symbols → worth front < 2 ^ 64) :
    wordWorth? symbols = some (worth symbols) := by
  cases symbols with
  | nil => rfl
  | cons first rest =>
      have words : rest.foldlM Walk.wordStep? (Walk.start first) = some (Walk.past first rest) := by
        apply Walk.foldlM_wordStep?_eq_some
        intro seen begins
        exact fits (first :: seen) (List.cons_prefix_cons.mpr ⟨rfl, begins⟩)
      rw [wordWorth?, words, worth_cons]
      exact wordSum?_of_lt (fits (first :: rest) (List.prefix_refl _))

theorem Walk.eq_step_of_wordStep? {walk next : Walk} {current : Symbol}
    (found : walk.wordStep? current = some next) : next = walk.step current := by
  unfold wordStep? at found
  unfold step
  split at found
  · rename_i same
    rcases Option.map_eq_some_iff.mp found with ⟨pending, sum, rfl⟩
    rw [if_pos same, (wordSum?_eq_some_iff.mp sum).1]
  · rename_i different
    rw [if_neg different]
    split at found
    · rename_i descends
      rcases Option.map_eq_some_iff.mp found with ⟨settled, sum, rfl⟩
      rw [if_pos descends, (wordSum?_eq_some_iff.mp sum).1]
    · rename_i ascends
      cases found
      rw [if_neg ascends]

theorem Walk.eq_foldl_of_foldlM_wordStep? {walk last : Walk} {rest : List Symbol}
    (found : rest.foldlM wordStep? walk = some last) : last = rest.foldl step walk := by
  induction rest generalizing walk with
  | nil =>
      cases found
      rfl
  | cons current rest induction =>
      rw [List.foldlM_cons, Option.bind_eq_bind, Option.bind_eq_some_iff] at found
      rcases found with ⟨next, stepped, found⟩
      rw [List.foldl_cons, ← eq_step_of_wordStep? stepped]
      exact induction found

theorem worth_of_wordWorth? {symbols : List Symbol} {total : Nat}
    (found : wordWorth? symbols = some total) : worth symbols = total ∧ total < 2 ^ 64 := by
  cases symbols with
  | nil =>
      cases found
      exact ⟨rfl, by decide⟩
  | cons first rest =>
      rw [wordWorth?, Option.bind_eq_bind, Option.bind_eq_some_iff] at found
      rcases found with ⟨last, walked, sum⟩
      rw [worth_cons, Walk.past, ← Walk.eq_foldl_of_foldlM_wordStep? walked]
      exact wordSum?_eq_some_iff.mp sum

theorem worth_le_sideBySide (symbols : List Symbol) : worth symbols ≤ sideBySide symbols := by
  cases symbols with
  | nil => exact Nat.le_refl 0
  | cons first rest => exact Walk.total_past_le first rest

theorem wordWorth?_eq_some {symbols : List Symbol} (fits : sideBySide symbols < 2 ^ 64) :
    wordWorth? symbols = some (worth symbols) := by
  apply wordWorth?_of_beginnings
  intro front begins
  rcases begins with ⟨rest, rfl⟩
  have atMost := worth_le_sideBySide front
  rw [sideBySide, List.map_append, List.sum_append] at fits
  rw [sideBySide] at atMost
  omega

/-! ## Numerals -/

theorem Walk.exists_amid_past {numeral : Numeral} {first : Symbol} {seen behind : List Symbol}
    (parts : numeral.symbols = first :: seen ++ behind) :
    ∃ run, (past first seen).Amid run behind := by
  have wellFormed := numeral.wellFormed
  rw [parts] at wellFormed
  exact (amid_start wellFormed).foldl

/-- On the way through any symbols no walk holds more than those it has seen are worth
side by side, and no sum leaves 64 bits while a thousand for each symbol fits them. In
a text that is a numeral, whatever has been seen of it, what is pending is positive and
at most three times the last symbol, and less than a greater symbol that comes next; and
the text is worth something. -/
theorem walks_stay_in_range :
    (∀ first seen behind,
      worth (first :: seen ++ behind) = (behind.foldl Walk.step (Walk.past first seen)).total ∧
      (Walk.past first seen).total ≤ ((first :: seen).map Symbol.value).sum ∧
      ((first :: seen).map Symbol.value).sum ≤ 1000 * (first :: seen).length) ∧
    (∀ symbols : List Symbol, 1000 * symbols.length < 2 ^ 64 →
      wordWorth? symbols = some (worth symbols)) ∧
    ∀ text numeral, parse text = .ok numeral →
      (∀ first seen behind, numeral.symbols = first :: seen ++ behind →
        1 ≤ (Walk.past first seen).pending ∧
        (Walk.past first seen).pending ≤ 3 * (Walk.past first seen).last.value ∧
        ∀ current rest, behind = current :: rest →
          (Walk.past first seen).last.value < current.value →
          (Walk.past first seen).pending < current.value) ∧
      1 ≤ numeral.value := by
  refine ⟨?_, ?_, ?_⟩
  · intro first seen behind
    exact ⟨worth_append first seen behind, Walk.total_past_le first seen,
      sideBySide_le (first :: seen)⟩
  · intro symbols short
    exact wordWorth?_eq_some (Nat.lt_of_le_of_lt (sideBySide_le symbols) short)
  · intro text numeral _
    refine ⟨?_, numeral.value_pos⟩
    intro first seen behind parts
    rcases Walk.exists_amid_past parts with ⟨run, amid⟩
    refine ⟨amid.positive, amid.pending_le, ?_⟩
    intro current rest next ascends
    subst next
    exact amid.pending_lt ascends

/-- A numeral whose tens are taken from a hundred after three ones were taken from them. -/
theorem walks_stay_in_range_at_chained_ascents :
    wordWorth? [.V, .V, .V, .V, .M] = some (worth [.V, .V, .V, .V, .M]) ∧
    ∃ numeral, parse "iiixxc" = .ok numeral ∧
      numeral.symbols = .I :: [.I, .I, .X, .X] ++ [.C] ∧
      1 ≤ (Walk.past .I [.I, .I, .X, .X]).pending ∧
      (Walk.past .I [.I, .I, .X, .X]).pending ≤
        3 * (Walk.past .I [.I, .I, .X, .X]).last.value ∧
      (Walk.past .I [.I, .I, .X, .X]).last.value < Symbol.C.value ∧
      (Walk.past .I [.I, .I, .X, .X]).pending < Symbol.C.value ∧
      1 ≤ numeral.value := by
  have read : parse "iiixxc" = .ok ⟨[.I, .I, .I, .X, .X, .C], by decide⟩ := rfl
  have words := walks_stay_in_range.2.1 [.V, .V, .V, .V, .M] (by decide)
  have numeral := walks_stay_in_range.2.2 "iiixxc" _ read
  have walk := numeral.1 .I [.I, .I, .X, .X] [.C] rfl
  have ascends : (Walk.past .I [.I, .I, .X, .X]).last.value < Symbol.C.value := by decide
  exact ⟨words, _, read, rfl, walk.1, walk.2.1, ascends, walk.2.2 .C [] rfl ascends, numeral.2⟩

end Numeral

end TradeSpeech
