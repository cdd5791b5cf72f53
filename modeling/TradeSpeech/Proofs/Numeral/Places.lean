import TradeSpeech.Proofs.Numeral.Descents

/-! # A numeral for every quantity

A quantity below nine hundred is written place by place, as numerals commonly are. The nine
hundreds of a greater one come in front: each is a thousand less a hundred, and no run grows
however many of them stand in a row. -/

namespace TradeSpeech.Numeral

/-- Symbols that are worth a quantity and break no rule, and whose beginnings are worth no more.
They are a numeral unless the quantity is zero. -/
structure Expresses (symbols : List Symbol) (quantity : Nat) : Prop where
  short : longRun? symbols = none
  orderly : badPair? symbols = none
  worth_eq : worth symbols = quantity
  steady : ∀ front, front <+: symbols → worth front ≤ quantity

theorem Expresses.isWellFormed {symbols : List Symbol} {quantity : Nat}
    (expresses : Expresses symbols quantity) (positive : 1 ≤ quantity) : IsWellFormed symbols := by
  refine ⟨?_, expresses.short, expresses.orderly⟩
  intro nothing
  have nought := expresses.worth_eq
  subst nothing
  exact absurd (nought ▸ positive) (by decide)

theorem Expresses.append {front back : List Symbol} {quantity more : Nat}
    (expresses : Expresses front quantity) (expressesToo : Expresses back more)
    (descends : Descends front back) : Expresses (front ++ back) (quantity + more) where
  short := longRun?_append_of_descends descends expresses.short expressesToo.short
  orderly := badPair?_append_of_descends descends expresses.orderly expressesToo.orderly
  worth_eq := by
    rw [worth_append_of_descends descends, expresses.worth_eq, expressesToo.worth_eq]
  steady := by
    intro beginning begins
    rcases List.prefix_or_prefix_of_prefix begins (List.prefix_append front back) with
      inFront | ⟨reached, rfl⟩
    · exact Nat.le_add_right_of_le (expresses.steady beginning inFront)
    · rw [List.prefix_append_right_inj] at begins
      have atMost := expressesToo.steady reached begins
      rw [worth_append_of_descends (descends.of_prefix begins), expresses.worth_eq]
      omega

/-! ## Runs and pairs -/

theorem Walk.foldl_run (walk : Walk) (count : Nat) :
    (List.replicate count walk.last).foldl step walk =
      { walk with pending := walk.pending + count * walk.last.value } := by
  induction count generalizing walk with
  | zero => simp
  | succ count induction =>
      rw [List.replicate_succ, List.foldl_cons, step_last]
      refine (induction _).trans ?_
      rw [Nat.succ_mul]
      simp only [Nat.add_assoc, Nat.add_comm walk.last.value]

theorem worth_run (count : Nat) (symbol : Symbol) :
    worth (List.replicate count symbol) = count * symbol.value := by
  cases count with
  | zero => exact (Nat.zero_mul _).symm
  | succ count =>
      have run : (List.replicate count symbol).foldl Walk.step (Walk.start symbol) = _ :=
        (Walk.start symbol).foldl_run count
      rw [List.replicate_succ, worth, run, Nat.succ_mul]
      simp only [Walk.total, Walk.start]
      omega

theorem expresses_run (count : Nat) (few : count ≤ 3) (symbol : Symbol) :
    Expresses (List.replicate count symbol) (count * symbol.value) where
  short := by
    rw [longRun?_eq_none_iff]
    intro other window
    have long := window.length_le
    simp only [List.length_replicate] at long
    omega
  orderly := by
    rw [badPair?_eq_none_iff]
    intro earlier later pair ascends
    have same : ∀ other ∈ [earlier, later], other = symbol :=
      fun other member => List.eq_of_mem_replicate (pair.subset member)
    rw [same earlier (by simp), same later (by simp)] at ascends
    exact absurd ascends (Nat.lt_irrefl _)
  worth_eq := worth_run count symbol
  steady := by
    intro front begins
    rw [List.prefix_replicate_iff] at begins
    rw [begins.2, worth_run]
    exact Nat.mul_le_mul_right _ begins.1

theorem expresses_pair {lesser greater : Symbol} (may : mayPrecede lesser greater = true)
    (ascends : lesser.value < greater.value) :
    Expresses [lesser, greater] (greater.value - lesser.value) := by
  have taken : worth [lesser, greater] = greater.value - lesser.value := by
    rw [worth, List.foldl_cons, Walk.step_of_gt ascends]
    exact Nat.zero_add _
  have room := three_mul_value_lt may ascends
  refine ⟨rfl, badPair?_cons_cons.mpr ⟨may, rfl⟩, taken, ?_⟩
  intro front begins
  have first : worth [lesser] = lesser.value := Nat.zero_add _
  rcases List.prefix_cons_iff.mp begins with rfl | ⟨behind, rfl, further⟩
  · exact Nat.zero_le _
  · rcases List.prefix_cons_iff.mp further with rfl | ⟨nothing, rfl, ends⟩
    · omega
    · rw [List.prefix_nil.mp ends]
      exact Nat.le_of_eq taken

/-! ## Places -/

structure Place where
  one : Symbol
  five : Symbol
  ten : Symbol
  five_value : five.value = 5 * one.value := by rfl
  ten_value : ten.value = 10 * one.value := by rfl
  one_before_five : mayPrecede one five = true := by rfl
  one_before_ten : mayPrecede one ten = true := by rfl

namespace Place

def ones : Place where
  one := .I
  five := .V
  ten := .X

def tens : Place where
  one := .X
  five := .L
  ten := .C

def hundreds : Place where
  one := .C
  five := .D
  ten := .M

def write (place : Place) (digit : Nat) : List Symbol :=
  if digit < 4 then List.replicate digit place.one
  else if digit = 4 then [place.one, place.five]
  else if digit < 9 then place.five :: List.replicate (digit - 5) place.one
  else [place.one, place.ten]

section

variable (place : Place)

theorem one_lt_five : place.one.rank < place.five.rank := by
  have positive := place.one.value_pos
  have five := place.five_value
  rw [← Symbol.value_lt_value_iff]
  omega

theorem one_lt_ten : place.one.rank < place.ten.rank := by
  have positive := place.one.value_pos
  have ten := place.ten_value
  rw [← Symbol.value_lt_value_iff]
  omega

theorem expresses_write (digit : Nat) (isDigit : digit ≤ 9) :
    Expresses (place.write digit) (digit * place.one.value) := by
  have five := place.five_value
  have ten := place.ten_value
  have positive := place.one.value_pos
  unfold write
  split
  · exact expresses_run digit (by omega) place.one
  · split
    · subst digit
      have pair := expresses_pair place.one_before_five (by omega)
      have four : place.five.value - place.one.value = 4 * place.one.value := by omega
      rwa [four] at pair
    · split
      · have descends : Descends [place.five] (List.replicate (digit - 5) place.one) := by
          intro last isLast first isFirst
          cases isLast
          rw [List.eq_of_mem_replicate (List.mem_of_mem_head? isFirst)]
          exact place.one_lt_five
        have parts := (expresses_run 1 (by decide) place.five).append
          (expresses_run (digit - 5) (by omega) place.one) descends
        have sum : 1 * place.five.value + (digit - 5) * place.one.value =
            digit * place.one.value := by
          rw [five, Nat.one_mul, ← Nat.add_mul]
          congr 1
          omega
        rw [sum] at parts
        exact parts
      · have nine : digit = 9 := by omega
        subst nine
        have pair := expresses_pair place.one_before_ten (by omega)
        have rest : place.ten.value - place.one.value = 9 * place.one.value := by omega
        rwa [rest] at pair

theorem rank_le_of_mem_write {digit : Nat} {symbol : Symbol}
    (member : symbol ∈ place.write digit) : place.one.rank ≤ symbol.rank := by
  have symbols : symbol = place.one ∨ symbol = place.five ∨ symbol = place.ten := by
    grind [write]
  rcases symbols with rfl | rfl | rfl
  · exact Nat.le_refl _
  · exact Nat.le_of_lt place.one_lt_five
  · exact Nat.le_of_lt place.one_lt_ten

theorem rank_le_of_head?_write {digit : Nat} {first : Symbol}
    (isFirst : first ∈ (place.write digit).head?) : first.rank ≤ place.five.rank := by
  have symbols : first = place.one ∨ first = place.five := by
    grind [write]
  rcases symbols with rfl | rfl
  · exact Nat.le_of_lt place.one_lt_five
  · exact Nat.le_refl _

end

theorem descends_write {place lower : Place} (isLower : lower.five.rank < place.one.rank)
    (digit other : Nat) : Descends (place.write digit) (lower.write other) := by
  intro last isLast first isFirst
  have atLeast := place.rank_le_of_mem_write (List.mem_of_mem_getLast? isLast)
  have atMost := lower.rank_le_of_head?_write isFirst
  omega

end Place

/-! ## Nine hundreds -/

def nineHundreds (count : Nat) : List Symbol :=
  (List.replicate count [.C, .M]).flatten

theorem nineHundreds_succ (count : Nat) :
    nineHundreds (count + 1) = [.C, .M] ++ nineHundreds count := by
  rw [nineHundreds, List.replicate_succ, List.flatten_cons, nineHundreds]

theorem head?_nineHundreds {count : Nat} {first : Symbol}
    (isFirst : first ∈ (nineHundreds count).head?) : first = .C := by
  cases count with
  | zero => cases isFirst
  | succ count =>
      rw [nineHundreds_succ] at isFirst
      cases isFirst
      rfl

theorem getLast?_nineHundreds {count : Nat} {last : Symbol}
    (isLast : last ∈ (nineHundreds count).getLast?) : last = .M := by
  induction count with
  | zero => cases isLast
  | succ count induction =>
      rw [nineHundreds_succ, List.getLast?_append, Option.mem_def, Option.or_eq_some_iff] at isLast
      rcases isLast with later | ⟨_, here⟩
      · exact induction later
      · cases here
        rfl

theorem expresses_nineHundreds (count : Nat) : Expresses (nineHundreds count) (900 * count) := by
  induction count with
  | zero => exact expresses_run 0 (by decide) .C
  | succ count induction =>
      have descends : Descends [.C, .M] (nineHundreds count) := by
        intro last isLast first isFirst
        cases isLast
        rw [head?_nineHundreds isFirst]
        decide
      have one : Expresses [.C, .M] 900 := expresses_pair rfl (by decide)
      rw [nineHundreds_succ, Nat.mul_succ, Nat.add_comm]
      exact one.append induction descends

theorem descends_nineHundreds {place : Place} (isLower : place.five.rank < Symbol.M.rank)
    (count digit : Nat) : Descends (nineHundreds count) (place.write digit) := by
  intro last isLast first isFirst
  have atMost := place.rank_le_of_head?_write isFirst
  rw [getLast?_nineHundreds isLast]
  omega

/-! ## Quantities -/

def write (quantity : Nat) : List Symbol :=
  nineHundreds (quantity / 900) ++
    (Place.hundreds.write (quantity % 900 / 100) ++
      (Place.tens.write (quantity % 100 / 10) ++ Place.ones.write (quantity % 10)))

theorem expresses_write (quantity : Nat) : Expresses (write quantity) quantity := by
  have ones := Place.ones.expresses_write (quantity % 10) (by omega)
  have tens := (Place.tens.expresses_write (quantity % 100 / 10) (by omega)).append ones
    (Place.descends_write (by decide) _ _)
  have hundreds := (Place.hundreds.expresses_write (quantity % 900 / 100) (by omega)).append tens
    ((Place.descends_write (by decide) _ _).append (Place.descends_write (by decide) _ _))
  have all := (expresses_nineHundreds (quantity / 900)).append hundreds
    ((descends_nineHundreds (by decide) _ _).append
      ((descends_nineHundreds (by decide) _ _).append (descends_nineHundreds (by decide) _ _)))
  have sum : 900 * (quantity / 900) + (quantity % 900 / 100 * Place.hundreds.one.value +
      (quantity % 100 / 10 * Place.tens.one.value + quantity % 10 * Place.ones.one.value)) =
      quantity := by
    change 900 * (quantity / 900) + (quantity % 900 / 100 * 100 +
      (quantity % 100 / 10 * 10 + quantity % 10 * 1)) = quantity
    omega
  rw [sum] at all
  exact all

example : write 444 = [.C, .D, .X, .L, .I, .V] := by decide

theorem Expresses.exists_numeral {symbols : List Symbol} {quantity : Nat}
    (expresses : Expresses symbols quantity) (positive : 1 ≤ quantity) :
    ∃ text numeral, parse text = .ok numeral ∧ numeral.symbols = symbols ∧
      numeral.value = quantity ∧
      (quantity < 2 ^ 64 → wordWorth? numeral.symbols = some quantity) := by
  let numeral : Numeral := ⟨symbols, expresses.isWellFormed positive⟩
  refine ⟨numeral.name, numeral, parse_name numeral, rfl, expresses.worth_eq, ?_⟩
  intro isWord
  rw [← expresses.worth_eq]
  apply wordWorth?_of_beginnings
  intro front begins
  exact Nat.lt_of_le_of_lt (expresses.steady front begins) isWord

/-- What numerals are worth, where all sums are words of 64 bits, are the positive words. A numeral
can be written for every greater quantity too, but its worth is no word. No limit comes from the
rule that no symbol stands four times in a row: a hundred may be taken from a thousand as often as
one likes. -/
theorem every_quantity_has_a_numeral :
    (∀ quantity : Nat,
      (∃ text numeral, parse text = .ok numeral ∧
        wordWorth? numeral.symbols = some quantity) ↔ 1 ≤ quantity ∧ quantity < 2 ^ 64) ∧
    (∀ quantity : Nat, 1 ≤ quantity → ∃ text numeral, parse text = .ok numeral ∧
      numeral.value = quantity ∧
      (quantity < 2 ^ 64 → wordWorth? numeral.symbols = some quantity)) ∧
    ∀ count : Nat, 1 ≤ count → ∃ text numeral, parse text = .ok numeral ∧
      numeral.symbols = (List.replicate count [.C, .M]).flatten ∧
      numeral.value = 900 * count ∧
      (900 * count < 2 ^ 64 → wordWorth? numeral.symbols = some (900 * count)) := by
  refine ⟨?_, ?_, ?_⟩
  · intro quantity
    constructor
    · intro expressed
      rcases expressed with ⟨text, numeral, _, words⟩
      rcases worth_of_wordWorth? words with ⟨rfl, isWord⟩
      exact ⟨numeral.value_pos, isWord⟩
    · intro range
      rcases range with ⟨positive, isWord⟩
      rcases (expresses_write quantity).exists_numeral positive with
        ⟨text, numeral, read, _, _, words⟩
      exact ⟨text, numeral, read, words isWord⟩
  · intro quantity positive
    rcases (expresses_write quantity).exists_numeral positive with
      ⟨text, numeral, read, _, worth, words⟩
    exact ⟨text, numeral, read, worth, words⟩
  · intro count positive
    exact (expresses_nineHundreds count).exists_numeral (by omega)

/-- The greatest word of 64 bits has a numeral, and so has five times nine hundred. -/
theorem every_quantity_has_a_numeral_beyond_thousands :
    (∃ text numeral, parse text = .ok numeral ∧
      wordWorth? numeral.symbols = some (2 ^ 64 - 1)) ∧
    ∃ text numeral, parse text = .ok numeral ∧
      numeral.symbols = [.C, .M, .C, .M, .C, .M, .C, .M, .C, .M] ∧ numeral.value = 4500 ∧
      wordWorth? numeral.symbols = some 4500 := by
  constructor
  · exact (every_quantity_has_a_numeral.1 (2 ^ 64 - 1)).mpr (by decide)
  · rcases every_quantity_has_a_numeral.2.2 5 (by decide) with
      ⟨text, numeral, read, symbols, worth, words⟩
    exact ⟨text, numeral, read, symbols, worth, words (by decide)⟩

/-- The first number that is no word is positive, and no numeral is worth it. -/
theorem no_numeral_is_worth_more_than_words :
    ¬∀ quantity : Nat, 1 ≤ quantity → ∃ text numeral, parse text = .ok numeral ∧
      wordWorth? numeral.symbols = some quantity := by
  intro allExpressed
  rcases allExpressed (2 ^ 64) (by decide) with ⟨text, numeral, _, words⟩
  exact Nat.lt_irrefl _ (worth_of_wordWorth? words).2

end TradeSpeech.Numeral
