import Mathlib.Data.List.SplitBy
import TradeSpeech.Proofs.Numeral.Range

/-! # Descents

Where symbols descend a walk settles what it holds and begins anew. So the worth of symbols is
the sum of what the blocks between their descents are worth, and whether symbols are a numeral
is settled within the blocks. -/

namespace TradeSpeech.Numeral

/-- The last symbol in front outranks the first one behind, if there are symbols on both sides. -/
def Descends (front back : List Symbol) : Prop :=
  ∀ last ∈ front.getLast?, ∀ first ∈ back.head?, first.rank < last.rank

section

variable {front back others : List Symbol}

theorem Descends.of_prefix (descends : Descends front back) (begins : others <+: back) :
    Descends front others := by
  rcases begins with ⟨rest, rfl⟩
  intro last isLast first isFirst
  exact descends last isLast first (List.mem_head?_append_of_mem_head? isFirst)

theorem Descends.append_of_ne_nil (descends : Descends front back) (some : back ≠ []) :
    Descends front (back ++ others) := by
  intro last isLast first isFirst
  rw [List.head?_append_of_ne_nil _ some] at isFirst
  exact descends last isLast first isFirst

theorem Descends.append (descends : Descends front back) (descendsToo : Descends front others) :
    Descends front (back ++ others) := by
  intro last isLast first isFirst
  rw [List.head?_append, Option.mem_def, Option.or_eq_some_iff] at isFirst
  rcases isFirst with isFirst | ⟨_, isFirst⟩
  · exact descends last isLast first isFirst
  · exact descendsToo last isLast first isFirst

end

/-! ## What a walk does at a descent -/

def Walk.ahead (walk : Walk) (more : Nat) : Walk :=
  { walk with settled := more + walk.settled }

theorem Walk.step_ahead (walk : Walk) (more : Nat) (current : Symbol) :
    (walk.ahead more).step current = (walk.step current).ahead more := by
  unfold step ahead
  split
  · rfl
  · split
    · simp [Nat.add_assoc]
    · rfl

theorem Walk.total_foldl_ahead (walk : Walk) (more : Nat) (rest : List Symbol) :
    (rest.foldl step (walk.ahead more)).total = more + (rest.foldl step walk).total := by
  induction rest generalizing walk with
  | nil => exact Nat.add_assoc more walk.settled walk.pending
  | cons current rest induction => rw [List.foldl_cons, List.foldl_cons, step_ahead, induction]

theorem Walk.step_of_descent {walk : Walk} {current : Symbol}
    (descends : current.rank < walk.last.rank) :
    walk.step current = (start current).ahead walk.total := by
  rw [step_of_lt ((Symbol.value_lt_value_iff current walk.last).mpr descends)]
  rfl

theorem Walk.getLast?_foldl (walk : Walk) (seen : List Symbol) :
    (walk.last :: seen).getLast? = some (seen.foldl step walk).last := by
  induction seen generalizing walk with
  | nil => rfl
  | cons current seen induction =>
      rw [List.getLast?_cons_cons, List.foldl_cons, ← induction, last_step]

theorem worth_append_of_descends {front back : List Symbol} (descends : Descends front back) :
    worth (front ++ back) = worth front + worth back := by
  cases front with
  | nil => exact (Nat.zero_add _).symm
  | cons first seen =>
      cases back with
      | nil => rw [List.append_nil, worth, Nat.add_zero]
      | cons current behind =>
          have last : (first :: seen).getLast? = some (Walk.past first seen).last :=
            (Walk.start first).getLast?_foldl seen
          have outranked := descends _ last current rfl
          rw [worth_append, List.foldl_cons, Walk.step_of_descent outranked,
            Walk.total_foldl_ahead]
          rfl

/-! ## Blocks -/

structure BlocksOf (symbols : List Symbol) (blocks : List (List Symbol)) : Prop where
  nonempty : [] ∉ blocks
  ascending : ∀ block ∈ blocks, block.IsChain fun earlier later => earlier.rank ≤ later.rank
  descending : blocks.IsChain Descends
  joined : symbols = blocks.flatten

theorem blocksOf_iff {symbols : List Symbol} {blocks : List (List Symbol)} :
    BlocksOf symbols blocks ↔
      symbols.splitBy (fun earlier later => earlier.rank ≤ later.rank) = blocks := by
  have seam : ∀ front back : List Symbol, front ≠ [] → back ≠ [] →
      (Descends front back ↔ ∃ (some : front ≠ []) (others : back ≠ []),
        decide ((front.getLast some).rank ≤ (back.head others).rank) = false) := by
    intro front back some others
    simp [Descends, List.getLast?_eq_some_getLast some, List.head?_eq_some_head others, some,
      others]
  rw [List.splitBy_eq_iff]
  simp only [decide_eq_true_eq]
  constructor
  · intro divides
    refine ⟨divides.joined, divides.nonempty, divides.ascending, ?_⟩
    apply divides.descending.imp_of_mem_imp
    intro front back member otherMember
    exact (seam front back (ne_of_mem_of_not_mem member divides.nonempty)
      (ne_of_mem_of_not_mem otherMember divides.nonempty)).mp
  · intro parts
    rcases parts with ⟨joined, nonempty, ascending, descending⟩
    refine ⟨nonempty, ascending, ?_, joined⟩
    apply descending.imp
    intro front back apart
    exact (seam front back apart.1 apart.2.1).mpr apart

theorem worth_flatten {blocks : List (List Symbol)} (nonempty : [] ∉ blocks)
    (descending : blocks.IsChain Descends) :
    worth blocks.flatten = (blocks.map worth).sum := by
  induction blocks with
  | nil => rfl
  | cons block blocks induction =>
      rw [List.mem_cons, not_or] at nonempty
      have seam : Descends block blocks.flatten := by
        cases blocks with
        | nil => simp [Descends]
        | cons next blocks =>
            have some : next ≠ [] := ne_of_mem_of_not_mem List.mem_cons_self nonempty.2
            exact (List.isChain_cons_cons.mp descending).1.append_of_ne_nil some
      rw [List.flatten_cons, worth_append_of_descends seam, List.map_cons, List.sum_cons,
        induction nonempty.2 descending.tail]

/-- The worth of symbols that descend from one part to the other is the sum of what the parts are
worth. Any symbols divide in one way into blocks that do not descend, and are worth what their
blocks are worth together. They need not be a numeral. -/
theorem worth_adds_up_at_descents :
    (∀ (front back : List Symbol) (last first : Symbol),
      front.getLast? = some last → back.head? = some first → first.rank < last.rank →
      worth (front ++ back) = worth front + worth back) ∧
    ∀ symbols : List Symbol, ∃ blocks, (∀ others, BlocksOf symbols others ↔ others = blocks) ∧
      worth symbols = (blocks.map worth).sum := by
  constructor
  · intro front back last first isLast isFirst outranked
    apply worth_append_of_descends
    intro other otherLast another otherFirst
    cases isLast.symm.trans otherLast
    cases isFirst.symm.trans otherFirst
    exact outranked
  · intro symbols
    have divides : BlocksOf symbols (symbols.splitBy _) := blocksOf_iff.mpr rfl
    refine ⟨_, fun others => blocksOf_iff.trans eq_comm, ?_⟩
    rw [← worth_flatten divides.nonempty divides.descending, ← divides.joined]

/-- Neither part is a numeral: the six ones use the five up, and the one is no way to begin a
fifty. -/
theorem worth_adds_up_at_descents_in_no_numeral :
    ¬IsWellFormed [.I, .I, .I, .I, .I, .I, .V] ∧ ¬IsWellFormed [.I, .L] ∧
      [Symbol.I, .I, .I, .I, .I, .I, .V].getLast? = some .V ∧
      [Symbol.I, .L].head? = some .I ∧ Symbol.I.rank < Symbol.V.rank ∧
      worth ([.I, .I, .I, .I, .I, .I, .V] ++ [.I, .L]) =
        worth [.I, .I, .I, .I, .I, .I, .V] + worth [.I, .L] :=
  ⟨by decide, by decide, rfl, rfl, by decide,
    worth_adds_up_at_descents.1 _ _ .V .I rfl rfl (by decide)⟩

/-! ## The grammar at a descent -/

/-- What stands within two rows one after the other stands within one of them, or reaches from
the end of the first to the beginning of the second. -/
theorem exists_seam_of_infix {window front back : List α} (within : window <:+: front ++ back) :
    window <:+: front ∨ window <:+: back ∨
      ∃ last ∈ front.getLast?, ∃ first ∈ back.head?, [last, first] <:+: window := by
  rcases List.infix_append_iff.mp within with inFront | inBack | ⟨left, right, rfl, ends, begins⟩
  · exact .inl inFront
  · exact .inr (.inl inBack)
  · rcases List.eq_nil_or_concat left with rfl | ⟨earlier, last, rfl⟩
    · exact .inr (.inl begins.isInfix)
    · cases right with
      | nil =>
          rw [List.append_nil]
          exact .inl ends.isInfix
      | cons first later =>
          rcases ends with ⟨front, rfl⟩
          rcases begins with ⟨back, rfl⟩
          exact .inr (.inr ⟨last, by simp, first, by simp, earlier, later, by simp⟩)

section

variable {front back : List Symbol}

theorem longRun?_append_of_descends (descends : Descends front back)
    (short : longRun? front = none) (shortToo : longRun? back = none) :
    longRun? (front ++ back) = none := by
  rw [longRun?_eq_none_iff] at short shortToo ⊢
  intro symbol within
  rcases exists_seam_of_infix within with
    inFront | inBack | ⟨last, isLast, first, isFirst, neighbours⟩
  · exact short symbol inFront
  · exact shortToo symbol inBack
  · -- A run reaches over no descent.
    have same : ∀ other ∈ [last, first], other = symbol :=
      fun other member => List.eq_of_mem_replicate (neighbours.subset member)
    have outranked := descends last isLast first isFirst
    rw [same last (by simp), same first (by simp)] at outranked
    exact Nat.lt_irrefl _ outranked

theorem badPair?_append_of_descends (descends : Descends front back)
    (orderly : badPair? front = none) (orderlyToo : badPair? back = none) :
    badPair? (front ++ back) = none := by
  rw [badPair?_eq_none_iff] at orderly orderlyToo ⊢
  intro earlier later within
  rcases exists_seam_of_infix within with
    inFront | inBack | ⟨last, isLast, first, isFirst, neighbours⟩
  · exact orderly earlier later inFront
  · exact orderlyToo earlier later inBack
  · -- Any symbol may stand before one that it outranks.
    cases neighbours.eq_of_length rfl
    intro ascends
    exact absurd ascends (Nat.lt_asymm (descends _ isLast _ isFirst))

end

end TradeSpeech.Numeral
