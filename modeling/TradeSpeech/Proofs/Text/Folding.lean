import Mathlib
import TradeSpeech.Proofs.Text.FoldingTable
import TradeSpeech.Proofs.Text.Letters

/-! # Simple case folding and upper-case spellings

Letters are compared in two ways. Keywords are compared by simple case folding, which
takes each letter to one letter, and names by their upper-case spellings, which may be
longer. The two agree on letters that are spelled with one letter, but for a dotless i and
five capitals that no small letter is spelled with. -/

namespace TradeSpeech.Text

/-! ## Tables of runs -/

def mapped (runs : List CaseRun) (code : Nat) : Nat :=
  (runs.findSome? fun run => run.spelling? code).getD code

namespace CaseRun

def members (run : CaseRun) : List Nat :=
  List.range' run.first ((run.last - run.first) / run.step + 1) run.step

theorem spelling?_eq_some_iff {run : CaseRun} {code spelled : Nat} :
    run.spelling? code = some spelled ↔
      (run.first ≤ code ∧ code ≤ run.last ∧ (code - run.first) % run.step = 0) ∧
        (code + run.distance).toNat = spelled := by
  simp [spelling?]

theorem mem_members_of_spelling? {run : CaseRun} {code spelled : Nat}
    (found : run.spelling? code = some spelled) : code ∈ run.members := by
  rcases spelling?_eq_some_iff.mp found with ⟨⟨above, below, onStep⟩, _⟩
  have place := Nat.div_add_mod (code - run.first) run.step
  refine List.mem_range'.mpr ⟨(code - run.first) / run.step, ?_, by omega⟩
  exact Nat.lt_succ_of_le (Nat.div_le_div_right (by omega))

def Precedes (earlier later : CaseRun) : Prop :=
  earlier.first ≤ earlier.last ∧ earlier.last < later.first

instance (earlier later : CaseRun) : Decidable (Precedes earlier later) :=
  inferInstanceAs (Decidable (_ ∧ _))

instance : IsTrans CaseRun Precedes where
  trans _ _ _ before after := ⟨before.1, by unfold Precedes at *; omega⟩

end CaseRun

theorem mapped_cases (runs : List CaseRun) (code : Nat) :
    mapped runs code = code ∨
      ∃ run ∈ runs, code ∈ run.members ∧ mapped runs code = (code + run.distance).toNat := by
  cases found : runs.findSome? fun run => run.spelling? code with
  | none =>
      left
      rw [mapped, found, Option.getD_none]
  | some spelled =>
      right
      rcases List.exists_of_findSome?_eq_some found with ⟨run, member, spells⟩
      refine ⟨run, member, CaseRun.mem_members_of_spelling? spells, ?_⟩
      rw [mapped, found, Option.getD_some, (CaseRun.spelling?_eq_some_iff.mp spells).2]

/-- Looks a code up in an ordered table by halves. A table can be checked for all its
members this way, where a search from the start would take too long. -/
def mappedByHalves (runs : List CaseRun) (code : Nat) : (depth : Nat) → Nat
  | 0 => mapped runs code
  | depth + 1 =>
    match runs.drop (runs.length / 2) with
    | [] => code
    | run :: _ =>
      bif Nat.blt code run.first then mappedByHalves (runs.take (runs.length / 2)) code depth
      else mappedByHalves (runs.drop (runs.length / 2)) code depth

theorem findSome?_spelling?_of_outside {runs : List CaseRun} {code : Nat}
    (outside : ∀ run ∈ runs, code < run.first ∨ run.last < code) :
    (runs.findSome? fun run => run.spelling? code) = none := by
  rw [List.findSome?_eq_none_iff]
  intro run member
  have apart := outside run member
  rw [CaseRun.spelling?, if_neg (by omega)]

theorem mapped_append_of_lt {front back : List CaseRun} {code : Nat}
    (below : ∀ run ∈ back, code < run.first) : mapped (front ++ back) code = mapped front code := by
  have none := findSome?_spelling?_of_outside fun run member => .inl (below run member)
  rw [mapped, List.findSome?_append, none, Option.or_none, mapped]

theorem mapped_append_of_gt {front back : List CaseRun} {code : Nat}
    (above : ∀ run ∈ front, run.last < code) : mapped (front ++ back) code = mapped back code := by
  have none := findSome?_spelling?_of_outside fun run member => .inr (above run member)
  rw [mapped, List.findSome?_append, none, Option.none_or, mapped]

theorem mappedByHalves_eq {runs : List CaseRun} (ordered : runs.Pairwise CaseRun.Precedes)
    (code depth : Nat) : mappedByHalves runs code depth = mapped runs code := by
  -- Each step goes on with one half, so that the table is general.
  induction depth generalizing runs with
  | zero => rfl
  | succ depth induction =>
      have parts := List.take_append_drop (runs.length / 2) runs
      have halves := ordered
      rw [← parts, List.pairwise_append] at halves
      rcases halves with ⟨inFront, inBack, across⟩
      rw [mappedByHalves]
      split
      · rename_i nothing
        rw [List.drop_eq_nil_iff] at nothing
        have empty : runs = [] := List.length_eq_zero_iff.mp (by omega)
        rw [empty]
        rfl
      · rename_i run later back
        rw [back, List.pairwise_cons] at inBack
        rw [back] at across parts
        cases side : Nat.blt code run.first with
        | true =>
            have before : code < run.first := Nat.blt_eq.mp side
            have below : ∀ other ∈ run :: later, code < other.first := by
              intro other member
              rcases List.mem_cons.mp member with rfl | member
              · exact before
              · have follows := inBack.1 other member
                unfold CaseRun.Precedes at follows
                omega
            rw [cond_true, induction inFront, ← mapped_append_of_lt below, parts]
        | false =>
            have notBefore : ¬code < run.first := by
              rw [← Nat.blt_eq, side]
              exact Bool.false_ne_true
            have above : ∀ other ∈ runs.take (runs.length / 2), other.last < code := by
              intro other member
              have precedes := across other member run List.mem_cons_self
              unfold CaseRun.Precedes at precedes
              omega
            rw [cond_false, back, induction (List.pairwise_cons.mpr inBack),
              ← mapped_append_of_gt above, parts]

/-! ## Folding and spelling single letters -/

def capitalRuns : List CaseRun :=
  ⟨0x61, 0x7A, 1, -32⟩ :: caseRuns

theorem foldingRuns_ordered : foldingRuns.Pairwise CaseRun.Precedes :=
  (by decide +kernel : foldingRuns.IsChain CaseRun.Precedes).pairwise

theorem capitalRuns_ordered : capitalRuns.Pairwise CaseRun.Precedes :=
  (by decide +kernel : capitalRuns.IsChain CaseRun.Precedes).pairwise

def folded (c : Char) : Char :=
  Char.ofNat (mapped foldingRuns c.toNat)

def capital (c : Char) : Char :=
  Char.ofNat (mapped capitalRuns c.toNat)

/-- Capitals that fold to a small letter whose own capital is another one: the capital
theta symbol, the capital sharp s, and the signs for ohm, kelvin and ångström. -/
def loneCapitals : List Char :=
  ['\u03f4', '\u1e9e', '\u2126', '\u212a', '\u212b']

def loneCodes : List Nat :=
  [0x03F4, 0x1E9E, 0x2126, 0x212A, 0x212B]

theorem toNat_mem_loneCodes {c : Char} : c.toNat ∈ loneCodes ↔ c ∈ loneCapitals := by
  have codes : loneCodes = loneCapitals.map Char.toNat := rfl
  rw [codes, List.mem_map_of_injective fun _ _ => Char.toNat_inj.mp]

theorem toNat_mapped {runs : List CaseRun}
    (valid : ∀ run ∈ runs, ∀ code ∈ run.members, (code + run.distance).toNat.isValidChar)
    (c : Char) : (Char.ofNat (mapped runs c.toNat)).toNat = mapped runs c.toNat := by
  rw [Char.toNat_ofNat, if_pos]
  rcases mapped_cases runs c.toNat with kept | ⟨run, member, among, taken⟩
  · rw [kept]
    exact c.valid
  · rw [taken]
    exact valid run member c.toNat among

theorem toNat_folded (c : Char) : (folded c).toNat = mapped foldingRuns c.toNat := by
  have valid : ∀ run ∈ foldingRuns, ∀ code ∈ run.members,
      (code + run.distance).toNat.isValidChar := by
    decide +kernel
  exact toNat_mapped valid c

theorem toNat_capital (c : Char) : (capital c).toNat = mapped capitalRuns c.toNat := by
  have valid : ∀ run ∈ capitalRuns, ∀ code ∈ run.members,
      (code + run.distance).toNat.isValidChar := by
    decide +kernel
  exact toNat_mapped valid c

/-- A capital folds to the same letter as its small letter. The capital of the dotless i
is an `I`, which folds to an i with a dot. -/
theorem folded_capital {c : Char} (dotted : c ≠ 'ı') : folded (capital c) = folded c := by
  have table : ∀ run ∈ capitalRuns, ∀ code ∈ run.members,
      mappedByHalves foldingRuns (code + run.distance).toNat 7 =
          mappedByHalves foldingRuns code 7 ∨ code = 0x131 := by
    decide +kernel
  simp only [mappedByHalves_eq foldingRuns_ordered] at table
  rw [← Char.toNat_inj, toNat_folded, toNat_folded, toNat_capital]
  rcases mapped_cases capitalRuns c.toNat with kept | ⟨run, member, among, taken⟩
  · rw [kept]
  · rw [taken]
    rcases table run member c.toNat among with same | dotless
    · exact same
    · exact absurd (Char.toNat_inj.mp dotless) dotted

theorem capital_folded {c : Char} (short : longSpellings.lookup c.toNat = none)
    (paired : c ∉ loneCapitals) : capital (folded c) = capital c := by
  have table : ∀ run ∈ foldingRuns, ∀ code ∈ run.members,
      mappedByHalves capitalRuns (code + run.distance).toNat 7 =
          mappedByHalves capitalRuns code 7 ∨
        code ∈ loneCodes ∨ longSpellings.lookup code ≠ none := by
    decide +kernel
  simp only [mappedByHalves_eq capitalRuns_ordered] at table
  rw [← Char.toNat_inj, toNat_capital, toNat_capital, toNat_folded]
  rcases mapped_cases foldingRuns c.toNat with kept | ⟨run, member, among, taken⟩
  · rw [kept]
  · rw [taken]
    rcases table run member c.toNat among with same | lone | long
    · exact same
    · exact absurd (toNat_mem_loneCodes.mp lone) paired
    · exact absurd short long

theorem capital_of_lone {c : Char} (lone : c ∈ loneCapitals) : capital c = c := by
  have table : ∀ code ∈ loneCodes, mapped capitalRuns code = code := by decide +kernel
  rw [← Char.toNat_inj, toNat_capital, table c.toNat (toNat_mem_loneCodes.mpr lone)]

theorem lone_of_capital {c : Char} (lone : capital c ∈ loneCapitals) : c ∈ loneCapitals := by
  have table : ∀ run ∈ capitalRuns, ∀ code ∈ run.members,
      (code + run.distance).toNat ∉ loneCodes := by
    decide +kernel
  rcases mapped_cases capitalRuns c.toNat with kept | ⟨run, member, among, taken⟩
  · have same : capital c = c := Char.toNat_inj.mp ((toNat_capital c).trans kept)
    rw [← same]
    exact lone
  · rw [← toNat_mem_loneCodes, toNat_capital, taken] at lone
    exact absurd lone (table run member c.toNat among)

theorem forall_ascii (p : Char → Prop) (table : ∀ code < 0x80, p (Char.ofNat code)) {c : Char}
    (ascii : c.toNat < 0x80) : p c := by
  have here := table c.toNat ascii
  rw [Char.ofNat_toNat] at here
  exact here

/-! ## Letters of keywords -/

theorem sameLetter_iff_folded {letter : Char} (small : 97 ≤ letter.toNat ∧ letter.toNat ≤ 122)
    (c : Char) : sameLetter letter c = true ↔ folded c = letter := by
  rw [sameLetter, beq_iff_eq]
  by_cases ascii : c.toNat < 0x80
  · have table : ∀ code < 0x80, keywordForm (Char.ofNat code) = folded (Char.ofNat code) := by
      decide +kernel
    rw [forall_ascii (fun c => keywordForm c = folded c) table ascii]
  · by_cases foreign : c = '\u017f' ∨ c = '\u212a'
    · rcases foreign with rfl | rfl
      · rw [show folded '\u017f' = keywordForm '\u017f' by decide +kernel]
      · rw [show folded '\u212a' = keywordForm '\u212a' by decide +kernel]
    · rcases not_or.mp foreign with ⟨notLongS, notKelvin⟩
      have table : ∀ run ∈ foldingRuns, ∀ code ∈ run.members, ¬code < 0x80 →
          122 < (code + run.distance).toNat ∨ code = 0x17F ∨ code = 0x212A := by
        decide +kernel
      have beyond : 122 < (folded c).toNat := by
        rw [toNat_folded]
        rcases mapped_cases foldingRuns c.toNat with kept | ⟨run, member, among, taken⟩
        · omega
        · rw [taken]
          rcases table run member c.toNat among ascii with far | longS | kelvin
          · exact far
          · exact absurd (Char.toNat_inj.mp longS) notLongS
          · exact absurd (Char.toNat_inj.mp kelvin) notKelvin
      have kept : keywordForm c = c := by
        rw [keywordForm, if_neg notLongS, if_neg notKelvin, ← Char.toNat_inj, toNat_toLower,
          if_neg (by omega)]
      have notKept : c ≠ letter := by
        intro same
        rw [same] at ascii
        omega
      have notFolded : folded c ≠ letter := by
        intro same
        rw [same] at beyond
        omega
      rw [kept]
      exact iff_of_false notKept notFolded

end TradeSpeech.Text
