import TradeSpeech.Proofs.Text.Case
import TradeSpeech.Proofs.Text.Folding

/-! # Names that are alike

Names are compared by their upper-case spellings. Letter for letter this is simple case
folding, once the letters that have several capitals are written out, but for the lone
capitals. -/

namespace TradeSpeech.Text

/-- Letters that names do not tell apart: they fold to the same letter, and a lone capital
is only like itself. -/
def LettersAlike (c d : Char) : Prop :=
  folded c = folded d ∧ (c ∈ loneCapitals ∨ d ∈ loneCapitals → c = d)

instance (c d : Char) : Decidable (LettersAlike c d) :=
  inferInstanceAs (Decidable (_ ∧ _))

def IsSimple (c : Char) : Prop :=
  longSpellings.lookup c.toNat = none ∧ c ≠ 'ı'

theorem capital_eq_iff {c d : Char} (simpleLeft : IsSimple c) (simpleRight : IsSimple d) :
    capital c = capital d ↔ LettersAlike c d := by
  constructor
  · intro same
    refine ⟨?_, ?_⟩
    · rw [← folded_capital simpleLeft.2, same, folded_capital simpleRight.2]
    · intro lone
      rcases lone with lone | lone
      · have own := capital_of_lone lone
        have other : d ∈ loneCapitals := by
          apply lone_of_capital
          rw [← same, own]
          exact lone
        rw [← own, same, capital_of_lone other]
      · have own := capital_of_lone lone
        have other : c ∈ loneCapitals := by
          apply lone_of_capital
          rw [same, own]
          exact lone
        rw [← own, ← same, capital_of_lone other]
  · intro same
    by_cases lone : c ∈ loneCapitals ∨ d ∈ loneCapitals
    · rw [same.2 lone]
    · rcases not_or.mp lone with ⟨pairedLeft, pairedRight⟩
      rw [← capital_folded simpleLeft.1 pairedLeft, same.1,
        capital_folded simpleRight.1 pairedRight]

/-- A letter written out: several capitals for a letter that is spelled with them, and
an i for an i without its dot. -/
def writtenOutLetter (c : Char) : List Char :=
  match longSpellings.lookup c.toNat with
  | some codes => codes.map Char.ofNat
  | none => if c = 'ı' then ['i'] else [c]

def writtenOut (text : String) : List Char :=
  text.toList.flatMap writtenOutLetter

def NamesAlike (left right : String) : Prop :=
  List.Forall₂ LettersAlike (writtenOut left) (writtenOut right)

instance (left right : String) : Decidable (NamesAlike left right) :=
  inferInstanceAs (Decidable (List.Forall₂ _ _ _))

example : NamesAlike "Straße" "STRASSE" ∧ NamesAlike "ſilver" "Silver" ∧
    ¬NamesAlike "\u212aelvin" "kelvin" := by
  decide +kernel

theorem upperSpelling_of_short {c : Char} (short : longSpellings.lookup c.toNat = none) :
    upperSpelling c = [capital c] := by
  by_cases ascii : c.toNat < 0x80
  · have table : ∀ code < 0x80, upperSpelling (Char.ofNat code) = [capital (Char.ofNat code)] := by
      decide +kernel
    exact forall_ascii (fun c => upperSpelling c = [capital c]) table ascii
  · -- The runs begin with the letters of ASCII, which this letter is not one of.
    have beyond : (⟨0x61, 0x7A, 1, -32⟩ : CaseRun).spelling? c.toNat = none := by
      refine if_neg fun inside => ?_
      have below : c.toNat ≤ 0x7A := inside.2.1
      omega
    rw [upperSpelling, if_neg ascii, short, capital, mapped, capitalRuns, List.findSome?_cons,
      beyond]
    cases caseRuns.findSome? fun run => run.spelling? c.toNat with
    | none => rw [Option.getD_none, Char.ofNat_toNat]
    | some code => rw [Option.getD_some]

theorem mem_of_lookup [BEq α] [LawfulBEq α] {table : List (α × β)} {key : α} {value : β}
    (found : table.lookup key = some value) : (key, value) ∈ table := by
  rcases List.lookup_eq_some_iff.mp found with ⟨front, back, parts, _⟩
  simp [parts]

theorem upperSpelling_eq_map_capital (c : Char) :
    upperSpelling c = (writtenOutLetter c).map capital := by
  cases spelled : longSpellings.lookup c.toNat with
  | none =>
      rw [upperSpelling_of_short spelled, writtenOutLetter, spelled]
      by_cases dotless : c = 'ı'
      · rw [if_pos dotless, dotless]
        decide +kernel
      · rw [if_neg dotless, List.map_singleton]
  | some codes =>
      have table : ∀ entry ∈ longSpellings, ¬entry.1 < 0x80 ∧ ∀ code ∈ entry.2,
          code.isValidChar ∧ mappedByHalves capitalRuns code 7 = code := by
        decide +kernel
      simp only [mappedByHalves_eq capitalRuns_ordered] at table
      rcases table _ (mem_of_lookup spelled) with ⟨beyond, capitals⟩
      rw [upperSpelling, if_neg beyond, writtenOutLetter, spelled, List.map_map]
      apply List.map_congr_left
      intro code member
      rw [Function.comp_apply, capital, Char.toNat_ofNat, if_pos (capitals code member).1,
        (capitals code member).2]

theorem isSimple_of_mem_writtenOut {text : String} {c : Char} (member : c ∈ writtenOut text) :
    IsSimple c := by
  rw [writtenOut, List.mem_flatMap] at member
  rcases member with ⟨letter, _, member⟩
  rw [writtenOutLetter] at member
  cases spelled : longSpellings.lookup letter.toNat with
  | none =>
      rw [spelled] at member
      by_cases dotless : letter = 'ı'
      · rw [if_pos dotless, List.mem_singleton] at member
        rw [member]
        exact ⟨by decide +kernel, by decide⟩
      · rw [if_neg dotless, List.mem_singleton] at member
        rw [member]
        exact ⟨spelled, dotless⟩
  | some codes =>
      have table : ∀ entry ∈ longSpellings, ∀ code ∈ entry.2, code.isValidChar ∧
          longSpellings.lookup code = none ∧ code ≠ 0x131 := by
        decide +kernel
      rw [spelled] at member
      rcases List.mem_map.mp member with ⟨code, among, same⟩
      rcases table _ (mem_of_lookup spelled) code among with ⟨valid, short, dotted⟩
      have number : c.toNat = code := by
        rw [← same, Char.toNat_ofNat, if_pos valid]
      refine ⟨?_, ?_⟩
      · rw [number]
        exact short
      · intro dotless
        rw [← number, dotless] at dotted
        exact dotted rfl

theorem forall₂_congr_of_forall {p : α → Prop} {R S : α → α → Prop}
    (agree : ∀ x y, p x → p y → (R x y ↔ S x y)) {left right : List α}
    (onLeft : ∀ x ∈ left, p x) (onRight : ∀ y ∈ right, p y) :
    List.Forall₂ R left right ↔ List.Forall₂ S left right := by
  rw [List.forall₂_iff_zip, List.forall₂_iff_zip]
  apply and_congr_right
  intro _
  constructor
  · intro related x y place
    rcases List.of_mem_zip place with ⟨inLeft, inRight⟩
    exact (agree x y (onLeft x inLeft) (onRight y inRight)).mp (related place)
  · intro related x y place
    rcases List.of_mem_zip place with ⟨inLeft, inRight⟩
    exact (agree x y (onLeft x inLeft) (onRight y inRight)).mpr (related place)

theorem upperCase_eq_iff {left right : String} :
    upperCase left = upperCase right ↔ NamesAlike left right := by
  have spelled : ∀ text : String,
      text.toList.flatMap upperSpelling = (writtenOut text).map capital := by
    intro text
    rw [writtenOut, List.map_flatMap]
    exact congrArg (text.toList.flatMap ·) (funext upperSpelling_eq_map_capital)
  rw [upperCase, upperCase, String.ofList_inj, spelled, spelled, ← forall₂_eq_iff_map_eq_map,
    NamesAlike]
  exact forall₂_congr_of_forall (fun _ _ => capital_eq_iff)
    (fun _ => isSimple_of_mem_writtenOut) fun _ => isSimple_of_mem_writtenOut

end TradeSpeech.Text
