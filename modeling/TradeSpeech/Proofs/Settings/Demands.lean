import Mathlib
import TradeSpeech.Proofs.Settings.Seeding
import TradeSpeech.Proofs.Text.Letters

/-! # What is asked of settings

Each demand is made of one value, and the demands have an order: the separator comes
first, then the aliases by name, then the prices by name. Settings that meet every demand
are accepted, and of all others the first demand that they fail is named. -/

namespace TradeSpeech

def Symbol.IsToken (token : String) : Prop :=
  ∃ letter ∈ Sentence.symbolLetters, token.toList = [letter]

theorem Symbol.isToken_iff {token : String} :
    IsToken token ↔ ∃ symbol, ofToken? token = some symbol := by
  simp only [IsToken, ofToken?, ← Sentence.isSymbolLetter_iff, Sentence.isSymbolLetter,
    Option.isSome_iff_exists]
  constructor
  · intro written
    rcases written with ⟨letter, ⟨symbol, writes⟩, letters⟩
    rw [letters]
    exact ⟨symbol, writes⟩
  · intro read
    rcases read with ⟨symbol, stands⟩
    split at stands
    · rename_i letter letters
      exact ⟨letter, ⟨symbol, stands⟩, letters⟩
    · cases stands

inductive Demand
  | separator (text : String)
  | word (name : String)
  | token (name text : String)
  | item (name : String)
  | price (name : String) (amount : Float)

namespace Demand

def IsMet : Demand → Prop
  | separator text => text ≠ ""
  | word name => name ≠ "" ∧ ∀ c ∈ name.toList, Text.isLetter c = true
  | token _ text => Symbol.IsToken text
  | item name => (Text.words name).length = 1
  | price _ amount => amount.isFinite = true ∧ ¬amount < 0

def refusal : Demand → Error
  | separator text => .invalidValue "output.separator" text "Value cannot be empty"
  | word name =>
    .invalidValue ("aliases." ++ name) name "Must be a single word of ASCII letters"
  | token name text =>
    .invalidValue ("aliases." ++ name) text "Must be exactly one of I, V, X, L, C, D, M"
  | item name => .invalidValue ("prices." ++ name) name "Item names must be a single word"
  | price name amount =>
    .invalidValue ("prices." ++ name) (Decimal.text amount)
      "Price must be a finite, non-negative number"

/-- The place of a demand among all demands: the part of the settings, the name that the
value stands under, and what is asked of the name before what is asked of the value. -/
def place : Demand → Nat ×ₗ String ×ₗ Nat
  | separator _ => toLex (0, toLex ("", 0))
  | word name => toLex (1, toLex (name, 0))
  | token name _ => toLex (1, toLex (name, 1))
  | item name => toLex (2, toLex (name, 0))
  | price name _ => toLex (2, toLex (name, 1))

def IsMadeOf (settings : Settings) : Demand → Prop
  | separator text => settings.separator = text
  | word name => name ∈ settings.aliases
  | token name text => settings.aliases[name]? = some text
  | item name => name ∈ settings.prices
  | price name amount => settings.prices[name]? = some amount

structure IsFirstFailed (settings : Settings) (demand : Demand) : Prop where
  made : demand.IsMadeOf settings
  failed : ¬demand.IsMet
  first : ∀ other : Demand, other.IsMadeOf settings → other.place < demand.place → other.IsMet

def check : Demand → Except Error Unit
  | separator text => Check.nonEmpty "output.separator" text
  | word name => Check.singleWord (Settings.aliasField name) name
  | token name text => (Check.singleSymbol (Settings.aliasField name) text).map fun _ => ()
  | item name => Check.itemName (Settings.priceField name) name
  | price name amount => Check.unitPrice (Settings.priceField name) amount

theorem check_eq_ok_iff {demand : Demand} : demand.check = .ok () ↔ demand.IsMet := by
  cases demand with
  | separator text => exact Check.nonEmpty_eq_ok_iff
  | word name => exact Check.singleWord_eq_ok_iff
  | token name text => exact Check.symbol_eq_ok_iff.trans Symbol.isToken_iff.symm
  | item name => exact Check.itemName_eq_ok_iff
  | price name amount => exact Check.unitPrice_eq_ok_iff

theorem check_of_error {demand : Demand} {error : Error} (failed : demand.check = .error error) :
    error = demand.refusal := by
  cases demand with
  | separator text =>
      rw [check, Check.nonEmpty] at failed
      split at failed <;> cases failed
      rfl
  | word name =>
      rw [check, Check.singleWord] at failed
      split at failed <;> cases failed
      rfl
  | token name text =>
      rw [check, Check.singleSymbol] at failed
      split at failed <;> cases failed
      rfl
  | item name =>
      rw [check, Check.itemName] at failed
      split at failed <;> cases failed
      rfl
  | price name amount =>
      rw [check, Check.unitPrice] at failed
      split at failed <;> cases failed
      rfl

theorem check_eq_error_iff {demand : Demand} {error : Error} :
    demand.check = .error error ↔ ¬demand.IsMet ∧ error = demand.refusal := by
  rw [← check_eq_ok_iff]
  constructor
  · intro failed
    refine ⟨?_, check_of_error failed⟩
    intro passed
    cases failed.symm.trans passed
  · intro refused
    rcases refused with ⟨failed, rfl⟩
    cases found : demand.check with
    | ok => exact absurd found failed
    | error error => rw [check_of_error found]

end Demand

/-! ## The order of the checks -/

theorem exists_parts_iff [LinearOrder γ] {key : β → γ} {values : List β}
    (ordered : values.Pairwise fun earlier later => key earlier < key later) {value : β}
    {holds : β → Prop} :
    (∃ front rest, values = front ++ value :: rest ∧ ∀ other ∈ front, holds other) ↔
      value ∈ values ∧ ∀ other ∈ values, key other < key value → holds other := by
  constructor
  · intro parts
    rcases parts with ⟨front, rest, rfl, holdsInFront⟩
    rw [List.pairwise_append, List.pairwise_cons] at ordered
    refine ⟨List.mem_append_right _ List.mem_cons_self, ?_⟩
    intro other member before
    rw [List.mem_append, List.mem_cons] at member
    rcases member with earlier | rfl | later
    · exact holdsInFront other earlier
    · exact absurd before (lt_irrefl _)
    · exact absurd before (lt_asymm (ordered.2.1.1 other later))
  · intro first
    rcases first with ⟨member, holdsBefore⟩
    rcases List.append_of_mem member with ⟨front, rest, rfl⟩
    rw [List.pairwise_append] at ordered
    refine ⟨front, rest, rfl, ?_⟩
    intro other earlier
    exact holdsBefore other (List.mem_append_left _ earlier)
      (ordered.2.2 other earlier value List.mem_cons_self)

theorem exists_parts_cons_iff {first value : β} {values : List β} {holds : β → Prop} :
    (∃ front rest, first :: values = front ++ value :: rest ∧ ∀ other ∈ front, holds other) ↔
      first = value ∨ holds first ∧
        ∃ front rest, values = front ++ value :: rest ∧ ∀ other ∈ front, holds other := by
  constructor
  · intro parted
    rcases parted with ⟨front, rest, parts, holdsInFront⟩
    cases front with
    | nil =>
        cases parts
        exact .inl rfl
    | cons head front =>
        cases parts
        rcases List.forall_mem_cons.mp holdsInFront with ⟨holdsFirst, holdsLater⟩
        exact .inr ⟨holdsFirst, front, rest, rfl, holdsLater⟩
  · intro parted
    rcases parted with rfl | ⟨holdsFirst, front, rest, rfl, holdsInFront⟩
    · exact ⟨[], values, rfl, by simp⟩
    · exact ⟨first :: front, rest, rfl, List.forall_mem_cons.mpr ⟨holdsFirst, holdsInFront⟩⟩

theorem Check.first_eq_error_iff {checks : List (Except Error Unit)} {error : Error} :
    first checks = .error error ↔
      ∃ front rest, checks = front ++ .error error :: rest ∧ ∀ check ∈ front, check = .ok () := by
  induction checks with
  | nil => simp [first]
  | cons check checks induction =>
      rw [exists_parts_cons_iff]
      cases check with
      | error other => simp [first]
      | ok => simp [first, induction]

namespace Settings

def demands (settings : Settings) : List Demand :=
  .separator settings.separator ::
    (settings.aliases.toList.flatMap (fun (name, text) => [.word name, .token name text]) ++
      settings.prices.toList.flatMap fun (name, amount) => [.item name, .price name amount])

theorem checks_eq (settings : Settings) : settings.checks = settings.demands.map Demand.check := by
  simp [checks, demands, Demand.check, List.map_flatMap]

variable {settings : Settings}

theorem exists_mem_toList_iff {entries : Std.ExtTreeMap String β} {name : String} :
    (∃ value, (name, value) ∈ entries.toList) ↔ name ∈ entries := by
  simp only [Std.ExtTreeMap.mem_toList_iff_getElem?_eq_some, ← Option.isSome_iff_exists,
    Std.ExtTreeMap.mem_iff_isSome_getElem?]

theorem mem_demands_iff {demand : Demand} :
    demand ∈ settings.demands ↔ demand.IsMadeOf settings := by
  cases demand with
  | separator text => simp [demands, Demand.IsMadeOf, eq_comm]
  | word name => simp [demands, Demand.IsMadeOf, ← exists_mem_toList_iff]
  | token name text =>
      rw [Demand.IsMadeOf, ← Std.ExtTreeMap.mem_toList_iff_getElem?_eq_some]
      simp [demands]
  | item name => simp [demands, Demand.IsMadeOf, ← exists_mem_toList_iff]
  | price name amount =>
      rw [Demand.IsMadeOf, ← Std.ExtTreeMap.mem_toList_iff_getElem?_eq_some]
      simp [demands]

theorem pairwise_place_demands (settings : Settings) :
    settings.demands.Pairwise fun earlier later => earlier.place < later.place := by
  have aliases : settings.aliases.toList.Pairwise fun earlier later => earlier.1 < later.1 := by
    simpa only [compare_lt_iff_lt] using settings.aliases.ordered_keys_toList
  have prices : settings.prices.toList.Pairwise fun earlier later => earlier.1 < later.1 := by
    simpa only [compare_lt_iff_lt] using settings.prices.ordered_keys_toList
  rw [demands, List.pairwise_cons, List.pairwise_append, List.pairwise_flatMap,
    List.pairwise_flatMap]
  simp only [List.forall_mem_append, List.forall_mem_flatMap, List.forall_mem_cons,
    List.pairwise_cons, Prod.forall, Demand.place, Prod.Lex.toLex_lt_toLex]
  refine ⟨?_, ⟨?_, ?_⟩, ⟨?_, ?_⟩, ?_⟩
  · simp
  · simp
  · refine aliases.imp ?_
    intro earlier later before
    simp [before]
  · simp
  · refine prices.imp ?_
    intro earlier later before
    simp [before]
  · simp

theorem isFirstFailed_iff {demand : Demand} :
    demand.IsFirstFailed settings ↔
      ¬demand.IsMet ∧ ∃ front rest, settings.demands = front ++ demand :: rest ∧
        ∀ other ∈ front, other.IsMet := by
  rw [exists_parts_iff settings.pairwise_place_demands]
  simp only [mem_demands_iff]
  constructor
  · intro isFirst
    exact ⟨isFirst.failed, isFirst.made, isFirst.first⟩
  · intro isFirst
    rcases isFirst with ⟨failed, made, first⟩
    exact ⟨made, failed, first⟩

theorem validate_eq_ok_iff_demands :
    settings.validate = .ok () ↔ ∀ demand : Demand, demand.IsMadeOf settings → demand.IsMet := by
  rw [validate, Check.first_eq_ok_iff, checks_eq, List.forall_mem_map]
  simp only [mem_demands_iff, Demand.check_eq_ok_iff]

theorem validate_eq_error_iff {error : Error} :
    settings.validate = .error error ↔
      ∃ demand : Demand, demand.IsFirstFailed settings ∧ error = demand.refusal := by
  rw [validate, Check.first_eq_error_iff, checks_eq]
  constructor
  · intro parted
    rcases parted with ⟨passed, rest, parts, succeed⟩
    rcases List.map_eq_append_iff.mp parts with ⟨front, later, demands, rfl, laterChecks⟩
    rcases List.map_eq_cons_iff.mp laterChecks with ⟨demand, rest, rfl, refused, rfl⟩
    rw [Demand.check_eq_error_iff] at refused
    refine ⟨demand, isFirstFailed_iff.mpr ⟨refused.1, front, rest, demands, ?_⟩, refused.2⟩
    intro other member
    exact Demand.check_eq_ok_iff.mp (succeed _ (List.mem_map_of_mem member))
  · intro named
    rcases named with ⟨demand, isFirst, rfl⟩
    rcases isFirstFailed_iff.mp isFirst with ⟨failed, front, rest, demands, met⟩
    refine ⟨front.map Demand.check, rest.map Demand.check, ?_, ?_⟩
    · rw [demands, List.map_append, List.map_cons,
        Demand.check_eq_error_iff.mpr ⟨failed, rfl⟩]
    · rw [List.forall_mem_map]
      intro other member
      exact Demand.check_eq_ok_iff.mpr (met other member)

end Settings

/-- Settings are accepted exactly if they meet every demand, and then a session starts with
them. Of the demands that other settings fail, the first one is told: with the field it is
made of, the value found there and a reason. -/
theorem settings_meet_demands_or_first_failed_is_told (settings : Settings) :
    (settings.validate = .ok () ↔
      ∀ demand : Demand, demand.IsMadeOf settings → demand.IsMet) ∧
    (∀ error, settings.validate = .error error ↔
      ∃ demand : Demand, demand.IsFirstFailed settings ∧ error = demand.refusal) ∧
    (settings.validate = .ok () → ∃ seeded, Session.ofSettings settings = .ok seeded) := by
  refine ⟨Settings.validate_eq_ok_iff_demands, ?_, ?_⟩
  · intro error
    exact Settings.validate_eq_error_iff
  · intro accepted
    exact Session.exists_ofSettings (Settings.validate_eq_ok_iff.mp accepted)

private def severalAliases (token : String) : Settings where
  aliases := (((∅ : Std.ExtTreeMap String String).insert "prok" token).insert "PROK" "v").insert
    "glob" "I"
  prices := (∅ : Std.ExtTreeMap String Float).insert "Silver" 0

/-- The second of two faults is not told: the token of an alias comes before a price. -/
theorem settings_meet_demands_or_first_failed_is_told_at_two_faults :
    (severalAliases "x").validate = .ok () ∧
      (∃ seeded, Session.ofSettings (severalAliases "x") = .ok seeded) ∧
      ∃ demand : Demand,
        demand.IsFirstFailed { severalAliases "IV" with
          prices := (∅ : Std.ExtTreeMap String Float).insert "" 1 } ∧
        demand.refusal = .invalidValue "aliases.prok" "IV"
          "Must be exactly one of I, V, X, L, C, D, M" := by
  have accepted : (severalAliases "x").validate = .ok () := by
    decide +kernel
  have refused : Settings.validate { severalAliases "IV" with
      prices := (∅ : Std.ExtTreeMap String Float).insert "" 1 } =
        .error (.invalidValue "aliases.prok" "IV"
          "Must be exactly one of I, V, X, L, C, D, M") := by
    decide +kernel
  refine ⟨accepted, (settings_meet_demands_or_first_failed_is_told _).2.2 accepted, ?_⟩
  rcases ((settings_meet_demands_or_first_failed_is_told _).2.1 _).mp refused with
    ⟨demand, isFirst, told⟩
  exact ⟨demand, isFirst, told.symm⟩

end TradeSpeech
