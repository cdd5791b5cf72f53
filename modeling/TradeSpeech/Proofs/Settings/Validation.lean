import Std.Data.ExtTreeMap.Lemmas
import TradeSpeech.Settings.Validation

/-! # Which settings are accepted

Settings are accepted when each check on them succeeds, which says what a session can be
started with. -/

namespace TradeSpeech

namespace Check

theorem first_eq_ok_iff {checks : List (Except Error Unit)} :
    first checks = .ok () ↔ ∀ check ∈ checks, check = .ok () := by
  induction checks with
  | nil => simp [first]
  | cons check checks induction =>
      cases check with
      | error error => simp [first]
      | ok => simp [first, induction]

theorem nonEmpty_eq_ok_iff {field value : String} :
    nonEmpty field value = .ok () ↔ value ≠ "" := by
  simp [nonEmpty]

theorem singleWord_eq_ok_iff {field value : String} :
    singleWord field value = .ok () ↔
      value ≠ "" ∧ ∀ c ∈ value.toList, Text.isLetter c = true := by
  simp [singleWord]

theorem singleSymbol_eq_ok_iff {field token : String} {symbol : Symbol} :
    singleSymbol field token = .ok symbol ↔ Symbol.ofToken? token = some symbol := by
  cases found : Symbol.ofToken? token <;> simp [singleSymbol, found]

theorem symbol_eq_ok_iff {field token : String} :
    ((singleSymbol field token).map fun _ => ()) = .ok () ↔
      ∃ symbol, Symbol.ofToken? token = some symbol := by
  cases found : Symbol.ofToken? token <;> simp [singleSymbol, found, Except.map]

theorem itemName_eq_ok_iff {field name : String} :
    itemName field name = .ok () ↔ (Text.words name).length = 1 := by
  simp [itemName]

theorem unitPrice_eq_ok_iff {field : String} {price : Float} :
    unitPrice field price = .ok () ↔ price.isFinite = true ∧ ¬price < 0 := by
  simp [unitPrice]

end Check

structure Settings.IsUsable (settings : Settings) : Prop where
  separator : settings.separator ≠ ""
  aliases : ∀ word token, settings.aliases[word]? = some token →
    (word ≠ "" ∧ ∀ c ∈ word.toList, Text.isLetter c = true) ∧
      ∃ symbol, Symbol.ofToken? token = some symbol
  prices : ∀ item price, settings.prices[item]? = some price →
    (Text.words item).length = 1 ∧ price.isFinite = true ∧ ¬price < 0

theorem Settings.validate_eq_ok_iff {settings : Settings} :
    settings.validate = .ok () ↔ settings.IsUsable := by
  rw [validate, Check.first_eq_ok_iff, checks]
  simp only [List.forall_mem_cons, List.forall_mem_append, List.forall_mem_flatMap, Prod.forall,
    Std.ExtTreeMap.mem_toList_iff_getElem?_eq_some, Check.nonEmpty_eq_ok_iff,
    Check.singleWord_eq_ok_iff, Check.symbol_eq_ok_iff, Check.itemName_eq_ok_iff,
    Check.unitPrice_eq_ok_iff, List.not_mem_nil, false_imp_iff, implies_true, and_true]
  constructor
  · rintro ⟨⟨separator, aliases⟩, prices⟩
    exact ⟨separator, aliases, prices⟩
  · intro usable
    exact ⟨⟨usable.separator, usable.aliases⟩, usable.prices⟩

end TradeSpeech
