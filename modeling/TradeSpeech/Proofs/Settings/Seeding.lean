import TradeSpeech.Proofs.Settings.Validation

/-! # The session that settings start with

Each name has the meaning that its last case variant among the settings gives it. -/

namespace TradeSpeech

namespace Lexicon

/-- A name means what the last definition of one of its case variants says, and what it
meant before if there is none. -/
theorem lookup_defineAll (lexicon : Lexicon α) (definitions : List (String × α))
    (name : String) :
    (lexicon.defineAll definitions).lookup name =
      ((definitions.reverse.find? fun definition =>
        Text.upperCase definition.1 = Text.upperCase name).map Prod.snd).or
          (lexicon.lookup name) := by
  -- The first definition changes what the others are added to.
  induction definitions generalizing lexicon with
  | nil => rfl
  | cons definition definitions induction =>
      rcases definition with ⟨defined, meaning⟩
      have later : lexicon.defineAll ((defined, meaning) :: definitions) =
          (lexicon.define defined meaning).defineAll definitions := rfl
      rw [later, induction, lookup_define, List.reverse_cons, List.find?_append]
      cases definitions.reverse.find? _ with
      | some found => rfl
      | none =>
          by_cases same : Text.upperCase defined = Text.upperCase name <;> simp [same]

theorem lookup_defineAll_of_only {definitions : List (String × α)} {name : String} {meaning : α}
    (defined : (name, meaning) ∈ definitions)
    (only : ∀ definition ∈ definitions, Text.upperCase definition.1 = Text.upperCase name →
      definition = (name, meaning)) (lexicon : Lexicon α) :
    (lexicon.defineAll definitions).lookup name = some meaning := by
  rw [lookup_defineAll]
  cases found : definitions.reverse.find? _ with
  | none =>
      have other := List.find?_eq_none.mp found _ (List.mem_reverse.mpr defined)
      simp at other
  | some definition =>
      have same := List.find?_some found
      have member := List.mem_reverse.mp (List.mem_of_find?_eq_some found)
      rw [only definition member (by simpa using same)]
      rfl

theorem exists_seed {entries : List (String × String)}
    (symbols : ∀ entry ∈ entries, ∃ symbol, Symbol.ofToken? entry.2 = some symbol)
    (aliases : Lexicon Symbol) : ∃ seeded, aliases.seed entries = .ok seeded := by
  induction entries generalizing aliases with
  | nil => exact ⟨aliases, rfl⟩
  | cons entry entries induction =>
      rcases entry with ⟨word, token⟩
      rw [List.forall_mem_cons] at symbols
      rcases symbols.1 with ⟨symbol, stands⟩
      rw [seed, Check.singleSymbol_eq_ok_iff.mpr stands]
      exact induction symbols.2 _

end Lexicon

namespace Session

theorem exists_ofSettings {settings : Settings} (usable : settings.IsUsable) :
    ∃ seeded, ofSettings settings = .ok seeded := by
  have symbols : ∀ entry ∈ settings.aliases.toList,
      ∃ symbol, Symbol.ofToken? entry.2 = some symbol := by
    rintro ⟨word, token⟩ member
    exact (usable.aliases word token
      (Std.ExtTreeMap.mem_toList_iff_getElem?_eq_some.mp member)).2
  rcases Lexicon.exists_seed symbols ∅ with ⟨aliases, seeding⟩
  rw [ofSettings, seeding]
  exact ⟨_, rfl⟩

theorem prices_of_ofSettings {settings : Settings} {seeded : Session}
    (seeding : ofSettings settings = .ok seeded) :
    seeded.prices = (∅ : Lexicon Float).defineAll settings.prices.toList := by
  unfold ofSettings at seeding
  split at seeding <;> cases seeding
  rfl

theorem lookup_price_of_only {settings : Settings} {seeded : Session}
    (seeding : ofSettings settings = .ok seeded) {item : String} {price : Float}
    (stated : settings.prices[item]? = some price)
    (only : ∀ other ∈ settings.prices, Text.upperCase other = Text.upperCase item →
      other = item) : seeded.prices.lookup item = some price := by
  rw [prices_of_ofSettings seeding]
  apply Lexicon.lookup_defineAll_of_only (Std.ExtTreeMap.mem_toList_iff_getElem?_eq_some.mpr stated)
  -- A case variant of the item is the item itself, and that has one price.
  rintro ⟨other, otherPrice⟩ member same
  have otherStated := Std.ExtTreeMap.mem_toList_iff_getElem?_eq_some.mp member
  rcases Std.ExtTreeMap.getElem?_eq_some_iff.mp otherStated with ⟨present, _⟩
  obtain rfl := only other present same
  cases stated.symm.trans otherStated
  rfl

end Session

end TradeSpeech
