import TradeSpeech.Proofs.Conversation.Faults
import TradeSpeech.Proofs.Conversation.History

/-! # What a line leaves as it is

Only an answered definition changes a session, and it sets one entry of one
lexicon. A run therefore removes no entry, and changes none but those that the
answered definitions of its transcript name. -/

namespace TradeSpeech

open Sentence (AliasDefinition PriceDefinition)
open Session (knowingGlob)

namespace Lexicon

variable {before middle after : Lexicon α} {name : String} {meaning : α}

structure SetsOnly (before after : Lexicon α) (name : String) (meaning : α) : Prop where
  entry : after.entries[Text.upperCase name]? = some meaning
  others : ∀ key, key ≠ Text.upperCase name → after.entries[key]? = before.entries[key]?

structure ChangesOnly (before after : Lexicon α) (named : String → Prop) : Prop where
  kept : ∀ key ∈ before.entries, key ∈ after.entries
  others : ∀ key, ¬named key → after.entries[key]? = before.entries[key]?

theorem setsOnly_define (lexicon : Lexicon α) (name : String) (meaning : α) :
    lexicon.SetsOnly (lexicon.define name meaning) name meaning where
  entry := by simp [define]
  others key different := by
    rw [define, Std.ExtTreeMap.getElem?_insert, if_neg]
    rw [Std.compare_eq_iff_eq]
    exact different.symm

theorem SetsOnly.changesOnly (sets : before.SetsOnly after name meaning) :
    before.ChangesOnly after (· = Text.upperCase name) where
  kept key member := by
    by_cases same : key = Text.upperCase name
    · rw [Std.ExtTreeMap.mem_iff_isSome_getElem?, same, sets.entry, Option.isSome_some]
    · rw [Std.ExtTreeMap.mem_iff_isSome_getElem?, sets.others key same]
      exact Std.ExtTreeMap.mem_iff_isSome_getElem?.mp member
  others := sets.others

theorem ChangesOnly.refl (lexicon : Lexicon α) (named : String → Prop) :
    lexicon.ChangesOnly lexicon named where
  kept _ member := member
  others _ _ := rfl

theorem ChangesOnly.mono {named more : String → Prop}
    (changes : before.ChangesOnly after named) (covers : ∀ key, named key → more key) :
    before.ChangesOnly after more where
  kept := changes.kept
  others key unnamed := changes.others key fun isNamed => unnamed (covers key isNamed)

theorem ChangesOnly.trans {named : String → Prop} (first : before.ChangesOnly middle named)
    (second : middle.ChangesOnly after named) : before.ChangesOnly after named where
  kept key member := second.kept key (first.kept key member)
  others key unnamed := (second.others key unnamed).trans (first.others key unnamed)

end Lexicon

namespace Entry

def DefinesAlias (entry : Entry) (key : String) : Prop :=
  ∃ sentence, entry.aliasMade? = some sentence ∧ Text.upperCase sentence.word = key

def DefinesPrice (entry : Entry) (key : String) : Prop :=
  ∃ sentence, entry.priceMade? = some sentence ∧ Text.upperCase sentence.item = key

end Entry

/-! ## One line -/

namespace Hearing

variable {session next : Session} {line : String} {outcome : Outcome}

theorem next_eq (hearing : Hearing session line next outcome)
    (noAlias : ∀ message, outcome ≠ .answered .defineAlias message)
    (noPrice : ∀ message, outcome ≠ .answered .definePrice message) : next = session := by
  cases hearing with
  | aliasDefined => exact absurd rfl (noAlias none)
  | priceDefined => exact absurd rfl (noPrice none)
  | _ => rfl

theorem exists_of_alias_answered {message : Option String}
    (hearing : Hearing session line next outcome)
    (answered : outcome = .answered .defineAlias message) :
    ∃ sentence symbol, AliasDefinition.read? line = some sentence ∧
      Symbol.ofToken? sentence.symbols = some symbol ∧
      next = session.defineAlias sentence.word symbol := by
  cases hearing with
  | aliasDefined read token => exact ⟨_, _, read, token, rfl⟩
  | _ => cases answered

theorem changesOnly_aliases (hearing : Hearing session line next outcome) :
    session.aliases.ChangesOnly next.aliases (Entry.DefinesAlias ⟨line, outcome⟩) := by
  cases hearing with
  | @aliasDefined sentence symbol read token =>
      have sets := session.aliases.setsOnly_define sentence.word symbol
      apply sets.changesOnly.mono
      intro key same
      exact ⟨sentence, read, same.symm⟩
  | _ => exact .refl _ _

theorem changesOnly_prices (hearing : Hearing session line next outcome) :
    session.prices.ChangesOnly next.prices (Entry.DefinesPrice ⟨line, outcome⟩) := by
  cases hearing with
  | @priceDefined sentence numeral read quantity inRange =>
      have sets := session.prices.setsOnly_define sentence.item
        (unitPrice (numberOf sentence.amount.toList) numeral.value)
      apply sets.changesOnly.mono
      intro key same
      exact ⟨sentence, read, same.symm⟩
  | _ => exact .refl _ _

end Hearing

/-! ## Runs -/

/-- The lexicon is one `part` of the state, and `names` says which of its keys the line
of an entry may change. -/
theorem changesOnly_hearLines {hearLine : σ → String → σ × Outcome} {part : σ → Lexicon α}
    {names : Entry → String → Prop}
    (step : ∀ state line, (part state).ChangesOnly (part (hearLine state line).1)
      (names ⟨line, (hearLine state line).2⟩))
    (state : σ) (lines : List String) :
    (part state).ChangesOnly (part (hearLines hearLine state lines).1) fun key =>
      ∃ entry ∈ (hearLines hearLine state lines).2, names entry key := by
  induction lines generalizing state with
  | nil => exact .refl _ _
  | cons line lines induction =>
      rw [hearLines]
      apply Lexicon.ChangesOnly.trans
      · apply (step state line).mono
        intro key named
        exact ⟨_, List.mem_cons_self, named⟩
      · apply (induction (hearLine state line).1).mono
        intro key named
        rcases named with ⟨entry, member, named⟩
        exact ⟨entry, List.mem_cons_of_mem _ member, named⟩

/-- Only an answered definition changes the session, by the one entry it defines. A
run removes no entry, and keeps those that its answered definitions do not name. -/
theorem only_answered_definitions_change_session :
    (∀ session line next outcome, hear Rule.standard session line = (next, outcome) →
      (∀ message, outcome ≠ .answered .defineAlias message) →
      (∀ message, outcome ≠ .answered .definePrice message) → next = session) ∧
    (∀ session line next message,
      hear Rule.standard session line = (next, .answered .defineAlias message) →
      ∃ sentence symbol, AliasDefinition.read? line = some sentence ∧
        Symbol.ofToken? sentence.symbols = some symbol ∧
        session.aliases.SetsOnly next.aliases sentence.word symbol ∧
        next.prices = session.prices) ∧
    (∀ session line next message,
      hear Rule.standard session line = (next, .answered .definePrice message) →
      ∃ sentence numeral, PriceDefinition.read? line = some sentence ∧
        session.quantity sentence.quantity = .ok numeral ∧
        session.prices.SetsOnly next.prices sentence.item
          (unitPrice (numberOf sentence.amount.toList) numeral.value) ∧
        next.aliases = session.aliases) ∧
    (∀ (session : Session) (text : String),
      session.aliases.ChangesOnly (hearText Rule.standard session text).1.aliases (fun key =>
        ∃ entry ∈ (hearText Rule.standard session text).2, entry.DefinesAlias key) ∧
      session.prices.ChangesOnly (hearText Rule.standard session text).1.prices (fun key =>
        ∃ entry ∈ (hearText Rule.standard session text).2, entry.DefinesPrice key)) := by
  refine ⟨?_, ?_, ?_, ?_⟩
  · intro session line next outcome heard noAlias noPrice
    exact (hear_eq_iff.mp heard).next_eq noAlias noPrice
  · intro session line next message heard
    rcases (hear_eq_iff.mp heard).exists_of_alias_answered rfl with
      ⟨sentence, symbol, read, token, rfl⟩
    exact ⟨sentence, symbol, read, token, session.aliases.setsOnly_define _ _, rfl⟩
  · intro session line next message heard
    rcases (hear_eq_iff.mp heard).exists_of_price_answered rfl with
      ⟨sentence, numeral, read, quantity, _, rfl⟩
    exact ⟨sentence, numeral, read, quantity, session.prices.setsOnly_define _ _, rfl⟩
  · intro session text
    constructor
    · exact changesOnly_hearLines
        (fun state line => (hearing_hear state line).changesOnly_aliases) session _
    · exact changesOnly_hearLines
        (fun state line => (hearing_hear state line).changesOnly_prices) session _

/-- A token of two symbols changes nothing; an accepted token sets the word, and a
price for two units sets the item. -/
theorem only_answered_definitions_change_session_in_turn :
    (hear Rule.standard knowingGlob "Glob is IV").1 = knowingGlob ∧
      (∃ sentence symbol, AliasDefinition.read? "Glob is V" = some sentence ∧
        Symbol.ofToken? sentence.symbols = some symbol ∧
        knowingGlob.aliases.SetsOnly (hear Rule.standard knowingGlob "Glob is V").1.aliases
          sentence.word symbol ∧
        (hear Rule.standard knowingGlob "Glob is V").1.prices = knowingGlob.prices) ∧
      ∃ sentence numeral, PriceDefinition.read? "glob GLOB ? is 34 Credits" = some sentence ∧
        knowingGlob.quantity sentence.quantity = .ok numeral ∧
        knowingGlob.prices.SetsOnly
          (hear Rule.standard knowingGlob "glob GLOB ? is 34 Credits").1.prices sentence.item
          (unitPrice (numberOf sentence.amount.toList) numeral.value) ∧
        (hear Rule.standard knowingGlob "glob GLOB ? is 34 Credits").1.aliases =
          knowingGlob.aliases := by
  have refused : (hear Rule.standard knowingGlob "Glob is IV").2 =
      .rejected .defineAlias (.notASingleSymbol "IV") := by
    decide +kernel
  have accepted : (hear Rule.standard knowingGlob "Glob is V").2 =
      .answered .defineAlias none := by
    decide +kernel
  have priced : (hear Rule.standard knowingGlob "glob GLOB ? is 34 Credits").2 =
      .answered .definePrice none := by
    decide +kernel
  refine ⟨?_, ?_, ?_⟩
  · apply only_answered_definitions_change_session.1 _ _ _ _ (Prod.eta _).symm
    · simp [refused]
    · simp [refused]
  · exact only_answered_definitions_change_session.2.1 _ _ _ none (Prod.ext rfl accepted)
  · exact only_answered_definitions_change_session.2.2.1 _ _ _ none (Prod.ext rfl priced)

end TradeSpeech
