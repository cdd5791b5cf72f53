import TradeSpeech.Proofs.Conversation.Hearing

/-! # History

What the lines heard so far say about words and items, without a session. The
session of a run records exactly this, so that each line of a report is answered
as the lines before it dictate. -/

namespace TradeSpeech

open Sentence (Kind AliasDefinition PriceDefinition ValueQuestion PriceQuestion)

/-! ## What a history says -/

/-- The entries of a transcript, the last one first. -/
abbrev History := List Entry

namespace Entry

def aliasMade? (entry : Entry) : Option AliasDefinition :=
  match entry.outcome with
  | .answered .defineAlias _ => AliasDefinition.read? entry.line
  | _ => none

def priceMade? (entry : Entry) : Option PriceDefinition :=
  match entry.outcome with
  | .answered .definePrice _ => PriceDefinition.read? entry.line
  | _ => none

end Entry

def symbolIn : History → String → Option Symbol
  | [], _ => none
  | entry :: earlier, word =>
    match entry.aliasMade? with
    | none => symbolIn earlier word
    | some sentence =>
      if Text.upperCase sentence.word = Text.upperCase word then
        Symbol.ofToken? sentence.symbols
      else symbolIn earlier word

/-- The unit price that the last definition of an item gives it, where the quantity
is named with the words that had a meaning then. -/
def priceIn : History → String → Option Float
  | [], _ => none
  | entry :: earlier, item =>
    match entry.priceMade? with
    | none => priceIn earlier item
    | some sentence =>
      if Text.upperCase sentence.item = Text.upperCase item then
        (numeralOf? (symbolIn earlier) sentence.quantity).map fun numeral =>
          unitPrice (numberOf sentence.amount.toList) numeral.value
      else priceIn earlier item

/-- The answers that a line deserves after a history, by its kind. -/
def Answers (history : History) (line : String) : Kind → Option String → Prop
  | .defineAlias, message =>
    message = none ∧ ∃ sentence symbol, AliasDefinition.read? line = some sentence ∧
      Symbol.ofToken? sentence.symbols = some symbol
  | .definePrice, message =>
    message = none ∧ ∃ sentence numeral, PriceDefinition.read? line = some sentence ∧
      numeralOf? (symbolIn history) sentence.quantity = some numeral ∧
      numberOf sentence.amount.toList < amountLimit
  | .queryValue, message =>
    ∃ sentence numeral, ValueQuestion.read? line = some sentence ∧
      numeralOf? (symbolIn history) sentence.quantity = some numeral ∧
      message = some (sentence.quantity ++ " is " ++ toString numeral.value)
  | .queryPrice, message =>
    ∃ sentence numeral price, PriceQuestion.read? line = some sentence ∧
      numeralOf? (symbolIn history) sentence.quantity = some numeral ∧
      priceIn history sentence.item = some price ∧
      message = some (Text.trim sentence.quantity ++ " " ++ sentence.item ++ " is " ++
        Decimal.text (totalPrice price numeral.value) ++ " Credits")

/-! ## Sessions that record a history -/

structure Records (history : History) (session : Session) : Prop where
  aliases : ∀ word, session.aliases.lookup word = symbolIn history word
  prices : ∀ item, session.prices.lookup item = priceIn history item

theorem records_empty : Records [] ∅ where
  aliases := Lexicon.lookup_empty
  prices := Lexicon.lookup_empty

namespace Records

variable {history : History} {session next : Session} {line : String} {outcome : Outcome}

theorem quantity_iff (records : Records history session) {phrase : String}
    {numeral : Numeral} :
    session.quantity phrase = .ok numeral ↔
      numeralOf? (symbolIn history) phrase = some numeral := by
  rw [Session.quantity_eq_ok_iff, funext records.aliases]

theorem cons (records : Records history session) {entry : Entry}
    (noAlias : entry.aliasMade? = none) (noPrice : entry.priceMade? = none) :
    Records (entry :: history) session where
  aliases word := by
    rw [records.aliases, symbolIn, noAlias]
  prices item := by
    rw [records.prices, priceIn, noPrice]

theorem defineAlias (records : Records history session) {entry : Entry}
    {sentence : AliasDefinition} {symbol : Symbol} (made : entry.aliasMade? = some sentence)
    (noPrice : entry.priceMade? = none)
    (token : Symbol.ofToken? sentence.symbols = some symbol) :
    Records (entry :: history) (session.defineAlias sentence.word symbol) where
  aliases word := by
    rw [Session.defineAlias, Lexicon.lookup_define, records.aliases, symbolIn, made]
    simp only [token]
  prices item := by
    rw [Session.defineAlias, records.prices, priceIn, noPrice]

theorem definePrice (records : Records history session) {entry : Entry}
    {sentence : PriceDefinition} {numeral : Numeral} (noAlias : entry.aliasMade? = none)
    (made : entry.priceMade? = some sentence)
    (quantity : session.quantity sentence.quantity = .ok numeral) :
    Records (entry :: history) (session.definePrice sentence.item
      (unitPrice (numberOf sentence.amount.toList) numeral.value)) where
  aliases word := by
    rw [Session.definePrice, records.aliases, symbolIn, noAlias]
  prices item := by
    rw [Session.definePrice, Lexicon.lookup_define, records.prices, priceIn, made]
    simp only [records.quantity_iff.mp quantity, Option.map_some]

theorem step (records : Records history session)
    (hearing : Hearing session line next outcome) :
    Records (⟨line, outcome⟩ :: history) next := by
  cases hearing with
  | aliasDefined read token => exact records.defineAlias read rfl token
  | priceDefined read quantity inRange => exact records.definePrice rfl read quantity
  | _ => exact records.cons rfl rfl

theorem answered_iff (records : Records history session)
    (hearing : Hearing session line next outcome) {kind : Kind} {message : Option String} :
    outcome = .answered kind message ↔ Answers history line kind message := by
  constructor
  · intro answered
    cases hearing with
    | aliasDefined read token =>
        cases answered
        exact ⟨rfl, _, _, read, token⟩
    | priceDefined read quantity inRange =>
        cases answered
        exact ⟨rfl, _, _, read, records.quantity_iff.mp quantity, inRange⟩
    | valueAnswered read quantity =>
        cases answered
        exact ⟨_, _, read, records.quantity_iff.mp quantity, rfl⟩
    | totalAnswered read quantity known =>
        cases answered
        rw [records.prices] at known
        exact ⟨_, _, _, read, records.quantity_iff.mp quantity, known, rfl⟩
    | _ => cases answered
  · intro answers
    -- The line has one hearing only, so the answer it deserves is the one it got.
    have deserved : ∃ other, Hearing session line other (.answered kind message) := by
      cases kind with
      | defineAlias =>
          rcases answers with ⟨rfl, sentence, symbol, read, token⟩
          exact ⟨_, .aliasDefined read token⟩
      | definePrice =>
          rcases answers with ⟨rfl, sentence, numeral, read, quantity, inRange⟩
          exact ⟨_, .priceDefined read (records.quantity_iff.mpr quantity) inRange⟩
      | queryValue =>
          rcases answers with ⟨sentence, numeral, read, quantity, rfl⟩
          exact ⟨_, .valueAnswered read (records.quantity_iff.mpr quantity)⟩
      | queryPrice =>
          rcases answers with ⟨sentence, numeral, price, read, quantity, known, rfl⟩
          rw [← records.prices] at known
          exact ⟨_, .totalAnswered read (records.quantity_iff.mpr quantity) known⟩
    rcases deserved with ⟨other, answered⟩
    have same := hearing.hear_eq.symm.trans answered.hear_eq
    exact congrArg Prod.snd same

end Records

/-! ## Runs -/

/-- What each line keeps, of a state and the history behind it, holds at every line
of a run. -/
theorem exists_of_hearLines_eq {hearLine : σ → String → σ × Outcome}
    {holds : History → σ → Prop}
    (step : ∀ history state line, holds history state →
      holds (⟨line, (hearLine state line).2⟩ :: history) (hearLine state line).1)
    {history : History} {state : σ} {lines : List String} {before after : Transcript}
    {entry : Entry} (start : holds history state)
    (split : (hearLines hearLine state lines).2 = before ++ entry :: after) :
    ∃ current, holds (before.reverse ++ history) current ∧
      entry.outcome = (hearLine current entry.line).2 := by
  -- The history grows in front while the run goes on, so it is general in the induction.
  induction lines generalizing state history before with
  | nil =>
      rw [hearLines] at split
      simp at split
  | cons line lines induction =>
      rw [hearLines] at split
      cases before with
      | nil =>
          injection split with same _
          subst same
          exact ⟨state, start, rfl⟩
      | cons first before =>
          injection split with same split
          subst same
          rcases induction (step history state line start) split with ⟨current, kept, heard⟩
          exact ⟨current, by simpa using kept, heard⟩

/-- Each line of a report is answered exactly as the lines before it dictate. -/
theorem report_answers_from_history {text : String} {before after : Transcript}
    {entry : Entry}
    (split : (hearText Rule.standard ∅ text).2 = before ++ entry :: after)
    (kind : Kind) (message : Option String) :
    entry.outcome = .answered kind message ↔
      Answers before.reverse entry.line kind message := by
  have keeps : ∀ history session line, Records history session →
      Records (⟨line, (hear Rule.standard session line).2⟩ :: history)
        (hear Rule.standard session line).1 :=
    fun history session line records => records.step (hearing_hear session line)
  rcases exists_of_hearLines_eq keeps records_empty split with ⟨session, records, heard⟩
  rw [List.append_nil] at records
  rw [heard]
  exact records.answered_iff (hearing_hear session entry.line)

/-- A price stays as it was stated when the word it was stated with gets another
meaning: two units cost 34, and five of them 85. -/
theorem report_answers_from_history_after_redefinition :
    ∃ before entry, (hearText Rule.standard ∅ ("glob is I\nglob glob Silver is 34 Credits\n" ++
        "GLOB is V\nhow many Credits is glob Silver ?")).2 = before ++ entry :: [] ∧
      entry.outcome = .answered .queryPrice (some "glob Silver is 85 Credits") ∧
      Answers before.reverse entry.line .queryPrice (some "glob Silver is 85 Credits") := by
  let before : Transcript := [⟨"glob is I", .answered .defineAlias none⟩,
    ⟨"glob glob Silver is 34 Credits", .answered .definePrice none⟩,
    ⟨"GLOB is V", .answered .defineAlias none⟩]
  let entry : Entry := ⟨"how many Credits is glob Silver ?",
    .answered .queryPrice (some "glob Silver is 85 Credits")⟩
  have split : (hearText Rule.standard ∅ ("glob is I\nglob glob Silver is 34 Credits\n" ++
      "GLOB is V\nhow many Credits is glob Silver ?")).2 = before ++ entry :: [] := by
    decide +kernel
  exact ⟨before, entry, split, rfl, (report_answers_from_history split _ _).mp rfl⟩

end TradeSpeech
