import Mathlib
import TradeSpeech.Proofs.Settings.Demands

/-! # Case variants among settings

Several names of settings may be one entry of a lexicon. The last of them in the order of
names gives the entry its meaning, and entries are counted once. A session does not start
with an alias that stands for no symbol, and the first such alias is told. -/

namespace TradeSpeech

structure IsLastVariant (entries : Std.ExtTreeMap String β) (name variant : String) : Prop where
  present : variant ∈ entries
  same : Text.upperCase variant = Text.upperCase name
  last : ∀ other ∈ entries, Text.upperCase other = Text.upperCase name → other ≤ variant

def distinctNames (entries : Std.ExtTreeMap String β) : Finset String :=
  (entries.keys.map Text.upperCase).toFinset

/-! ## Lexicons of several definitions -/

namespace Lexicon

def names (lexicon : Lexicon α) : Finset String :=
  lexicon.entries.keys.toFinset

theorem card_names (lexicon : Lexicon α) : lexicon.names.card = lexicon.size := by
  have distinct : lexicon.entries.keys.Nodup := by
    simpa [List.Nodup] using lexicon.entries.distinct_keys
  rw [names, List.toFinset_card_of_nodup distinct, Std.ExtTreeMap.length_keys, size]

theorem names_empty : (∅ : Lexicon α).names = ∅ := rfl

theorem names_define (lexicon : Lexicon α) (name : String) (meaning : α) :
    (lexicon.define name meaning).names = insert (Text.upperCase name) lexicon.names := by
  ext other
  simp [names, define, Std.ExtTreeMap.mem_insert, eq_comm (b := other)]

theorem names_defineAll (lexicon : Lexicon α) (definitions : List (String × α)) :
    (lexicon.defineAll definitions).names =
      lexicon.names ∪ (definitions.map fun definition => Text.upperCase definition.1).toFinset := by
  induction definitions generalizing lexicon with
  | nil => simp [defineAll]
  | cons definition definitions induction =>
      have later : lexicon.defineAll (definition :: definitions) =
          (lexicon.define definition.1 definition.2).defineAll definitions := rfl
      rw [later, induction, names_define, List.map_cons, List.toFinset_cons, Finset.insert_union,
        Finset.union_insert]

theorem lookup_defineAll_eq_some_iff {definitions : List (String × α)}
    (ordered : definitions.Pairwise fun earlier later => earlier.1 < later.1) {name : String}
    {meaning : α} :
    ((∅ : Lexicon α).defineAll definitions).lookup name = some meaning ↔
      ∃ variant, (variant, meaning) ∈ definitions ∧
        Text.upperCase variant = Text.upperCase name ∧
        ∀ other ∈ definitions, Text.upperCase other.1 = Text.upperCase name →
          other.1 ≤ variant := by
  have backwards : definitions.reverse.Pairwise fun earlier later =>
      OrderDual.toDual earlier.1 < OrderDual.toDual later.1 :=
    List.pairwise_reverse.mpr ordered
  have found : ∀ variant, (definitions.reverse.find? fun definition =>
        Text.upperCase definition.1 = Text.upperCase name) = some (variant, meaning) ↔
      (variant, meaning) ∈ definitions ∧ Text.upperCase variant = Text.upperCase name ∧
        ∀ other ∈ definitions, Text.upperCase other.1 = Text.upperCase name →
          other.1 ≤ variant := by
    intro variant
    rw [List.find?_eq_some_iff_append, exists_parts_iff backwards]
    simp only [List.mem_reverse, OrderDual.toDual_lt_toDual, decide_eq_true_eq,
      Bool.not_eq_true', decide_eq_false_iff_not]
    constructor
    · intro isFirst
      rcases isFirst with ⟨same, member, others⟩
      refine ⟨member, same, ?_⟩
      intro other otherMember otherSame
      exact not_lt.mp fun later => others other otherMember later otherSame
    · intro isLast
      rcases isLast with ⟨member, same, others⟩
      refine ⟨same, member, ?_⟩
      intro other otherMember later otherSame
      exact absurd later (not_lt.mpr (others other otherMember otherSame))
  simp only [lookup_defineAll, lookup_empty, Option.or_none, Option.map_eq_some_iff, Prod.exists,
    exists_eq_right, found]

structure IsSeeded (lexicon : Lexicon α) (entries : Std.ExtTreeMap String β)
    (meaning? : β → Option α) : Prop where
  known : ∀ name meaning, lexicon.lookup name = some meaning ↔
    ∃ variant value, IsLastVariant entries name variant ∧ entries[variant]? = some value ∧
      meaning? value = some meaning
  unknown : ∀ name, lexicon.lookup name = none ↔
    ∀ other ∈ entries, Text.upperCase other ≠ Text.upperCase name
  size : lexicon.size = (distinctNames entries).card

section

variable {entries : Std.ExtTreeMap String β} {meaning? : β → Option α}

def definitionsOf (meaning? : β → Option α) (entries : List (String × β)) : List (String × α) :=
  entries.filterMap fun (name, value) => (meaning? value).map (name, ·)

theorem mem_definitionsOf {entries : List (String × β)} {name : String} {meaning : α} :
    (name, meaning) ∈ definitionsOf meaning? entries ↔
      ∃ value, (name, value) ∈ entries ∧ meaning? value = some meaning := by
  simp [definitionsOf]

theorem lookup_defineAll_eq_none_iff {definitions : List (String × α)} {name : String} :
    ((∅ : Lexicon α).defineAll definitions).lookup name = none ↔
      ∀ definition ∈ definitions, Text.upperCase definition.1 ≠ Text.upperCase name := by
  simp [lookup_defineAll]

theorem definitionsOf_cons {name : String} {value : β} {meaning : α}
    (stands : meaning? value = some meaning) (entries : List (String × β)) :
    definitionsOf meaning? ((name, value) :: entries) =
      (name, meaning) :: definitionsOf meaning? entries := by
  simp [definitionsOf, stands]

theorem pairwise_definitionsOf (meaning? : β → Option α) (entries : Std.ExtTreeMap String β) :
    (definitionsOf meaning? entries.toList).Pairwise fun earlier later => earlier.1 < later.1 := by
  have ordered := entries.ordered_keys_toList
  simp only [compare_lt_iff_lt] at ordered
  rw [definitionsOf, List.pairwise_filterMap]
  refine ordered.imp ?_
  intro earlier later before
  simp only [Option.map_eq_some_iff]
  intro definition defined laterDefinition laterDefined
  rcases defined with ⟨meaning, _, rfl⟩
  rcases laterDefined with ⟨laterMeaning, _, rfl⟩
  exact before

theorem forall_mem_definitionsOf
    (meant : ∀ (name : String) (value : β), entries[name]? = some value →
      ∃ meaning, meaning? value = some meaning) (holds : String → Prop) :
    (∀ definition ∈ definitionsOf meaning? entries.toList, holds definition.1) ↔
      ∀ name ∈ entries, holds name := by
  constructor
  · intro holdsDefined name present
    rcases Settings.exists_mem_toList_iff.mpr present with ⟨value, member⟩
    rcases meant name value (Std.ExtTreeMap.mem_toList_iff_getElem?_eq_some.mp member) with
      ⟨meaning, stands⟩
    exact holdsDefined (name, meaning) (mem_definitionsOf.mpr ⟨value, member, stands⟩)
  · intro holdsPresent definition defined
    rcases definition with ⟨name, meaning⟩
    rcases mem_definitionsOf.mp defined with ⟨value, member, _⟩
    exact holdsPresent name (Settings.exists_mem_toList_iff.mp ⟨value, member⟩)

theorem isSeeded_defineAll
    (meant : ∀ (name : String) (value : β), entries[name]? = some value →
      ∃ meaning, meaning? value = some meaning) :
    ((∅ : Lexicon α).defineAll (definitionsOf meaning? entries.toList)).IsSeeded entries
      meaning? where
  known name meaning := by
    have isLast : ∀ variant, (∀ definition ∈ definitionsOf meaning? entries.toList,
          Text.upperCase definition.1 = Text.upperCase name → definition.1 ≤ variant) ↔
        ∀ other ∈ entries, Text.upperCase other = Text.upperCase name → other ≤ variant :=
      fun variant => forall_mem_definitionsOf meant fun other =>
        Text.upperCase other = Text.upperCase name → other ≤ variant
    rw [lookup_defineAll_eq_some_iff (pairwise_definitionsOf meaning? entries)]
    simp only [isLast, mem_definitionsOf, Std.ExtTreeMap.mem_toList_iff_getElem?_eq_some]
    constructor
    · intro defined
      rcases defined with ⟨variant, ⟨value, stated, stands⟩, same, last⟩
      have present : variant ∈ entries := Settings.exists_mem_toList_iff.mp
        ⟨value, Std.ExtTreeMap.mem_toList_iff_getElem?_eq_some.mpr stated⟩
      exact ⟨variant, value, ⟨present, same, last⟩, stated, stands⟩
    · intro lastVariant
      rcases lastVariant with ⟨variant, value, found, stated, stands⟩
      exact ⟨variant, ⟨value, stated, stands⟩, found.same, found.last⟩
  unknown name := by
    rw [lookup_defineAll_eq_none_iff, forall_mem_definitionsOf meant fun other =>
      Text.upperCase other ≠ Text.upperCase name]
  size := by
    rw [← card_names, names_defineAll, names_empty, Finset.empty_union]
    congr 1
    ext upper
    have counted := forall_mem_definitionsOf meant fun name => Text.upperCase name ≠ upper
    simpa [distinctNames] using not_congr counted

end

/-! ## Aliases with their tokens -/

theorem seed_of_isToken {token : String} (isToken : Symbol.IsToken token) (word : String)
    (aliases : Lexicon Symbol) (entries : List (String × String)) :
    ∃ symbol, Symbol.ofToken? token = some symbol ∧
      aliases.seed ((word, token) :: entries) = (aliases.define word symbol).seed entries := by
  rcases Symbol.isToken_iff.mp isToken with ⟨symbol, stands⟩
  exact ⟨symbol, stands, by rw [seed, Check.singleSymbol_eq_ok_iff.mpr stands]⟩

theorem seed_of_not_isToken {word token : String} (noToken : ¬Symbol.IsToken token)
    (aliases : Lexicon Symbol) (entries : List (String × String)) :
    aliases.seed ((word, token) :: entries) = .error (Demand.token word token).refusal := by
  have refused : Symbol.ofToken? token = none := by
    rw [Symbol.isToken_iff, not_exists] at noToken
    exact Option.eq_none_iff_forall_ne_some.mpr noToken
  rw [seed, Check.singleSymbol, refused]
  rfl

theorem seed_eq_ok_iff {entries : List (String × String)} {aliases seeded : Lexicon Symbol} :
    aliases.seed entries = .ok seeded ↔
      (∀ entry ∈ entries, Symbol.IsToken entry.2) ∧
        seeded = aliases.defineAll (definitionsOf Symbol.ofToken? entries) := by
  induction entries generalizing aliases with
  | nil => simp [seed, definitionsOf, defineAll, eq_comm]
  | cons entry entries induction =>
      rcases entry with ⟨word, token⟩
      rw [List.forall_mem_cons]
      by_cases isToken : Symbol.IsToken token
      · rcases seed_of_isToken isToken word aliases entries with ⟨symbol, stands, step⟩
        have first : aliases.defineAll (definitionsOf Symbol.ofToken? ((word, token) :: entries)) =
            (aliases.define word symbol).defineAll (definitionsOf Symbol.ofToken? entries) := by
          rw [definitionsOf_cons stands]
          rfl
        rw [step, induction, first, and_iff_right isToken]
      · simp [seed_of_not_isToken isToken, isToken]

theorem seed_eq_error_iff {entries : List (String × String)} {aliases : Lexicon Symbol}
    {error : Error} :
    aliases.seed entries = .error error ↔
      ∃ entry : String × String, ¬Symbol.IsToken entry.2 ∧
        (∃ front rest, entries = front ++ entry :: rest ∧
          ∀ other ∈ front, Symbol.IsToken other.2) ∧
        error = (Demand.token entry.1 entry.2).refusal := by
  induction entries generalizing aliases with
  | nil => simp [seed]
  | cons first entries induction =>
      rcases first with ⟨word, token⟩
      simp only [exists_parts_cons_iff]
      by_cases isToken : Symbol.IsToken token
      · rcases seed_of_isToken isToken word aliases entries with ⟨symbol, _, step⟩
        rw [step, induction]
        constructor
        · intro later
          rcases later with ⟨entry, noToken, parts, told⟩
          exact ⟨entry, noToken, .inr ⟨isToken, parts⟩, told⟩
        · intro found
          rcases found with ⟨entry, noToken, rfl | ⟨_, parts⟩, told⟩
          · exact absurd isToken noToken
          · exact ⟨entry, noToken, parts, told⟩
      · rw [seed_of_not_isToken isToken, Except.error.injEq]
        constructor
        · intro told
          exact ⟨(word, token), isToken, .inl rfl, told.symm⟩
        · intro found
          rcases found with ⟨entry, noToken, rfl | ⟨isTokenHere, _⟩, told⟩
          · exact told.symm
          · exact absurd isTokenHere isToken

end Lexicon

namespace Session

variable {settings : Settings}

theorem ofSettings_eq_ok_iff {seeded : Session} :
    ofSettings settings = .ok seeded ↔
      (∀ entry ∈ settings.aliases.toList, Symbol.IsToken entry.2) ∧
        seeded.aliases = (∅ : Lexicon Symbol).defineAll
          (Lexicon.definitionsOf Symbol.ofToken? settings.aliases.toList) ∧
        seeded.prices = (∅ : Lexicon Float).defineAll settings.prices.toList := by
  rw [ofSettings]
  cases seeding : (∅ : Lexicon Symbol).seed settings.aliases.toList with
  | error error =>
      rcases Lexicon.seed_eq_error_iff.mp seeding with ⟨entry, noToken, ⟨front, rest, parts, _⟩, _⟩
      constructor
      · intro impossible
        cases impossible
      · intro starts
        rcases starts with ⟨tokens, _⟩
        rw [parts] at tokens
        exact absurd (tokens entry (List.mem_append_right _ List.mem_cons_self)) noToken
  | ok aliases =>
      rcases Lexicon.seed_eq_ok_iff.mp seeding with ⟨tokens, rfl⟩
      constructor
      · intro same
        cases same
        exact ⟨tokens, rfl, rfl⟩
      · intro starts
        rcases starts with ⟨_, sameAliases, samePrices⟩
        rw [← sameAliases, ← samePrices]

theorem ofSettings_eq_error_iff {error : Error} :
    ofSettings settings = .error error ↔
      ∃ name token : String, settings.aliases[name]? = some token ∧ ¬Symbol.IsToken token ∧
        (∀ (other text : String), settings.aliases[other]? = some text → other < name →
          Symbol.IsToken text) ∧
        error = (Demand.token name token).refusal := by
  have ordered : settings.aliases.toList.Pairwise fun earlier later => earlier.1 < later.1 := by
    simpa only [compare_lt_iff_lt] using settings.aliases.ordered_keys_toList
  have seeding : ofSettings settings = .error error ↔
      (∅ : Lexicon Symbol).seed settings.aliases.toList = .error error := by
    rw [ofSettings]
    cases (∅ : Lexicon Symbol).seed settings.aliases.toList <;> simp
  have first : ∀ entry : String × String,
      (∃ front rest, settings.aliases.toList = front ++ entry :: rest ∧
        ∀ other ∈ front, Symbol.IsToken other.2) ↔
      entry ∈ settings.aliases.toList ∧
        ∀ other ∈ settings.aliases.toList, other.1 < entry.1 → Symbol.IsToken other.2 :=
    fun _ => exists_parts_iff ordered
  rw [seeding, Lexicon.seed_eq_error_iff]
  simp only [first]
  simp only [Prod.exists, Prod.forall, Std.ExtTreeMap.mem_toList_iff_getElem?_eq_some]
  constructor
  · intro first
    rcases first with ⟨name, token, noToken, ⟨stated, tokens⟩, told⟩
    exact ⟨name, token, stated, noToken, tokens, told⟩
  · intro first
    rcases first with ⟨name, token, stated, noToken, tokens, told⟩
    exact ⟨name, token, noToken, ⟨stated, tokens⟩, told⟩

end Session

/-- A session starts with settings unless some alias stands for no symbol; of several such
aliases the first one is told. In a session that starts, the last case variant of a name
among the settings gives it its meaning, a name without variants there has none, and each
name is counted once. -/
theorem session_starts_with_last_variants (settings : Settings) :
    ((∃ error, Session.ofSettings settings = .error error) ↔
      ∃ name token : String, settings.aliases[name]? = some token ∧ ¬Symbol.IsToken token) ∧
    (∀ error, Session.ofSettings settings = .error error ↔
      ∃ name token : String, settings.aliases[name]? = some token ∧ ¬Symbol.IsToken token ∧
        (∀ (other text : String), settings.aliases[other]? = some text → other < name →
          Symbol.IsToken text) ∧
        error = .invalidValue ("aliases." ++ name) token
          "Must be exactly one of I, V, X, L, C, D, M") ∧
    ∀ seeded, Session.ofSettings settings = .ok seeded →
      seeded.aliases.IsSeeded settings.aliases Symbol.ofToken? ∧
        seeded.prices.IsSeeded settings.prices some := by
  have isToken_of_mem : (∀ entry ∈ settings.aliases.toList, Symbol.IsToken entry.2) ↔
      ∀ (name token : String), settings.aliases[name]? = some token → Symbol.IsToken token := by
    simp only [Prod.forall, Std.ExtTreeMap.mem_toList_iff_getElem?_eq_some]
  refine ⟨?_, ?_, ?_⟩
  · constructor
    · intro fails
      rcases fails with ⟨error, failed⟩
      rcases Session.ofSettings_eq_error_iff.mp failed with ⟨name, token, stated, noToken, _⟩
      exact ⟨name, token, stated, noToken⟩
    · intro tokenless
      rcases tokenless with ⟨name, token, stated, noToken⟩
      cases seeding : Session.ofSettings settings with
      | error error => exact ⟨error, rfl⟩
      | ok seeded =>
          have tokens := (Session.ofSettings_eq_ok_iff.mp seeding).1
          exact absurd (isToken_of_mem.mp tokens name token stated) noToken
  · intro error
    exact Session.ofSettings_eq_error_iff
  · intro seeded seeding
    rcases Session.ofSettings_eq_ok_iff.mp seeding with ⟨tokens, aliases, prices⟩
    have allPrices : Lexicon.definitionsOf some settings.prices.toList =
        settings.prices.toList := by
      simp [Lexicon.definitionsOf]
    rw [aliases, prices, ← allPrices]
    constructor
    · apply Lexicon.isSeeded_defineAll
      intro name token stated
      exact Symbol.isToken_iff.mp (isToken_of_mem.mp tokens name token stated)
    · apply Lexicon.isSeeded_defineAll
      intro name price _
      exact ⟨price, rfl⟩

private def severalVariants (token : String) : Settings where
  aliases := (((∅ : Std.ExtTreeMap String String).insert "GLOB" "V").insert "prok" token).insert
    "glob" "i"
  prices := ((∅ : Std.ExtTreeMap String Float).insert "straße" 2).insert "STRASSE" 1

/-- An item is one entry with its variant of another length, and the last one counts. -/
theorem session_starts_with_last_variants_at_sharp_s :
    (∃ error, Session.ofSettings (severalVariants "IX") = .error error) ∧
      ∃ seeded, Session.ofSettings (severalVariants "x") = .ok seeded ∧
        seeded.aliases.lookup "Glob" = some .I ∧ seeded.prices.lookup "Strasse" = some 2 ∧
          seeded.aliases.IsSeeded (severalVariants "x").aliases Symbol.ofToken? ∧
            seeded.prices.IsSeeded (severalVariants "x").prices some := by
  have looked : (Session.ofSettings (severalVariants "x")).toOption.map (fun seeded =>
      (seeded.aliases.lookup "Glob", seeded.prices.lookup "Strasse")) =
        some (some .I, some 2) := by
    decide +kernel
  constructor
  · refine (session_starts_with_last_variants _).1.mpr ⟨"prok", "IX", ?_, ?_⟩
    · decide +kernel
    · intro isToken
      rcases Symbol.isToken_iff.mp isToken with ⟨symbol, stands⟩
      cases stands
  · cases seeding : Session.ofSettings (severalVariants "x") with
    | error error =>
        rw [seeding] at looked
        cases looked
    | ok seeded =>
        rw [seeding] at looked
        have found := Prod.mk.inj (Option.some.inj looked)
        exact ⟨seeded, rfl, found.1, found.2,
          (session_starts_with_last_variants _).2.2 seeded seeding⟩

end TradeSpeech
