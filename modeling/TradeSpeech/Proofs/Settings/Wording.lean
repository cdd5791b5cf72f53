import TradeSpeech.Proofs.Conversation.Hearing
import TradeSpeech.Proofs.Settings.Seeding
import TradeSpeech.Proofs.Text.Lines

/-! # Aliases in words

The aliases of settings can be said as lines, one for each in the order of their names.
A session that hears the lines knows what it would have been seeded with. -/

namespace TradeSpeech

open Sentence (AliasDefinition IsMadeOf)
open Text (IsWord IsLine StopsWord isBlank)

namespace Settings

def aliasLine (word token : String) : String :=
  word ++ " is " ++ token

def aliasLines (entries : List (String × String)) : List String :=
  entries.map fun (word, token) => aliasLine word token

def aliasText (settings : Settings) : String :=
  "\n".intercalate (aliasLines settings.aliases.toList)

end Settings

structure Settings.IsAlias (entry : String × String) : Prop where
  word : IsMadeOf Text.isLetter entry.1
  token : ∃ symbol, Symbol.ofToken? entry.2 = some symbol

theorem Symbol.exists_of_ofToken? {token : String} {symbol : Symbol}
    (stands : ofToken? token = some symbol) :
    ∃ c, token.toList = [c] ∧ Sentence.isSymbolLetter c = true := by
  unfold ofToken? at stands
  split at stands
  · rename_i c letters
    exact ⟨c, letters, Option.isSome_of_mem stands⟩
  · cases stands

namespace Settings

theorem IsUsable.isAlias {settings : Settings} (usable : settings.IsUsable) :
    ∀ entry ∈ settings.aliases.toList, IsAlias entry := by
  rintro ⟨word, token⟩ member
  have stated := Std.ExtTreeMap.mem_toList_iff_getElem?_eq_some.mp member
  exact ⟨(usable.aliases word token stated).1, (usable.aliases word token stated).2⟩

namespace IsAlias

variable {entry : String × String}

theorem isWord_word (isAlias : IsAlias entry) : IsWord entry.1.toList where
  nonempty := by simpa using isAlias.word.1
  solid c member := by
    apply Text.isBlank_eq_false_of_isWordLetter
    exact Text.isWordLetter_iff.mpr (.inl (isAlias.word.2 c member))

theorem isWord_token (isAlias : IsAlias entry) : IsWord entry.2.toList := by
  rcases isAlias.token with ⟨symbol, stands⟩
  rcases Symbol.exists_of_ofToken? stands with ⟨c, letters, isLetter⟩
  rw [letters]
  refine ⟨List.cons_ne_nil c [], ?_⟩
  intro other member
  rw [List.mem_singleton.mp member]
  exact Sentence.isBlank_eq_false_of_isSymbolLetter isLetter

theorem words_aliasLine (isAlias : IsAlias entry) :
    Text.words (aliasLine entry.1 entry.2) = [entry.1, "is", entry.2] := by
  have blank : isBlank ' ' = true := rfl
  have isWord : IsWord "is".toList := by decide
  have line : (aliasLine entry.1 entry.2).toList =
      entry.1.toList ++ ' ' :: ("is".toList ++ ' ' :: entry.2.toList) := by
    simp [aliasLine]
  rw [Text.words_eq_iff, line, Text.wordsOf_append_cons _ _ blank,
    Text.wordsOf_append_cons _ _ blank, isAlias.isWord_word.wordsOf, isWord.wordsOf,
    isAlias.isWord_token.wordsOf]
  rfl

theorem read?_aliasLine (isAlias : IsAlias entry) :
    AliasDefinition.read? (aliasLine entry.1 entry.2) = some ⟨entry.1, entry.2⟩ := by
  rw [AliasDefinition.read?_iff_words, isAlias.words_aliasLine]
  refine ⟨"is", rfl, ⟨isAlias.word.1, ?_⟩, by decide, ?_⟩
  · intro c member
    simp [Sentence.isAliasLetter, isAlias.word.2 c member]
  · rcases isAlias.token with ⟨symbol, stands⟩
    rcases Symbol.exists_of_ofToken? stands with ⟨c, letters, isLetter⟩
    refine ⟨by simp [← String.toList_inj, letters], ?_⟩
    simpa [letters] using Sentence.isSymbolLetter_iff.mp isLetter

theorem isLine_aliasLine (isAlias : IsAlias entry) :
    IsLine (aliasLine entry.1 entry.2).toList := by
  have wordVisible := isAlias.isWord_word.solid
  have tokenVisible := isAlias.isWord_token.solid
  have last : (aliasLine entry.1 entry.2).toList.getLast? = entry.2.toList.getLast? := by
    rw [aliasLine, String.toList_append,
      List.getLast?_append_of_ne_nil _ isAlias.isWord_token.nonempty]
  refine ⟨?_, ?_, ?_⟩
  · intro member
    rw [aliasLine, String.toList_append, String.toList_append, List.mem_append,
      List.mem_append] at member
    rcases member with (inWord | inKeyword) | inToken
    · cases wordVisible _ inWord
    · exact absurd inKeyword (by decide)
    · cases tokenVisible _ inToken
  · intro returned
    rw [last] at returned
    cases tokenVisible _ (List.mem_of_getLast? returned)
  · rw [Text.isSpoken, List.any_eq_true]
    rcases List.exists_mem_of_ne_nil _ isAlias.isWord_word.nonempty with ⟨c, member⟩
    exact ⟨c, by simp [aliasLine, member], by simp [wordVisible c member]⟩

theorem hear_aliasLine (isAlias : IsAlias entry) {symbol : Symbol}
    (stands : Symbol.ofToken? entry.2 = some symbol) (session : Session) :
    hear Rule.standard session (aliasLine entry.1 entry.2) =
      (session.defineAlias entry.1 symbol, .answered .defineAlias none) :=
  (Hearing.aliasDefined isAlias.read?_aliasLine stands).hear_eq

end IsAlias

theorem hearLines_aliasLines {entries : List (String × String)}
    (areAliases : ∀ entry ∈ entries, IsAlias entry) {session : Session}
    {seeded : Lexicon Symbol} (seeding : session.aliases.seed entries = .ok seeded) :
    hearLines (hear Rule.standard) session (aliasLines entries) =
      ({ session with aliases := seeded },
        (aliasLines entries).map fun line => ⟨line, .answered .defineAlias none⟩) := by
  -- Each line changes what the others are added to, as each entry does.
  induction entries generalizing session with
  | nil =>
      cases seeding
      rfl
  | cons entry entries induction =>
      rw [List.forall_mem_cons] at areAliases
      rcases areAliases.1.token with ⟨symbol, stands⟩
      have later : (session.defineAlias entry.1 symbol).aliases.seed entries = .ok seeded := by
        rwa [Lexicon.seed, Check.singleSymbol_eq_ok_iff.mpr stands] at seeding
      rw [aliasLines, List.map_cons, ← aliasLines, hearLines,
        areAliases.1.hear_aliasLine stands]
      simp only [induction areAliases.2 later]
      rfl

end Settings

theorem Session.seed_of_ofSettings {settings : Settings} {seeded : Session}
    (seeding : ofSettings settings = .ok seeded) :
    (∅ : Lexicon Symbol).seed settings.aliases.toList = .ok seeded.aliases := by
  unfold ofSettings at seeding
  split at seeding
  · cases seeding
  · rename_i aliases found
    cases seeding
    exact found

/-- Accepted settings seed a session with the aliases that it learns from hearing them line
by line, each line being an answered definition. -/
theorem accepted_aliases_are_learned_by_hearing {settings : Settings}
    (accepted : settings.validate = .ok ()) :
    ∃ seeded, Session.ofSettings settings = .ok seeded ∧
      (hearText Rule.standard ∅ settings.aliasText).1.aliases = seeded.aliases ∧
      (hearText Rule.standard ∅ settings.aliasText).2 =
        settings.aliases.toList.map fun (word, token) =>
          ⟨word ++ " is " ++ token, .answered .defineAlias none⟩ := by
  have usable := Settings.validate_eq_ok_iff.mp accepted
  rcases Session.exists_ofSettings usable with ⟨seeded, seeding⟩
  have areLines : ∀ line ∈ Settings.aliasLines settings.aliases.toList, IsLine line.toList := by
    intro line member
    rcases List.mem_map.mp member with ⟨entry, entryMember, rfl⟩
    exact (usable.isAlias entry entryMember).isLine_aliasLine
  have said : Text.spokenLines settings.aliasText = Settings.aliasLines settings.aliases.toList :=
    Text.spokenLines_intercalate areLines
  rw [hearText, said,
    Settings.hearLines_aliasLines usable.isAlias (Session.seed_of_ofSettings seeding)]
  refine ⟨seeded, seeding, rfl, ?_⟩
  rw [Settings.aliasLines, List.map_map]
  rfl

private def threeAliases : Settings where
  aliases := .ofList [("glob", "I"), ("is", "x"), ("Glob", "v")]

/-- The later of two case variants counts, and a word may be written like the keyword. -/
theorem accepted_aliases_are_learned_by_hearing_case_variants :
    threeAliases.validate = .ok () ∧
      threeAliases.aliasText = "Glob is v\nglob is I\nis is x" ∧
      ∃ seeded, Session.ofSettings threeAliases = .ok seeded ∧
        (hearText Rule.standard ∅ threeAliases.aliasText).1.aliases = seeded.aliases ∧
        (hearText Rule.standard ∅ threeAliases.aliasText).2 =
          threeAliases.aliases.toList.map fun (word, token) =>
            ⟨word ++ " is " ++ token, .answered .defineAlias none⟩ := by
  have accepted : threeAliases.validate = .ok () := by decide +kernel
  exact ⟨accepted, by decide +kernel, accepted_aliases_are_learned_by_hearing accepted⟩

end TradeSpeech
