import TradeSpeech.Proofs.Sentence.Grammar
import TradeSpeech.Proofs.Text.Names
import TradeSpeech.Session

/-! # One entry for all spellings of a name

A session has one entry for names that are alike, and another for every name that is
not like them. For words that can be aliases, likeness is simple case folding, except
that a Kelvin sign is not a `k`. -/

namespace TradeSpeech

open Sentence (IsMadeOf isAliasLetter)
open Text (folded IsWord NamesAlike LettersAlike)

/-! ## Aliases -/

theorem isAliasLetter_iff {c : Char} :
    isAliasLetter c = true ↔
      (97 ≤ c.toNat ∧ c.toNat ≤ 122 ∨ 65 ≤ c.toNat ∧ c.toNat ≤ 90) ∨
        c = '\u017f' ∨ c = '\u212a' := by
  simp [isAliasLetter, Text.isLetter_iff, or_assoc]

theorem writtenOutLetter_of_isAliasLetter {c : Char} (letter : isAliasLetter c = true) :
    Text.writtenOutLetter c = [c] := by
  rcases isAliasLetter_iff.mp letter with ascii | rfl | rfl
  · have table : ∀ code < 0x80,
        Text.writtenOutLetter (Char.ofNat code) = [Char.ofNat code] := by
      decide +kernel
    exact Text.forall_ascii (fun c => Text.writtenOutLetter c = [c]) table (by omega)
  · decide +kernel
  · decide +kernel

theorem writtenOut_of_isAliasLetter {word : String}
    (letters : ∀ c ∈ word.toList, isAliasLetter c = true) :
    Text.writtenOut word = word.toList := by
  have unchanged : word.toList.flatMap Text.writtenOutLetter = word.toList.flatMap ([·]) :=
    List.flatMap_congr fun c member => writtenOutLetter_of_isAliasLetter (letters c member)
  rw [Text.writtenOut, unchanged, List.flatMap_singleton']

theorem mem_loneCapitals_of_isAliasLetter {c : Char} (letter : isAliasLetter c = true) :
    c ∈ Text.loneCapitals ↔ c = '\u212a' := by
  rcases isAliasLetter_iff.mp letter with ascii | rfl | rfl
  · have above : ∀ code ∈ Text.loneCodes, 122 < code := by decide
    have notLone : c ∉ Text.loneCapitals := by
      intro lone
      have far := above c.toNat (Text.toNat_mem_loneCodes.mpr lone)
      omega
    have notKelvin : c ≠ '\u212a' := by
      intro kelvin
      exact notLone (by simp [kelvin, Text.loneCapitals])
    exact iff_of_false notLone notKelvin
  · decide
  · decide

/-- For words of letters, likeness is simple case folding, with Kelvin signs at the same
places. -/
theorem namesAlike_iff_of_isAliasLetter {left right : String}
    (leftWord : ∀ c ∈ left.toList, isAliasLetter c = true)
    (rightWord : ∀ c ∈ right.toList, isAliasLetter c = true) :
    NamesAlike left right ↔
      List.Forall₂ (fun c d => folded c = folded d ∧ (c = '\u212a' ↔ d = '\u212a'))
        left.toList right.toList := by
  rw [NamesAlike, writtenOut_of_isAliasLetter leftWord, writtenOut_of_isAliasLetter rightWord]
  refine Text.forall₂_congr_of_forall ?_ leftWord rightWord
  intro c d leftLetter rightLetter
  rw [LettersAlike, mem_loneCapitals_of_isAliasLetter leftLetter,
    mem_loneCapitals_of_isAliasLetter rightLetter]
  apply and_congr_right
  intro _
  constructor
  · intro onlyItself
    exact ⟨fun kelvin => onlyItself (.inl kelvin) ▸ kelvin,
      fun kelvin => (onlyItself (.inr kelvin)).trans kelvin⟩
  · intro samePlaces kelvin
    rcases kelvin with kelvin | kelvin
    · rw [kelvin, samePlaces.mp kelvin]
    · rw [kelvin, samePlaces.mpr kelvin]

/-! ## Entries of a session -/

/-- What is defined under a name is found under the names that are like it and under no
others. Names that can be aliases are alike when they fold to the same word and have
Kelvin signs at the same places; the keywords of a sentence are read by the same
folding. -/
theorem one_entry_for_names_alike :
    (∀ (session : Session) (left right : String),
      (∀ symbol, (session.defineAlias left symbol).aliases.lookup right =
        if NamesAlike left right then some symbol else session.aliases.lookup right) ∧
      ∀ price, (session.definePrice left price).prices.lookup right =
        if NamesAlike left right then some price else session.prices.lookup right) ∧
    (∀ left right, IsMadeOf isAliasLetter left → IsMadeOf isAliasLetter right →
      (NamesAlike left right ↔
        List.Forall₂ (fun c d => folded c = folded d ∧ (c = '\u212a' ↔ d = '\u212a'))
          left.toList right.toList)) ∧
    ∀ letter c : Char, 'a' ≤ letter → letter ≤ 'z' →
      (Text.sameLetter letter c = true ↔ folded c = letter) := by
  refine ⟨?_, ?_, ?_⟩
  · intro session left right
    simp only [Session.defineAlias, Session.definePrice, Lexicon.lookup_define,
      Text.upperCase_eq_iff, implies_true, and_self]
  · intro left right leftWord rightWord
    exact namesAlike_iff_of_isAliasLetter leftWord.2 rightWord.2
  · intro letter c from_a to_z
    exact Text.sameLetter_iff_folded ⟨from_a, to_z⟩ c

/-- A long s writes an s, a sharp s two of them, and a Kelvin sign is a letter apart. -/
theorem one_entry_for_names_alike_at_sharp_s :
    ((∅ : Session).definePrice "Weiſßgold" 17).prices.lookup "WEISSSGOLD" = some 17 ∧
      (IsMadeOf isAliasLetter "ſo\u212a" ∧ IsMadeOf isAliasLetter "SO\u212a" ∧
        IsMadeOf isAliasLetter "soK" ∧ NamesAlike "ſo\u212a" "SO\u212a" ∧
        ¬NamesAlike "ſo\u212a" "soK") ∧
      Text.sameLetter 'k' '\u212a' = true := by
  have prices := (one_entry_for_names_alike.1 ∅ "Weiſßgold" "WEISSSGOLD").2 17
  have longS : IsMadeOf isAliasLetter "ſo\u212a" := by decide
  have capitalS : IsMadeOf isAliasLetter "SO\u212a" := by decide
  have plainK : IsMadeOf isAliasLetter "soK" := by decide
  have alike := one_entry_for_names_alike.2.1 _ _ longS capitalS
  have notAlike := one_entry_for_names_alike.2.1 _ _ longS plainK
  have kelvin := one_entry_for_names_alike.2.2 'k' '\u212a' (by decide) (by decide)
  refine ⟨?_, ⟨longS, capitalS, plainK, ?_, ?_⟩, ?_⟩
  · rw [prices, if_pos (by decide +kernel)]
  · rw [alike]
    decide +kernel
  · rw [notAlike]
    decide +kernel
  · rw [kelvin]
    decide +kernel

/-- Folding alone does not say which names have one entry. A Kelvin sign folds to the
same letter as a `k` and has an entry of its own; a sharp s does not fold to the letters
`SS` and shares their entry. -/
theorem entries_differ_from_folding :
    (¬∀ left right, IsMadeOf isAliasLetter left → IsMadeOf isAliasLetter right →
      ((∀ (aliases : Lexicon Symbol) symbol,
          (aliases.define left symbol).lookup right = some symbol) ↔
        left.toList.map folded = right.toList.map folded)) ∧
    ¬∀ left right, IsWord left.toList → IsWord right.toList →
      ((∀ (prices : Lexicon Float) price,
          (prices.define left price).lookup right = some price) ↔
        left.toList.map folded = right.toList.map folded) := by
  constructor
  · intro foldingDecides
    have alike : "\u212a".toList.map folded = "k".toList.map folded := by decide +kernel
    have found := (foldingDecides "\u212a" "k" (by decide) (by decide)).mpr alike ∅ .I
    have apart : Text.upperCase "\u212a" ≠ Text.upperCase "k" := by decide
    rw [Lexicon.lookup_define_other ∅ Symbol.I apart, Lexicon.lookup_empty] at found
    cases found
  · intro foldingDecides
    have spelledAlike : Text.upperCase "ß" = Text.upperCase "SS" := by decide
    have sameFolding := (foldingDecides "ß" "SS" (by decide) (by decide)).mp
      fun prices price => by rw [Lexicon.lookup_define, if_pos spelledAlike]
    exact absurd (congrArg List.length sameFolding) (by decide +kernel)

end TradeSpeech
