import TradeSpeech.Proofs.Settings.Placeholders

/-! # Filling a text

A text is filled in one pass from the left: what is filled is decided by the text alone, and a
value is never searched itself. An opening that stands open takes what follows it, up to the next
closing brace, into its name. -/

namespace TradeSpeech.Placeholder

theorem substitute_empty (environment : String → Option String) :
    substitute environment "" = "" := by
  simp [substitute]

theorem substitute_append (environment : String → Option String) {before after : String}
    {name : Name}
    (plain : ∀ place < before.toList.length,
      ¬StartsPlaceholder ((before ++ name.placeholder ++ after).toList.drop place)) :
    substitute environment (before ++ name.placeholder ++ after) =
      before ++ name.told environment ++ substitute environment after := by
  have letters : (before ++ name.placeholder ++ after).toList =
      before.toList ++ (written name.text.toList ++ after.toList) := by
    simp
  rw [letters] at plain
  rw [← String.toList_inj, substitute, substitute, String.toList_ofList, letters,
    fill_append environment plain, fill_written]
  simp

theorem exists_pieces (text : String) :
    ∃ pieces, Divides text.toList pieces ∧ spelled pieces = text ∧
      ∀ environment, substitute environment text = filled environment pieces := by
  rcases exists_divides text.toList with ⟨pieces, divides⟩
  refine ⟨pieces, divides, ?_, ?_⟩
  · rw [divides.spelled_eq, String.ofList_toList]
  · intro environment
    rw [divides.filled_eq, substitute]

/-- The pieces of a text do not depend on the environment. Letters stay, and each placeholder
among the pieces gives way to the value of its name, if there is one. A placeholder is among the
pieces, whatever else the text holds, if no opening in front of it stands open. -/
theorem placeholders_give_way_unless_one_stands_open (text : String) :
    ∃ pieces, spelled pieces = text ∧
      (∀ (front : String) (name : Name) (back : String),
        text = front ++ name.placeholder ++ back → ¬StandsOpen front.toList →
        ∃ before after, pieces = before ++ .placeholder name :: after ∧
          spelled before = front ∧ spelled after = back) ∧
      ∀ environment, substitute environment text = filled environment pieces := by
  rcases exists_pieces text with ⟨pieces, divides, whole, substituted⟩
  refine ⟨pieces, whole, ?_, substituted⟩
  intro front name back parts closed
  have letters : text.toList = front.toList ++ (written name.text.toList ++ back.toList) := by
    simp [parts]
  rcases divides.exists_cut letters closed with ⟨before, after, cut, left, right⟩
  refine ⟨before, after, cut, ?_, ?_⟩
  · rw [left.spelled_eq, String.ofList_toList]
  · rw [right.spelled_eq, String.ofList_toList]

/-- An empty pair of braces and a lone brace in front of a placeholder do not hide it. -/
theorem placeholders_give_way_unless_one_stands_open_behind_braces :
    let name : Name := ⟨"SYM", by decide, by decide⟩
    ¬StandsOpen "$\x7b\x7d\x7b$".toList ∧
      ∃ before after, spelled before = "$\x7b\x7d\x7b$" ∧ spelled after = "$\x7b" ∧
        ∀ environment,
          substitute environment ("$\x7b\x7d\x7b$" ++ name.placeholder ++ "$\x7b") =
            filled environment (before ++ .placeholder name :: after) := by
  intro name
  have closed : ¬StandsOpen "$\x7b\x7d\x7b$".toList := by decide
  rcases placeholders_give_way_unless_one_stands_open
    ("$\x7b\x7d\x7b$" ++ name.placeholder ++ "$\x7b") with ⟨pieces, _, placed, substituted⟩
  rcases placed _ name _ rfl closed with ⟨before, after, rfl, left, right⟩
  exact ⟨closed, before, after, left, right, substituted⟩

/-- The placeholders that give way are not those of the words that are set. Behind an opening
that stands open a word does not give way, even where the text has one closing brace only; and
the placeholder of a set variable gives way also if its name is not a word. -/
theorem giving_way_is_not_word_by_word :
    (¬∀ (environment : String → Option String) (front : String) (name : Name) (back value : String),
      name.IsWord → environment name.text = some value → '}' ∉ front.toList →
      '}' ∉ back.toList →
      substitute environment (front ++ name.placeholder ++ back) = front ++ value ++ back) ∧
    ¬∀ (environment : String → Option String) (text : String),
      (∀ name : Name, name.IsWord → environment name.text = none) →
      substitute environment text = text := by
  constructor
  · intro wordsGiveWay
    let environment : String → Option String := fun key => if key = "SYM" then some "X" else none
    let inner : Name := ⟨"SYM", by decide, by decide⟩
    let outer : Name := ⟨" $\x7bSYM", by decide, by decide⟩
    have gaveWay := wordsGiveWay environment "$\x7b " inner "" "X" (by decide) (by decide)
      (by decide) (by decide)
    have whole : "$\x7b " ++ inner.placeholder ++ "" = "" ++ outer.placeholder ++ "" := by decide
    have kept : outer.told environment = outer.placeholder := by decide
    rw [whole, substitute_append environment (by simp), kept, substitute_empty] at gaveWay
    exact absurd gaveWay (by decide)
  · intro othersStay
    let environment : String → Option String := fun key => if key = "A-B" then some "X" else none
    let name : Name := ⟨"A-B", by decide, by decide⟩
    have unset : ∀ other : Name, other.IsWord → environment other.text = none := by
      intro other isWord
      have different : other.text ≠ "A-B" := by
        intro equal
        exact absurd (isWord '-' (by simp [equal])) (by decide)
      exact if_neg different
    have stayed := othersStay environment ("" ++ name.placeholder ++ "") unset
    have told : name.told environment = "X" := by decide
    rw [substitute_append environment (by simp), told, substitute_empty] at stayed
    exact absurd stayed (by decide)

/-- A text is filled in one pass from the left. It stays as it is if no name that stands in it
after an opening and in front of the next closing brace is set. Up to the first placeholder it
stays in any case; the placeholder gives way to its value, which is not searched, and behind it
the rest is filled. So the pieces that are filled are the same in every environment. -/
theorem texts_are_filled_in_one_pass :
    (∀ (environment : String → Option String) (text : String),
      (∀ (front : String) (name : Name) (back : String),
        text = front ++ name.placeholder ++ back → environment name.text = none) →
      substitute environment text = text) ∧
    (∀ (environment : String → Option String) (before : String) (name : Name) (after : String),
      (∀ place < before.toList.length,
        ¬StartsPlaceholder ((before ++ name.placeholder ++ after).toList.drop place)) →
      substitute environment (before ++ name.placeholder ++ after) =
        before ++ (environment name.text).getD name.placeholder ++
          substitute environment after) ∧
    ∀ text : String, ∃ pieces, spelled pieces = text ∧
      ∀ environment, substitute environment text = filled environment pieces := by
  refine ⟨?_, ?_, ?_⟩
  · intro environment text unset
    rcases exists_pieces text with ⟨pieces, _, whole, substituted⟩
    have silent : ∀ name, Piece.placeholder name ∈ pieces → environment name.text = none := by
      intro name member
      rcases List.append_of_mem member with ⟨before, after, rfl⟩
      exact unset (spelled before) name (spelled after) (by rw [← whole, spelled_append_cons])
    rw [substituted, filled_eq_spelled silent, whole]
  · intro environment before name after plain
    exact substitute_append environment plain
  · intro text
    rcases exists_pieces text with ⟨pieces, _, whole, substituted⟩
    exact ⟨pieces, whole, substituted⟩

/-- The first text has openings, but names nothing that is set. In the second an empty pair of
braces names nothing, and the value looks like the placeholder that it replaces. -/
theorem texts_are_filled_in_one_pass_at_value_in_braces :
    let name : Name := ⟨"SYM", by decide, by decide⟩
    let environment := fun key => if key = "SYM" then some "<$\x7bSYM\x7d>" else none
    substitute environment "$\x7bSYM $\x7b\x7d" = "$\x7bSYM $\x7b\x7d" ∧
      substitute environment ("$\x7b\x7d$" ++ name.placeholder ++ "\x7d") =
        "$\x7b\x7d$<$\x7bSYM\x7d>\x7d" := by
  intro name environment
  constructor
  · apply texts_are_filled_in_one_pass.1
    intro front other back parts
    have different : other.text ≠ "SYM" := by
      intro equal
      have within : written "SYM".toList <:+: "$\x7bSYM $\x7b\x7d".toList :=
        ⟨front.toList, back.toList, by simp [parts, equal]⟩
      exact absurd within (by decide)
    exact if_neg different
  · have pass := texts_are_filled_in_one_pass.2.1 environment "$\x7b\x7d$" name "\x7d" (by decide)
    have brace : substitute environment "\x7d" = "\x7d" := by
      have plain : ¬StartsPlaceholder ['}'] := by decide
      rw [substitute, show "\x7d".toList = ['}'] from rfl, fill_cons environment plain, fill_nil]
    rw [pass, brace]
    decide

end TradeSpeech.Placeholder
