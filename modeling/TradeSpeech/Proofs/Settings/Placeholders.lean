import Mathlib.Data.List.Infix
import TradeSpeech.Settings.Placeholder

/-! # The placeholders of a text

Read from the left, a text divides into letters and placeholders, whatever the environment holds.
Filling the text replaces these placeholders and keeps the letters. A placeholder is one of the
pieces unless an opening in front of it still stands open. -/

namespace TradeSpeech.Placeholder

/-- The name in a placeholder. Any word of letters, digits and underscores is one, and so is
every other text that holds no closing brace. -/
structure Name where
  text : String
  nonempty : text ≠ ""
  solid : '}' ∉ text.toList

namespace Name

def placeholder (name : Name) : String :=
  String.ofList (written name.text.toList)

@[simp] theorem toList_placeholder (name : Name) :
    name.placeholder.toList = written name.text.toList :=
  String.toList_ofList

def told (environment : String → Option String) (name : Name) : String :=
  (environment name.text).getD name.placeholder

def IsWord (name : Name) : Prop :=
  ∀ c ∈ name.text.toList, c.isAlphanum = true ∨ c = '_'

instance : DecidablePred IsWord := fun name =>
  List.decidableBAll (fun c : Char => c.isAlphanum = true ∨ c = '_') name.text.toList

end Name

inductive Piece
  | letter (c : Char)
  | placeholder (name : Name)

namespace Piece

def text : Piece → String
  | letter c => String.singleton c
  | placeholder name => name.placeholder

def told (environment : String → Option String) : Piece → String
  | letter c => String.singleton c
  | placeholder name => name.told environment

end Piece

def spelled (pieces : List Piece) : String :=
  String.join (pieces.map Piece.text)

def filled (environment : String → Option String) (pieces : List Piece) : String :=
  String.join (pieces.map (Piece.told environment))

@[simp] theorem spelled_cons (piece : Piece) (pieces : List Piece) :
    spelled (piece :: pieces) = piece.text ++ spelled pieces := by
  rw [spelled, List.map_cons, String.join_cons, spelled]

@[simp] theorem filled_cons (environment : String → Option String) (piece : Piece)
    (pieces : List Piece) :
    filled environment (piece :: pieces) = piece.told environment ++ filled environment pieces := by
  rw [filled, List.map_cons, String.join_cons, filled]

def StartsPlaceholder (text : List Char) : Prop :=
  ∃ (name : Name) (after : List Char), text = written name.text.toList ++ after

def StandsOpen (text : List Char) : Prop :=
  ∃ suffix ∈ text.tails, opensInVain suffix = true

instance : DecidablePred StandsOpen := fun text =>
  inferInstanceAs (Decidable (∃ suffix ∈ text.tails, opensInVain suffix = true))

/-- The pieces of a text, taken from the left: a placeholder wherever one starts, otherwise a
letter. -/
inductive Divides : List Char → List Piece → Prop
  | finish : Divides [] []
  | placeholder {after : List Char} {pieces : List Piece} (name : Name)
      (others : Divides after pieces) :
      Divides (written name.text.toList ++ after) (.placeholder name :: pieces)
  | letter {c : Char} {rest : List Char} {pieces : List Piece}
      (plain : ¬StartsPlaceholder (c :: rest)) (others : Divides rest pieces) :
      Divides (c :: rest) (.letter c :: pieces)

/-! ## The placeholder at the start -/

section

variable {text rest after letters : List Char} {c : Char}

theorem first?_written (name : Name) (after : List Char) :
    first? (written name.text.toList ++ after) = some (name.text.toList, after) := by
  have inside : ∀ c ∈ name.text.toList, (c != '}') = true := by
    intro c member
    have different : c ≠ '}' := fun equal => name.solid (equal ▸ member)
    simpa using different
  have taken : (name.text.toList ++ '}' :: after).takeWhile (· != '}') = name.text.toList := by
    simp [List.takeWhile_append_of_pos inside]
  have left : (name.text.toList ++ '}' :: after).dropWhile (· != '}') = '}' :: after := by
    simp [List.dropWhile_append_of_pos inside]
  have letters : name.text.toList ≠ [] := by simpa using name.nonempty
  rcases List.exists_cons_of_ne_nil letters with ⟨c, others, parts⟩
  rw [parts] at taken left
  simp only [List.cons_append] at taken left
  simp [first?, written, parts, taken, left]

theorem exists_of_first? (found : first? text = some (letters, after)) :
    ∃ name : Name, name.text.toList = letters ∧ text = written letters ++ after := by
  unfold first? at found
  split at found
  · rename_i rest
    split at found
    · rename_i c taken brace remaining takes drops
      simp only [Option.some.injEq, Prod.mk.injEq] at found
      rcases found with ⟨rfl, rfl⟩
      have solid : '}' ∉ c :: taken := by
        rw [← takes]
        intro member
        simpa using List.all_eq_true.mp List.all_takeWhile _ member
      have closing : brace = '}' := by
        have stopped := List.head?_dropWhile_not (· != '}') rest
        rw [drops] at stopped
        simpa using stopped
      have parts := List.takeWhile_append_dropWhile (p := (· != '}')) (l := rest)
      rw [takes, drops, closing] at parts
      refine ⟨⟨String.ofList (c :: taken), by simp, by simpa using solid⟩, by simp, ?_⟩
      simp [written, ← parts]
    · simp at found
  · simp at found

theorem isSome_first?_iff : (first? text).isSome = true ↔ StartsPlaceholder text := by
  constructor
  · intro starts
    rcases Option.isSome_iff_exists.mp starts with ⟨⟨letters, after⟩, found⟩
    rcases exists_of_first? found with ⟨name, rfl, parts⟩
    exact ⟨name, after, parts⟩
  · rintro ⟨name, after, rfl⟩
    rw [first?_written, Option.isSome_some]

instance : DecidablePred StartsPlaceholder := fun _ =>
  decidable_of_iff _ isSome_first?_iff

/-! ## One step of filling -/

theorem first?_eq_none (plain : ¬StartsPlaceholder text) : first? text = none := by
  rw [← isSome_first?_iff] at plain
  simpa using plain

theorem not_startsPlaceholder (solid : '}' ∉ text) : ¬StartsPlaceholder text := by
  rintro ⟨name, after, rfl⟩
  simp [written] at solid

variable (environment : String → Option String)

@[simp] theorem fill_nil : fill environment [] = [] := by
  rw [fill]
  rfl

theorem fill_of_first? (found : first? text = some (letters, after)) :
    fill environment text =
      (match environment (String.ofList letters) with
        | some value => value.toList
        | none => written letters) ++ fill environment after := by
  rw [fill]
  split
  · rename_i others
    rw [found] at others
    cases others
    rfl
  · rename_i none
    rw [found] at none
    cases none

theorem fill_of_first?_none (none : first? (c :: rest) = none) :
    fill environment (c :: rest) =
      if opensInVain (c :: rest) then c :: rest else c :: fill environment rest := by
  rw [fill]
  split
  · rename_i found
    rw [none] at found
    cases found
  · rfl

theorem fill_written (name : Name) (after : List Char) :
    fill environment (written name.text.toList ++ after) =
      (name.told environment).toList ++ fill environment after := by
  rw [fill_of_first? environment (first?_written name after), String.ofList_toList, Name.told]
  cases environment name.text <;> simp

theorem fill_of_solid (solid : '}' ∉ text) : fill environment text = text := by
  induction text with
  | nil => exact fill_nil environment
  | cons c rest induction =>
      have later := induction fun member => solid (List.mem_cons_of_mem c member)
      rw [fill_of_first?_none environment (first?_eq_none (not_startsPlaceholder solid)), later,
        ite_self]

theorem solid_of_opensInVain (vain : opensInVain (c :: rest) = true) : '}' ∉ rest := by
  unfold opensInVain at vain
  split at vain
  · rename_i inside equal
    injection equal with _ parts
    simpa [parts] using vain
  · cases vain

theorem fill_cons (plain : ¬StartsPlaceholder (c :: rest)) :
    fill environment (c :: rest) = c :: fill environment rest := by
  rw [fill_of_first?_none environment (first?_eq_none plain)]
  split
  · rename_i vain
    rw [fill_of_solid environment (solid_of_opensInVain vain)]
  · rfl

theorem fill_append {front : List Char}
    (plain : ∀ place < front.length, ¬StartsPlaceholder ((front ++ text).drop place)) :
    fill environment (front ++ text) = front ++ fill environment text := by
  induction front with
  | nil => rfl
  | cons c front induction =>
      have starts : ¬StartsPlaceholder (c :: (front ++ text)) := plain 0 (by simp)
      have later : ∀ place < front.length, ¬StartsPlaceholder ((front ++ text).drop place) := by
        intro place within
        exact plain (place + 1) (by simpa using within)
      rw [List.cons_append, fill_cons environment starts, induction later, List.cons_append]

end

/-! ## The pieces of a text -/

namespace Divides

variable {text : List Char} {pieces : List Piece}

theorem spelled_eq (divides : Divides text pieces) : spelled pieces = String.ofList text := by
  induction divides with
  | finish => rfl
  | placeholder name _ induction =>
      rw [spelled_cons, induction, String.ofList_append]
      rfl
  | letter _ _ induction =>
      rw [spelled_cons, induction, ← String.toList_inj]
      simp [Piece.text]

theorem filled_eq (divides : Divides text pieces) (environment : String → Option String) :
    filled environment pieces = String.ofList (fill environment text) := by
  induction divides with
  | finish => simp [filled]
  | placeholder name _ induction =>
      rw [filled_cons, induction, fill_written, String.ofList_append, String.ofList_toList]
      rfl
  | letter plain _ induction =>
      rw [filled_cons, induction, fill_cons environment plain, ← String.toList_inj]
      simp [Piece.told]

end Divides

theorem exists_divides (text : List Char) : ∃ pieces, Divides text pieces := by
  by_cases starts : StartsPlaceholder text
  · rcases starts with ⟨name, after, rfl⟩
    have shorter := length_lt_of_first? (first?_written name after)
    rcases exists_divides after with ⟨pieces, others⟩
    exact ⟨_, .placeholder name others⟩
  · cases text with
    | nil => exact ⟨[], .finish⟩
    | cons c rest =>
        rcases exists_divides rest with ⟨pieces, others⟩
        exact ⟨_, .letter starts others⟩
termination_by text.length

theorem spelled_append_cons (before after : List Piece) (name : Name) :
    spelled (before ++ .placeholder name :: after) =
      spelled before ++ name.placeholder ++ spelled after := by
  simp [spelled, Piece.text, String.append_assoc]

theorem filled_eq_spelled {environment : String → Option String} {pieces : List Piece}
    (unset : ∀ name, .placeholder name ∈ pieces → environment name.text = none) :
    filled environment pieces = spelled pieces := by
  have stays : ∀ piece ∈ pieces, piece.told environment = piece.text := by
    intro piece member
    cases piece with
    | letter c => rfl
    | placeholder name =>
        rw [Piece.told, Name.told, unset name member]
        rfl
  rw [filled, spelled, List.map_congr_left stays]

/-! ## Openings in front of a placeholder -/

theorem standsOpen_opening {inside : List Char} (solid : '}' ∉ inside) :
    StandsOpen ('$' :: '{' :: inside) :=
  ⟨'$' :: '{' :: inside, by simp, by simp [opensInVain, solid]⟩

theorem StandsOpen.append {text : List Char} (opened : StandsOpen text) (front : List Char) :
    StandsOpen (front ++ text) := by
  rcases opened with ⟨suffix, member, vain⟩
  rw [List.mem_tails] at member
  have longer := member.trans (List.suffix_append front text)
  exact ⟨suffix, (List.mem_tails _ _).mpr longer, vain⟩

/-- What stands in front of a dollar sign inside a placeholder is an opening that stands open. -/
theorem standsOpen_of_written {name : Name} {front behind : List Char} (begun : front ≠ [])
    (parts : written name.text.toList = front ++ '$' :: behind) : StandsOpen front := by
  rcases List.exists_cons_of_ne_nil begun with ⟨c, front, rfl⟩
  simp only [written, List.cons_append, List.cons.injEq] at parts
  rcases parts with ⟨rfl, parts⟩
  cases front with
  | nil => simp at parts
  | cons d inside =>
      simp only [List.cons_append, List.cons.injEq] at parts
      rcases parts with ⟨rfl, parts⟩
      apply standsOpen_opening
      intro closed
      rcases List.append_eq_append_iff.mp parts with ⟨more, rfl, ending⟩ | ⟨more, equal, _⟩
      · -- The placeholder ends with its only brace, so nothing is left of it here.
        rcases more with _ | ⟨e, more⟩ <;> simp at ending
      · exact name.solid (by simp [equal, closed])

theorem written_append_inj {name other : Name} {after later : List Char}
    (same : written name.text.toList ++ after = written other.text.toList ++ later) :
    name = other ∧ after = later := by
  have found := congrArg first? same
  rw [first?_written, first?_written] at found
  simp only [Option.some.injEq, Prod.mk.injEq, String.toList_inj] at found
  rcases name with ⟨name, _, _⟩
  rcases other with ⟨other, _, _⟩
  rcases found with ⟨rfl, rfl⟩
  exact ⟨rfl, rfl⟩

/-- Of two placeholders in a text, the second does not start inside the first unless the first
stands open in front of it. -/
theorem eq_nil_or_exists_of_append {name other : Name} {front back after : List Char}
    (closed : ¬StandsOpen front)
    (same : written other.text.toList ++ after = front ++ (written name.text.toList ++ back)) :
    front = [] ∨ ∃ more, front = written other.text.toList ++ more ∧
      after = more ++ (written name.text.toList ++ back) := by
  rcases List.append_eq_append_iff.mp same with ⟨more, parts, rest⟩ | ⟨more, parts, rest⟩
  · exact .inr ⟨more, parts, rest⟩
  · cases more with
    | nil => exact .inr ⟨[], by simpa using parts.symm, by simpa using rest.symm⟩
    | cons c behind =>
        have dollar : c = '$' := (List.cons.inj rest).1.symm
        rw [dollar] at parts
        -- The second placeholder starts at a dollar sign of the first.
        by_contra neither
        exact closed (standsOpen_of_written (fun none => neither (.inl none)) parts)

theorem Divides.exists_cut {text front back : List Char} {pieces : List Piece} {name : Name}
    (divides : Divides text pieces) (parts : text = front ++ (written name.text.toList ++ back))
    (closed : ¬StandsOpen front) :
    ∃ before after, pieces = before ++ .placeholder name :: after ∧ Divides front before ∧
      Divides back after := by
  induction divides generalizing front with
  | finish => simp [written] at parts
  | placeholder other others induction =>
      -- The placeholder that is read first is the one that is looked for, or ends in front of it.
      rcases eq_nil_or_exists_of_append closed parts with rfl | ⟨more, rfl, rest⟩
      · rcases written_append_inj parts with ⟨rfl, rfl⟩
        exact ⟨[], _, rfl, .finish, others⟩
      · rcases induction rest fun opened => closed (opened.append _) with
          ⟨before, after, rfl, left, right⟩
        exact ⟨.placeholder other :: before, after, rfl, .placeholder other left, right⟩
  | letter plain others induction =>
      cases front with
      | nil => exact absurd ⟨name, back, parts⟩ plain
      | cons d front =>
          simp only [List.cons_append, List.cons.injEq] at parts
          rcases parts with ⟨rfl, parts⟩
          have behind : ¬StandsOpen front := fun opened => closed (opened.append [_])
          rcases induction parts behind with ⟨before, after, rfl, left, right⟩
          refine ⟨.letter _ :: before, after, rfl, .letter ?_ left, right⟩
          rintro ⟨other, later, starts⟩
          exact plain ⟨other, later ++ (written name.text.toList ++ back), by
            rw [parts, ← List.cons_append, starts, List.append_assoc]⟩

end TradeSpeech.Placeholder
