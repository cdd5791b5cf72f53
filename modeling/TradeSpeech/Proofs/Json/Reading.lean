import Mathlib.Data.List.DropRight
import Mathlib.Tactic.SplitIfs
import TradeSpeech.Json.Reader
import TradeSpeech.Json.Writer

/-! # What a JSON text is read as

A string that has been written is read as its text, and a value is read no further than it goes:
what stands behind it is left for the next reader. -/

namespace TradeSpeech.Json

open Text (hexNumber?)

/-! ## Strings -/

theorem hexNumber?_control {number : Nat} (control : number < 0x20) :
    hexNumber? ['0', '0', hexDigit (number / 16), hexDigit (number % 16)] = some number := by
  have each : ∀ number : Fin 0x20,
      hexNumber? ['0', '0', hexDigit (number.val / 16), hexDigit (number.val % 16)] =
        some number.val := by decide
  exact each ⟨number, control⟩

theorem stringBody_letter {letter c : Char} (stands : shortEscape? letter = some c)
    (rest : List Char) :
    stringBody ('\\' :: letter :: rest) =
      (stringBody rest).map fun (points, after) => (c.toNat :: points, after) := by
  have notNumeric : letter ≠ 'u' := by
    rintro rfl
    cases stands
  simp [stringBody, notNumeric, stands]

theorem stringBody_escaped (c : Char) (rest : List Char) :
    stringBody (escaped c ++ rest) =
      (stringBody rest).map fun (points, after) => (c.toNat :: points, after) := by
  unfold escaped
  split_ifs with quote backslash backspace tab lineFeed formFeed carriageReturn control
  any_goals
    subst c
    exact stringBody_letter rfl rest
  · simp [stringBody, hexNumber?_control control]
  · simp [stringBody, backslash, control]

theorem stringBody_quoted (text rest : List Char) :
    stringBody (text.flatMap escaped ++ '"' :: rest) = some (text.map Char.toNat, rest) := by
  induction text with
  | nil => simp [stringBody]
  | cons c text induction => simp [stringBody_escaped, induction]

theorem not_isSurrogate_toNat (c : Char) :
    isHighSurrogate c.toNat = false ∧ isLowSurrogate c.toNat = false := by
  have valid : c.toNat < 0xD800 ∨ 0xDFFF < c.toNat ∧ c.toNat < 0x110000 := c.valid
  simp only [isHighSurrogate, isLowSurrogate, Bool.and_eq_false_iff, decide_eq_false_iff_not]
  omega

theorem spelled?_toNat (text : List Char) : spelled? (text.map Char.toNat) = some text := by
  induction text with
  | nil => rfl
  | cons c text induction =>
      rw [List.map_cons, spelled?.eq_def]
      simp [not_isSurrogate_toNat, induction]

theorem toList_quoted (text : String) :
    (quoted text).toList = '"' :: (text.toList.flatMap escaped ++ ['"']) := by
  simp [quoted]

theorem stringText_quoted (text : String) (rest : List Char) :
    stringText (text.toList.flatMap escaped ++ '"' :: rest) = some (some text, rest) := by
  simp [stringText, stringBody_quoted, spelled?_toNat]

/-! ## Values

Blanks may stand in front of a value or a part of it, so a text is described by what is left of
it without them. -/

section

variable {size fuel : Nat} {text rest after : List Char}

theorem value_string {content : String}
    (written : skipSpaces text = (quoted content).toList ++ rest) :
    value (size + 1) text = some (.string (some content), rest) := by
  rw [toList_quoted] at written
  simp [value, written, stringText_quoted]

theorem value_boolean {truth : Bool}
    (written : skipSpaces text = (if truth then "true" else "false").toList ++ rest) :
    value (size + 1) text = some (.boolean truth, rest) := by
  cases truth <;> simp [value, written]

theorem skipSpaces_cons {c : Char} (blank : isSpace c = true) (text : List Char) :
    skipSpaces (c :: text) = skipSpaces text :=
  List.dropWhile_cons_of_pos blank

theorem skipSpaces_skipSpaces (text : List Char) :
    skipSpaces (skipSpaces text) = skipSpaces text :=
  List.dropWhile_idempotent isSpace text

theorem value_skipSpaces (size : Nat) (text : List Char) :
    value size (skipSpaces text) = value size text := by
  cases size with
  | zero => rfl
  | succ size => simp only [value, skipSpaces_skipSpaces]

theorem items_skipSpaces (size fuel : Nat) (text : List Char) :
    items (value size) fuel (skipSpaces text) = items (value size) fuel text := by
  cases fuel with
  | zero => rfl
  | succ fuel => simp only [items, value_skipSpaces]

theorem members_skipSpaces (item : List Char → Option (Value × List Char)) (fuel : Nat)
    (text : List Char) : members item fuel (skipSpaces text) = members item fuel text := by
  cases fuel with
  | zero => rfl
  | succ fuel => simp only [members, skipSpaces_skipSpaces]

theorem value_array {values : List Value} (opened : skipSpaces text = '[' :: rest)
    (filled : (skipSpaces rest).head? ≠ some ']')
    (read : items (value size) size rest = some (values, after)) :
    value (size + 1) text = some (.array values, after) := by
  rw [← items_skipSpaces] at read
  simp only [value, opened]
  split
  · rename_i closed
    rw [closed] at filled
    cases filled rfl
  · simp [read]

theorem value_object {found : List (Option String × Value)}
    (opened : skipSpaces text = '\x7b' :: rest) (filled : (skipSpaces rest).head? ≠ some '\x7d')
    (read : members (value size) size rest = some (found, after)) :
    value (size + 1) text = some (.object found, after) := by
  rw [← members_skipSpaces] at read
  simp only [value, opened]
  split
  · rename_i closed
    rw [closed] at filled
    cases filled rfl
  · simp [read]

variable {item : List Char → Option (Value × List Char)} {first : Value} {behind : List Char}

theorem items_cons {values : List Value} (read : item text = some (first, rest))
    (continued : skipSpaces rest = ',' :: after)
    (later : items item fuel after = some (values, behind)) :
    items item (fuel + 1) text = some (first :: values, behind) := by
  simp [items, read, continued, later]

theorem items_last (read : item text = some (first, rest))
    (closed : skipSpaces rest = ']' :: after) :
    items item (fuel + 1) text = some ([first], after) := by
  simp [items, read, closed]

variable {name : String} {written : List Char}

theorem members_cons {found : List (Option String × Value)}
    (named : skipSpaces text = (quoted name).toList ++ ':' :: written)
    (read : item written = some (first, rest)) (continued : skipSpaces rest = ',' :: after)
    (later : members item fuel after = some (found, behind)) :
    members item (fuel + 1) text = some ((some name, first) :: found, behind) := by
  have colon : skipSpaces (':' :: written) = ':' :: written := rfl
  rw [toList_quoted] at named
  simp [members, named, stringText_quoted, colon, read, continued, later]

theorem members_last (named : skipSpaces text = (quoted name).toList ++ ':' :: written)
    (read : item written = some (first, rest)) (closed : skipSpaces rest = '\x7d' :: after) :
    members item (fuel + 1) text = some ([(some name, first)], after) := by
  have colon : skipSpaces (':' :: written) = ':' :: written := rfl
  rw [toList_quoted] at named
  simp [members, named, stringText_quoted, colon, read, closed]

end

end TradeSpeech.Json
