/-! Placeholders for variables of the environment. A placeholder names a
variable between braces after a dollar sign, and gives way to its value. -/

namespace TradeSpeech.Placeholder

/-- The name of the placeholder at the start of a text, and what follows it.
The name is all that stands before the next closing brace, and is not empty. -/
def first? : List Char → Option (List Char × List Char)
  | '$' :: '{' :: rest =>
    match rest.takeWhile (· != '}'), rest.dropWhile (· != '}') with
    | c :: name, _ :: after => some (c :: name, after)
    | _, _ => none
  | _ => none

theorem length_lt_of_first? {text name after : List Char}
    (found : first? text = some (name, after)) : after.length < text.length := by
  unfold first? at found
  split at found
  · rename_i rest
    split at found
    · rename_i c taken brace remaining takes drops
      have shorter := (List.dropWhile_suffix (l := rest) (· != '}')).length_le
      rw [drops] at shorter
      simp only [Option.some.injEq, Prod.mk.injEq] at found
      rw [← found.2]
      simp only [List.length_cons] at shorter ⊢
      omega
    · simp at found
  · simp at found

def written (name : List Char) : List Char :=
  '$' :: '{' :: name ++ ['}']

def opensInVain : List Char → Bool
  | '$' :: '{' :: rest => !rest.contains '}'
  | _ => false

/-- Puts values in place of the placeholders of a text, in one pass from the
left. The placeholder of a variable that is not set stays as it is, and the
value of one that is set is not searched again. Behind an opening that no brace
closes there is nothing more to fill. -/
def fill (environment : String → Option String) (text : List Char) : List Char :=
  match found : first? text with
  | some (name, after) =>
    have _shorter := length_lt_of_first? found
    (match environment (String.ofList name) with
      | some value => value.toList
      | none => written name) ++ fill environment after
  | none =>
    if opensInVain text then text
    else
      match text with
      | [] => []
      | c :: rest => c :: fill environment rest
termination_by text.length

def substitute (environment : String → Option String) (text : String) : String :=
  String.ofList (fill environment text.toList)

def names (text : List Char) : List String :=
  match found : first? text with
  | some (name, after) =>
    have _shorter := length_lt_of_first? found
    String.ofList name :: names after
  | none =>
    if opensInVain text then []
    else
      match text with
      | [] => []
      | _ :: rest => names rest
termination_by text.length

end TradeSpeech.Placeholder
