import Mathlib.Data.List.Basic
import TradeSpeech.Settings.Environment

/-! # Finding variables

A variable is found under its name, and under nothing else as long as no name holds an equals
sign. A name that holds one reaches over the sign between a variable and its value. -/

namespace TradeSpeech.Environment

theorem entry_inj {front more key value : List Char} (plain : '=' ∉ front) (plainKey : '=' ∉ key) :
    front ++ '=' :: more = key ++ '=' :: value ↔ key = front ∧ more = value := by
  constructor
  · intro same
    -- Of two texts that end where a sign is, neither goes beyond the end of the other.
    rcases List.append_eq_append_iff.mp same with ⟨between, rfl, behind⟩ | ⟨between, rfl, behind⟩
    all_goals
      cases between with
      | nil => simpa [eq_comm] using behind
      | cons c between =>
          rw [List.cons_append, List.cons.injEq] at behind
          simp [← behind.1] at plain plainKey
  · rintro ⟨rfl, rfl⟩
    rfl

theorem isPrefixOf?_entry {front more key value : List Char} (plain : '=' ∉ front)
    (plainKey : '=' ∉ key) :
    List.isPrefixOf? (front ++ '=' :: more) (key ++ '=' :: value) =
      if key = front then List.isPrefixOf? more value else none := by
  apply Option.ext
  intro rest
  rw [List.isPrefixOf?_eq_some_iff_append_eq, List.append_assoc, List.cons_append,
    entry_inj plain plainKey]
  by_cases same : key = front
  · rw [if_pos same, List.isPrefixOf?_eq_some_iff_append_eq]
    exact and_iff_right same
  · simp [same]

theorem value?_cons (key value name : String) (known : List (String × String)) :
    value? ((key, value) :: known) name =
      ((List.isPrefixOf? (name.toList ++ ['=']) (key.toList ++ '=' :: value.toList)).map
        String.ofList).or (value? known name) := by
  cases found : (List.isPrefixOf? (name.toList ++ ['=']) (entry key value)).map String.ofList with
  | some rest =>
      rw [← entry, found, Option.some_or]
      simp only [value?, List.findSome?_cons, found]
  | none =>
      rw [← entry, found, Option.none_or]
      simp only [value?, List.findSome?_cons, found]

section

variable {known : List (String × String)}

/-- A name with an equals sign in it is found in the value of the variable that the part in front
of the sign names, if that value goes on as the name does. -/
theorem value?_of_sign {name : String} {front back : List Char}
    (keys : ∀ pair ∈ known, '=' ∉ pair.1.toList)
    (parts : name.toList = front ++ '=' :: back) (plain : '=' ∉ front) :
    value? known name = known.findSome? fun (key, value) =>
      if key.toList = front then
        (List.isPrefixOf? (back ++ ['=']) value.toList).map String.ofList
      else none := by
  induction known with
  | nil => rfl
  | cons pair known induction =>
      rcases pair with ⟨key, value⟩
      rw [List.forall_mem_cons] at keys
      rw [value?_cons, induction keys.2, parts, List.append_assoc, List.cons_append,
        isPrefixOf?_entry plain keys.1, List.findSome?_cons]
      by_cases same : key.toList = front
      · simp only [same, if_true]
        cases (List.isPrefixOf? (back ++ ['=']) value.toList).map String.ofList <;> rfl
      · simp only [same, if_false]
        rfl

theorem value?_eq_lookup {name : String} (keys : ∀ pair ∈ known, '=' ∉ pair.1.toList)
    (plain : '=' ∉ name.toList) : value? known name = known.lookup name := by
  induction known with
  | nil => rfl
  | cons pair known induction =>
      rcases pair with ⟨key, value⟩
      rw [List.forall_mem_cons] at keys
      rw [value?_cons, induction keys.2, isPrefixOf?_entry plain keys.1, List.lookup_cons]
      by_cases same : key = name
      · have rest := List.isPrefixOf?_eq_some_iff_append_eq.mpr (List.nil_append value.toList)
        simp [same, rest]
      · have apart : key.toList ≠ name.toList := fun equal => same (String.toList_inj.mp equal)
        have differs : (name == key) = false := beq_false_of_ne (Ne.symm same)
        simp [apart, differs]

end

end TradeSpeech.Environment
