import TradeSpeech.Proofs.Json.Reading
import TradeSpeech.Rendering.Format

/-! # Transcripts are read back from JSON

The array of a transcript has one object for each line, in order. It shows the line, the status
and the message, whatever characters they hold. -/

namespace TradeSpeech

open Json (Value quoted skipSpaces)

namespace Rendering

def valueOf (entry : Entry) : Value :=
  .object [(some "line", .string (some entry.line)),
    (some "status", .boolean entry.outcome.reply.status),
    (some "message", .string (some (entry.outcome.reply.message.getD "")))]

/-! ## Objects -/

def memberText (name : String) (content rest : List Char) : List Char :=
  "\n    ".toList ++ ((quoted name).toList ++ ':' :: ' ' :: (content ++ rest))

theorem toList_object (row : Row) (rest : List Char) :
    (object row).toList ++ rest = ' ' :: ' ' :: '\x7b' ::
      memberText "line" (quoted row.line).toList (',' ::
        memberText "status" (statusText row.status).toList (',' ::
          memberText "message" (quoted row.message).toList ("\n  \x7d".toList ++ rest))) := by
  have line : "  \x7b\n    \"line\": ".toList =
      ' ' :: ' ' :: '\x7b' :: ("\n    ".toList ++ ((quoted "line").toList ++ [':', ' '])) := by
    decide
  have status : ",\n    \"status\": ".toList =
      ',' :: ("\n    ".toList ++ ((quoted "status").toList ++ [':', ' '])) := by
    decide
  have message : ",\n    \"message\": ".toList =
      ',' :: ("\n    ".toList ++ ((quoted "message").toList ++ [':', ' '])) := by
    decide
  unfold object
  simp only [String.toList_append, line, status, message, memberText, List.append_assoc,
    List.cons_append, List.nil_append]

theorem skipSpaces_memberText (name : String) (content rest : List Char) :
    skipSpaces (memberText name content rest) =
      (quoted name).toList ++ ':' :: ' ' :: (content ++ rest) := by
  rw [memberText, Json.toList_quoted]
  rfl

theorem value_text (size : Nat) (text : String) (rest : List Char) :
    Json.value (size + 1) (' ' :: ((quoted text).toList ++ rest)) =
      some (.string (some text), rest) := by
  apply Json.value_string
  rw [Json.toList_quoted]
  rfl

theorem value_statusText (size : Nat) (status : Bool) (rest : List Char) :
    Json.value (size + 1) (' ' :: ((statusText status).toList ++ rest)) =
      some (.boolean status, rest) := by
  apply Json.value_boolean
  cases status <;> rfl

theorem value_object (size : Nat) (entry : Entry) (rest : List Char) :
    Json.value (size + 4) ((object (Row.ofEntry entry)).toList ++ rest) =
      some (valueOf entry, rest) := by
  rw [toList_object]
  apply Json.value_object rfl
  · rw [skipSpaces_memberText, Json.toList_quoted]
    simp
  · apply Json.members_cons (skipSpaces_memberText ..) (value_text ..) rfl
    apply Json.members_cons (skipSpaces_memberText ..) (value_statusText ..) rfl
    exact Json.members_last (skipSpaces_memberText ..) (value_text ..) rfl

/-! ## Arrays -/

def laterObjects (transcript : Transcript) : String :=
  String.join ((rows transcript).map fun row => ",\n" ++ object row)

theorem toList_laterObjects_cons (entry : Entry) (later : Transcript) :
    (laterObjects (entry :: later)).toList =
      ',' :: '\n' :: ((object (Row.ofEntry entry)).toList ++ (laterObjects later).toList) := by
  have separated : ",\n".toList = [',', '\n'] := by decide
  rw [laterObjects, rows, List.map_cons, List.map_cons, String.join_cons, String.toList_append,
    String.toList_append, separated]
  rfl

theorem length_le_laterObjects (transcript : Transcript) :
    transcript.length ≤ (laterObjects transcript).toList.length := by
  induction transcript with
  | nil => exact Nat.zero_le _
  | cons entry later induction =>
      rw [toList_laterObjects_cons]
      simp only [List.length_cons, List.length_append]
      omega

theorem items_objects {size fuel : Nat} (first : Entry) (later : Transcript)
    (enough : later.length < fuel) (rest : List Char) :
    Json.items (Json.value (size + 4)) fuel ((object (Row.ofEntry first)).toList ++
        ((laterObjects later).toList ++ '\n' :: ']' :: rest)) =
      some (valueOf first :: later.map valueOf, rest) := by
  -- Each object takes one of the reader's steps, so their number is general in the induction.
  induction later generalizing first fuel with
  | nil =>
      cases fuel with
      | zero => cases enough
      | succ fuel => exact Json.items_last (value_object size first _) rfl
  | cons second later induction =>
      cases fuel with
      | zero => cases enough
      | succ fuel =>
          have read := induction second (Nat.lt_of_succ_lt_succ enough)
          rw [← Json.items_skipSpaces] at read
          rw [toList_laterObjects_cons]
          simp only [List.cons_append, List.append_assoc]
          apply Json.items_cons (value_object size first _) rfl
          rw [← Json.items_skipSpaces, Json.skipSpaces_cons rfl]
          exact read

theorem toList_objects_cons (first : Entry) (later : Transcript) :
    (objects (first :: later)).toList = '[' :: '\n' :: ((object (Row.ofEntry first)).toList ++
      ((laterObjects later).toList ++ '\n' :: ']' :: ['\n'])) := by
  have opening : "[\n".toList = ['[', '\n'] := by decide
  have closing : "\n]\n".toList = ['\n', ']', '\n'] := by decide
  change ("[\n" ++ object (Row.ofEntry first) ++ laterObjects later ++ "\n]\n").toList = _
  simp only [String.toList_append, opening, closing, List.append_assoc, List.cons_append,
    List.nil_append]

/-- An array is long enough for the size that it is read with. -/
theorem exists_length_objects_cons (first : Entry) (later : Transcript) :
    ∃ size, (objects (first :: later)).length = size + 4 ∧ later.length < size + 4 := by
  have bound := length_le_laterObjects later
  have length_eq : (objects (first :: later)).length =
      (objects (first :: later)).toList.length := String.length_toList.symm
  rw [toList_objects_cons] at length_eq
  simp only [List.length_cons, List.length_append] at length_eq
  refine ⟨(objects (first :: later)).length - 4, ?_, ?_⟩ <;> omega

theorem read?_objects (transcript : Transcript) :
    Json.read? (objects transcript) = some (.array (transcript.map valueOf)) := by
  cases transcript with
  | nil => rfl
  | cons first later =>
      rcases exists_length_objects_cons first later with ⟨size, length_eq, enough⟩
      have read : Json.value (size + 4 + 1) (objects (first :: later)).toList =
          some (.array ((first :: later).map valueOf), ['\n']) := by
        rw [toList_objects_cons]
        apply Json.value_array rfl
        · rw [toList_object]
          change some '\x7b' ≠ some ']'
          decide
        · rw [← Json.items_skipSpaces, Json.skipSpaces_cons rfl, Json.items_skipSpaces]
          exact items_objects first later enough _
      rw [Json.read?, length_eq, read]
      rfl

end Rendering

/-- Every transcript can be written as JSON, and its lines, their statuses and their messages are
read back from the text. -/
theorem objects_are_read_back (separator : String) (transcript : Transcript) :
    ∃ output, Format.json.present separator transcript = .ok output ∧
      Json.read? output = some (.array (transcript.map Rendering.valueOf)) :=
  ⟨_, rfl, Rendering.read?_objects transcript⟩

end TradeSpeech
