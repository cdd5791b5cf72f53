import Mathlib.Data.List.Nodup
import TradeSpeech.Json.Data
import TradeSpeech.Proofs.Rendering.Objects

/-! # Tags and replies are read back

What is written as JSON data is read as what it was, by its tag or by its members. -/

namespace TradeSpeech

/-! ## Tags

The values of a small type are told apart by their tags, and found by them in the list of all
values. -/

section

variable {α : Type} {all : List α} {tag : α → String}

theorem find?_tag_eq_some_iff (complete : ∀ value, value ∈ all)
    (distinct : (all.map tag).Nodup) {text : String} {value : α} :
    all.find? (fun other => tag other == text) = some value ↔ tag value = text := by
  constructor
  · intro found
    simpa using List.find?_some found
  · intro tagged
    subst tagged
    have isFound : (all.find? fun other => tag other == tag value).isSome = true :=
      List.find?_isSome.mpr ⟨value, complete value, beq_self_eq_true _⟩
    rcases Option.isSome_iff_exists.mp isFound with ⟨other, found⟩
    have same := List.find?_some found
    rw [beq_iff_eq] at same
    rw [found, List.inj_on_of_nodup_map distinct (complete other) (complete value) same]

end

theorem Sentence.Kind.ofTag?_eq_some_iff {text : String} {kind : Kind} :
    ofTag? text = some kind ↔ kind.tag = text :=
  find?_tag_eq_some_iff (fun value => by cases value <;> decide) (by decide)

theorem Format.ofTag?_eq_some_iff {text : String} {format : Format} :
    ofTag? text = some format ↔ format.tag = text :=
  find?_tag_eq_some_iff (fun value => by cases value <;> decide) (by decide)

theorem Symbol.find?_name_eq_some_iff {text : String} {symbol : Symbol} :
    all.find? (fun other => other.name == text) = some symbol ↔ symbol.name = text :=
  find?_tag_eq_some_iff (fun value => by cases value <;> decide) (by decide)

namespace Json

theorem read?_quoted (text : String) : read? (quoted text) = some (.string (some text)) := by
  have opened : skipSpaces (quoted text).toList = (quoted text).toList ++ [] := by
    rw [toList_quoted, List.append_nil]
    rfl
  rw [read?, value_string opened]
  rfl

section

variable {α : Type} {ofTag? : String → Option α} {tag : α → String}

theorem tagged?_eq_some_iff (tells : ∀ {text value}, ofTag? text = some value ↔ tag value = text)
    {written : Value} {value : α} :
    tagged? ofTag? written = some value ↔
      written = .string (some (tag value)) ∨ written = .object [(some (tag value), .null)] := by
  constructor
  · intro found
    unfold tagged? at found
    split at found
    · exact .inl (by rw [tells.mp found])
    · exact .inr (by rw [tells.mp found])
    · cases found
  · intro shape
    rcases shape with rfl | rfl <;> exact tells.mpr rfl

theorem tagged?_read_back (tells : ∀ {text value}, ofTag? text = some value ↔ tag value = text)
    (value : α) : (read? (quoted (tag value))).bind (tagged? ofTag?) = some value := by
  rw [read?_quoted, Option.bind_some]
  exact (tagged?_eq_some_iff tells).mpr (.inl rfl)

end

/-- Kinds of sentence, formats and symbols that are written as JSON strings are read back. -/
theorem tags_are_read_back :
    (∀ kind : Sentence.Kind, (read? (quoted kind.tag)).bind kind? = some kind) ∧
      (∀ format : Format, (read? (quoted format.tag)).bind format? = some format) ∧
      ∀ symbol : Symbol, (read? (quoted symbol.name)).bind symbol? = some symbol :=
  ⟨tagged?_read_back Sentence.Kind.ofTag?_eq_some_iff, tagged?_read_back Format.ofTag?_eq_some_iff,
    tagged?_read_back Symbol.find?_name_eq_some_iff⟩

example : (read? "\x7b\"query_price\": null\x7d").bind kind? = some .queryPrice := by
  decide +kernel

/-! ## Replies -/

theorem reply?_valueOf (entry : Entry) :
    reply? (Rendering.valueOf entry) =
      some ⟨entry.outcome.reply.status, some (entry.outcome.reply.message.getD "")⟩ := rfl

/-- The objects of a transcript can be read as its replies, in order and with silence as an empty
message. -/
theorem replies_are_read_back (transcript : Transcript) :
    ∃ values, read? (Rendering.objects transcript) = some (.array values) ∧
      values.map reply? = transcript.replies.map fun reply =>
        some ⟨reply.status, some (reply.message.getD "")⟩ := by
  refine ⟨_, Rendering.read?_objects transcript, ?_⟩
  rw [Transcript.replies, List.map_map, List.map_map]
  exact List.map_congr_left fun entry _ => reply?_valueOf entry

end Json

end TradeSpeech
