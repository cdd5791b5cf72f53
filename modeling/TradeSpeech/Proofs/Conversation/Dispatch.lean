import TradeSpeech.Proofs.Conversation.Precedence
import TradeSpeech.Proofs.Sentence.Recognition

/-! # Who hears a line

At most one of the standard rules recognises a line. What hearing a line does is
therefore settled by the rule that recognises it, wherever the rule stands. -/

namespace TradeSpeech

open Sentence (Kind Form AliasDefinition PriceDefinition ValueQuestion PriceQuestion)

/-! ## Hearing with any rules -/

section

variable {rules : List Rule} {line : String}

theorem hear_of_recognise {rule : Rule} {action : Action} (session : Session)
    (member : rule ∈ rules) (found : rule.recognise line = some action)
    (only : ∀ other ∈ rules, (other.recognise line).isSome = true → other = rule) :
    hear rules session line =
      ((action session).1, .ofAnswer rule.kind (action session).2) := by
  rcases exists_actionOf?_eq_some member found with ⟨other, otherAction, otherMember, heard, first⟩
  have same := only other otherMember (Option.isSome_of_mem heard)
  subst same
  rw [found] at heard
  cases heard
  rw [hear_eq_of_actionOf?, first]

theorem hear_of_unrecognised (session : Session)
    (none : ∀ rule ∈ rules, rule.recognise line = none) :
    hear rules session line = (session, .unrecognized) := by
  rw [hear_eq_of_actionOf?, actionOf?_eq_none_iff.mpr none]

end

/-! ## Hearing with the standard rules -/

namespace Rule

@[simp] theorem kind_ofKind (kind : Kind) : (ofKind kind).kind = kind := by
  cases kind <;> rfl

theorem mem_standard_iff {rule : Rule} : rule ∈ standard ↔ ∃ kind, rule = ofKind kind := by
  constructor
  · intro member
    simp only [standard, List.mem_cons, List.not_mem_nil, or_false] at member
    rcases member with rfl | rfl | rfl | rfl
    · exact ⟨.defineAlias, rfl⟩
    · exact ⟨.definePrice, rfl⟩
    · exact ⟨.queryValue, rfl⟩
    · exact ⟨.queryPrice, rfl⟩
  · intro isKind
    rcases isKind with ⟨kind, rfl⟩
    cases kind <;> simp [standard, ofKind]

section

variable {form : Form σ} {say : σ → Action} {kind : Kind} {line : String}

theorem recognise_ofForm :
    (ofForm kind form say).recognise line = (form.read? line).map say := rfl

theorem recognise_ofForm_of_unread (unread : form.read? line = none) :
    (ofForm kind form say).recognise line = none := by
  rw [recognise_ofForm, unread, Option.map_none]

theorem isSome_recognise_ofForm :
    ((ofForm kind form say).recognise line).isSome =
      (form.pattern.find line.toList).isSome := by
  rw [recognise_ofForm, Option.isSome_map, form.isSome_read?]

theorem tellKind_of_recognise_ofForm {action : Action}
    (tells : ∀ {sentence}, form.read? line = some sentence → Sentence.tellKind line = kind)
    (found : (ofForm kind form say).recognise line = some action) :
    Sentence.tellKind line = kind := by
  rw [recognise_ofForm, Option.map_eq_some_iff] at found
  rcases found with ⟨sentence, read, _⟩
  exact tells read

end

theorem isSome_recognise (kind : Kind) (line : String) :
    ((ofKind kind).recognise line).isSome = (kind.pattern.find line.toList).isSome := by
  cases kind with
  | defineAlias | definePrice | queryValue | queryPrice => exact isSome_recognise_ofForm

theorem tellKind_of_recognise {kind : Kind} {line : String} {action : Action}
    (found : (ofKind kind).recognise line = some action) : Sentence.tellKind line = kind := by
  cases kind with
  | defineAlias => exact tellKind_of_recognise_ofForm AliasDefinition.tellKind_eq found
  | definePrice => exact tellKind_of_recognise_ofForm PriceDefinition.tellKind_eq found
  | queryValue => exact tellKind_of_recognise_ofForm ValueQuestion.tellKind_eq found
  | queryPrice => exact tellKind_of_recognise_ofForm PriceQuestion.tellKind_eq found

theorem kind_eq_of_isSome_recognise {kind other : Kind} {line : String}
    (found : ((ofKind kind).recognise line).isSome = true)
    (otherFound : ((ofKind other).recognise line).isSome = true) : kind = other := by
  rcases Option.isSome_iff_exists.mp found with ⟨action, recognised⟩
  rcases Option.isSome_iff_exists.mp otherFound with ⟨otherAction, otherRecognised⟩
  exact (tellKind_of_recognise recognised).symm.trans (tellKind_of_recognise otherRecognised)

theorem eq_of_recognise {kind : Kind} {line : String}
    (found : ((ofKind kind).recognise line).isSome = true) :
    ∀ other ∈ standard, (other.recognise line).isSome = true → other = ofKind kind := by
  intro other member otherFound
  rcases mem_standard_iff.mp member with ⟨otherKind, rfl⟩
  rw [kind_eq_of_isSome_recognise found otherFound]

end Rule

section

variable {rules : List Rule} {line : String}

theorem hear_of_perm_of_recognise {kind : Kind} {action : Action}
    (perm : rules.Perm Rule.standard) (session : Session)
    (found : (Rule.ofKind kind).recognise line = some action) :
    hear rules session line = ((action session).1, .ofAnswer kind (action session).2) := by
  have member : Rule.ofKind kind ∈ rules :=
    perm.mem_iff.mpr (Rule.mem_standard_iff.mpr ⟨kind, rfl⟩)
  have only : ∀ other ∈ rules, (other.recognise line).isSome = true →
      other = Rule.ofKind kind :=
    fun other otherMember =>
      Rule.eq_of_recognise (Option.isSome_of_mem found) other (perm.mem_iff.mp otherMember)
  rw [hear_of_recognise session member found only, Rule.kind_ofKind]

theorem hear_of_perm_of_unrecognised (perm : rules.Perm Rule.standard) (session : Session)
    (none : ∀ kind, (Rule.ofKind kind).recognise line = none) :
    hear rules session line = (session, .unrecognized) := by
  apply hear_of_unrecognised
  intro rule member
  rcases Rule.mem_standard_iff.mp (perm.mem_iff.mp member) with ⟨kind, rfl⟩
  exact none kind

theorem hear_of_perm (perm : rules.Perm Rule.standard) (session : Session) (line : String) :
    hear rules session line = hear Rule.standard session line := by
  by_cases recognised : ∃ kind, ((Rule.ofKind kind).recognise line).isSome = true
  · rcases recognised with ⟨kind, found⟩
    rcases Option.isSome_iff_exists.mp found with ⟨action, found⟩
    rw [hear_of_perm_of_recognise perm session found,
      hear_of_perm_of_recognise (.refl _) session found]
  · have none : ∀ kind, (Rule.ofKind kind).recognise line = Option.none := by
      intro kind
      rw [← Option.not_isSome_iff_eq_none]
      intro found
      exact recognised ⟨kind, found⟩
    rw [hear_of_perm_of_unrecognised perm session none,
      hear_of_perm_of_unrecognised (.refl _) session none]

end

/-- At most one form matches a line, and the order in which the standard rules are
tried makes no difference to a line or to a text. -/
theorem forms_exclusive_in_any_order :
    (∀ (line : String) (kind other : Kind), (kind.pattern.find line.toList).isSome = true →
      (other.pattern.find line.toList).isSome = true → kind = other) ∧
    ∀ rules : List Rule, rules.Perm Rule.standard →
      (∀ session line, hear rules session line = hear Rule.standard session line) ∧
      ∀ session text, hearText rules session text = hearText Rule.standard session text := by
  constructor
  · intro line kind other found otherFound
    rw [← Rule.isSome_recognise] at found otherFound
    exact Rule.kind_eq_of_isSome_recognise found otherFound
  · intro rules perm
    constructor
    · exact hear_of_perm perm
    · intro session text
      have sameHearing : hear rules = hear Rule.standard := by
        funext session line
        exact hear_of_perm perm session line
      rw [hearText, hearText, sameHearing]

/-- The rules in reverse order hear a question for a price as the standard rules do. -/
theorem forms_exclusive_in_any_order_reversed :
    Rule.standard.reverse.Perm Rule.standard ∧
      (Kind.queryPrice.pattern.find "how many Credits is glob ??".toList).isSome = true ∧
      (Kind.queryValue.pattern.find "how many Credits is glob ??".toList).isSome = false ∧
      hear Rule.standard.reverse ∅ "how many Credits is glob ??" =
        hear Rule.standard ∅ "how many Credits is glob ??" := by
  have perm : Rule.standard.reverse.Perm Rule.standard := List.reverse_perm Rule.standard
  have found : (Kind.queryPrice.pattern.find "how many Credits is glob ??".toList).isSome =
      true := by decide
  refine ⟨perm, found, ?_, (forms_exclusive_in_any_order.2 _ perm).1 ∅ _⟩
  rw [Bool.eq_false_iff]
  intro otherFound
  have same := forms_exclusive_in_any_order.1 _ _ _ found otherFound
  cases same

end TradeSpeech
