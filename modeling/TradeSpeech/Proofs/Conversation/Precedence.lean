import TradeSpeech.Conversation

/-! # Which rule hears a line

Rules are asked in turn, and the first one that recognises a line hears it, whatever comes of
it. Rules that do not recognise the line might as well not be there. -/

namespace TradeSpeech

open Sentence (Kind)

/-! ## Errors -/

inductive Error.IsSpeakers : Error → Prop
  | malformedNumeral (numeral : String) (fault : Numeral.Fault) :
      IsSpeakers (.malformedNumeral numeral fault)
  | notASingleSymbol (token : String) : IsSpeakers (.notASingleSymbol token)
  | unknownAlias (word : String) : IsSpeakers (.unknownAlias word)
  | unknownItem (item : String) : IsSpeakers (.unknownItem item)

theorem Error.isUserFacing_iff {error : Error} :
    error.isUserFacing = true ↔ error.category = .input ∨ error.category = .lookup := by
  unfold isUserFacing
  cases error.category <;> simp

theorem Error.isSpeakers_iff {error : Error} :
    error.IsSpeakers ↔ error.category = .input ∨ error.category = .lookup := by
  constructor
  · intro speakers
    cases speakers with
    | malformedNumeral | notASingleSymbol => exact .inl rfl
    | unknownAlias | unknownItem => exact .inr rfl
  · intro found
    cases error with
    | malformedNumeral numeral fault => exact .malformedNumeral numeral fault
    | notASingleSymbol token => exact .notASingleSymbol token
    | unknownAlias word => exact .unknownAlias word
    | unknownItem item => exact .unknownItem item
    | _ => simp [category] at found

theorem Error.suggestion_eq_iff {error other : Error} :
    error.suggestion = other.suggestion ↔ error.category = other.category := by
  unfold suggestion
  cases error.category <;> cases other.category <;> simp

namespace Outcome

variable {kind : Kind} {error : Error}

theorem ofAnswer_ne_unrecognized (answer : Except Error (Option String)) :
    ofAnswer kind answer ≠ .unrecognized := by
  unfold ofAnswer
  split
  · simp
  · split <;> simp

theorem ofAnswer_error_eq_rejected_iff :
    ofAnswer kind (.error error) = .rejected kind error ↔
      error.category = .input ∨ error.category = .lookup := by
  rw [← Error.isUserFacing_iff, ofAnswer]
  cases error.isUserFacing <;> simp

theorem ofAnswer_error_eq_fault_iff :
    ofAnswer kind (.error error) = .fault (some kind) error ↔
      ¬(error.category = .input ∨ error.category = .lookup) := by
  rw [← Error.isUserFacing_iff, ofAnswer]
  cases error.isUserFacing <;> simp

end Outcome

/-! ## The rule that hears -/

def actionOf? (rules : List Rule) (line : String) : Option (Kind × Action) :=
  rules.findSome? fun rule => (rule.recognise line).map (rule.kind, ·)

section

variable {rules more front back : List Rule} {rule : Rule} {line : String}

theorem actionOf?_append (front back : List Rule) (line : String) :
    actionOf? (front ++ back) line = (actionOf? front line).or (actionOf? back line) :=
  List.findSome?_append

theorem actionOf?_eq_none_iff :
    actionOf? rules line = none ↔ ∀ rule ∈ rules, rule.recognise line = none := by
  simp [actionOf?]

theorem exists_actionOf?_eq_some {action : Action} (member : rule ∈ rules)
    (found : rule.recognise line = some action) :
    ∃ other otherAction, other ∈ rules ∧ other.recognise line = some otherAction ∧
      actionOf? rules line = some (other.kind, otherAction) := by
  cases first : actionOf? rules line with
  | none =>
      rw [actionOf?_eq_none_iff.mp first rule member] at found
      cases found
  | some owner =>
      rcases List.exists_of_findSome?_eq_some first with ⟨other, otherMember, made⟩
      rcases Option.map_eq_some_iff.mp made with ⟨otherAction, heard, rfl⟩
      exact ⟨other, otherAction, otherMember, heard, rfl⟩

theorem isSome_actionOf? (found : ∃ rule ∈ rules, (rule.recognise line).isSome = true) :
    (actionOf? rules line).isSome = true := by
  rcases found with ⟨rule, member, recognised⟩
  rcases Option.isSome_iff_exists.mp recognised with ⟨action, heard⟩
  rcases exists_actionOf?_eq_some member heard with ⟨_, _, _, _, first⟩
  exact Option.isSome_of_mem first

theorem actionOf?_cons_of_recognise {action : Action} (found : rule.recognise line = some action) :
    actionOf? (rule :: rules) line = some (rule.kind, action) := by
  simp [actionOf?, found]

theorem actionOf?_cons_of_not_recognise (unmoved : rule.recognise line = none) :
    actionOf? (rule :: rules) line = actionOf? rules line := by
  simp [actionOf?, unmoved]

theorem hear_eq_of_actionOf? (rules : List Rule) (session : Session) (line : String) :
    hear rules session line =
      match actionOf? rules line with
      | some (kind, action) => ((action session).1, .ofAnswer kind (action session).2)
      | none => (session, .unrecognized) := by
  induction rules with
  | nil => rfl
  | cons rule rules induction =>
      rw [hear]
      cases found : rule.recognise line with
      | some action => rw [actionOf?_cons_of_recognise found]
      | none => rw [actionOf?_cons_of_not_recognise found, induction]

theorem hear_congr (session : Session) (same : actionOf? more line = actionOf? rules line) :
    hear more session line = hear rules session line := by
  rw [hear_eq_of_actionOf?, hear_eq_of_actionOf?, same]

theorem hear_eq_unrecognized_iff {session : Session} :
    (hear rules session line).2 = .unrecognized ↔ actionOf? rules line = none := by
  rw [hear_eq_of_actionOf?]
  cases actionOf? rules line with
  | none => simp
  | some owner => simp [Outcome.ofAnswer_ne_unrecognized]

theorem hear_of_first {action : Action} (session : Session)
    (unmoved : ∀ other ∈ front, other.recognise line = none)
    (found : rule.recognise line = some action) :
    hear (front ++ rule :: back) session line =
      ((action session).1, .ofAnswer rule.kind (action session).2) := by
  rw [hear_eq_of_actionOf?, actionOf?_append, actionOf?_eq_none_iff.mpr unmoved, Option.none_or,
    actionOf?_cons_of_recognise found]

end

/-! ## Rules that are added -/

inductive DeafAdded (line : String) : List Rule → List Rule → Prop
  | finish : DeafAdded line [] []
  | kept {rules more : List Rule} (rule : Rule) (rest : DeafAdded line rules more) :
      DeafAdded line (rule :: rules) (rule :: more)
  | added {rules more : List Rule} {rule : Rule} (deaf : rule.recognise line = none)
      (rest : DeafAdded line rules more) : DeafAdded line rules (rule :: more)

theorem DeafAdded.actionOf?_eq {line : String} {rules more : List Rule}
    (added : DeafAdded line rules more) : actionOf? more line = actionOf? rules line := by
  induction added with
  | finish => rfl
  | kept rule _ induction =>
      cases found : rule.recognise line with
      | some action => rw [actionOf?_cons_of_recognise found, actionOf?_cons_of_recognise found]
      | none =>
          rw [actionOf?_cons_of_not_recognise found, actionOf?_cons_of_not_recognise found,
            induction]
  | added deaf _ induction => rw [actionOf?_cons_of_not_recognise deaf, induction]

/-- The first rule that recognises a line hears it, and nothing that comes of it passes the line
on: among rules in front of others those in front hear it if one of them recognises it, and the
others if none does. A line that no rule recognises, and no other one, is unrecognized and changes
nothing. What the rule that hears makes of the session is kept, also when it answers with an error;
the error is a refusal if it is the speaker's own, and a fault of the rule's kind if it is not. So
rules that do not recognise a line change nothing about it, wherever they are added. -/
theorem first_to_recognise_hears (session : Session) (line : String) :
    (∀ front back : List Rule,
      ((∃ rule ∈ front, (rule.recognise line).isSome = true) →
        hear (front ++ back) session line = hear front session line) ∧
      ((∀ rule ∈ front, rule.recognise line = none) →
        hear (front ++ back) session line = hear back session line)) ∧
    (∀ rules : List Rule,
      ((hear rules session line).2 = .unrecognized ↔
        ∀ rule ∈ rules, rule.recognise line = none) ∧
      (hear rules session line = (session, .unrecognized) ↔
        ∀ rule ∈ rules, rule.recognise line = none)) ∧
    (∀ (front back : List Rule) (rule : Rule) (action : Action),
      (∀ other ∈ front, other.recognise line = none) → rule.recognise line = some action →
      let heard := hear (front ++ rule :: back) session line
      heard.1 = (action session).1 ∧
      (∀ message, (action session).2 = .ok message → heard.2 = .answered rule.kind message) ∧
      (∀ error, (action session).2 = .error error →
        (heard.2 = .rejected rule.kind error ↔
          error.category = .input ∨ error.category = .lookup) ∧
        (heard.2 = .fault (some rule.kind) error ↔
          ¬(error.category = .input ∨ error.category = .lookup)) ∧
        (error.category = .input ∨ error.category = .lookup ↔ error.IsSpeakers)) ∧
      ∀ text, (action session).2 = .error (.unrecognizedCommand text) →
        heard.2 = .fault (some rule.kind) (.unrecognizedCommand text)) ∧
    ∀ rules more : List Rule, DeafAdded line rules more →
      hear more session line = hear rules session line := by
  refine ⟨?_, ?_, ?_, ?_⟩
  · intro front back
    constructor
    · intro found
      apply hear_congr session
      rw [actionOf?_append, Option.or_of_isSome (isSome_actionOf? found)]
    · intro unmoved
      apply hear_congr session
      rw [actionOf?_append, actionOf?_eq_none_iff.mpr unmoved, Option.none_or]
  · intro rules
    rw [← actionOf?_eq_none_iff]
    refine ⟨hear_eq_unrecognized_iff, ?_⟩
    constructor
    · intro heard
      exact hear_eq_unrecognized_iff.mp (congrArg Prod.snd heard)
    · intro none
      rw [hear_eq_of_actionOf?, none]
  · intro front back rule action unmoved found heard
    have equal : heard = ((action session).1, .ofAnswer rule.kind (action session).2) :=
      hear_of_first session unmoved found
    rw [equal]
    refine ⟨rfl, ?_, ?_, ?_⟩
    · intro message answered
      rw [answered, Outcome.ofAnswer]
    · intro error failed
      rw [failed]
      exact ⟨Outcome.ofAnswer_error_eq_rejected_iff, Outcome.ofAnswer_error_eq_fault_iff,
        Error.isSpeakers_iff.symm⟩
    · intro text failed
      rw [failed]
      rfl
  · intro rules more added
    exact hear_congr session added.actionOf?_eq

private def baffled : Rule where
  kind := .queryValue
  recognise line := some fun session =>
    (session.defineAlias "glob" .X, .error (.unrecognizedCommand line))

private def deaf : Rule where
  kind := .queryPrice
  recognise _ := none

/-- A rule in front of the standard ones keeps a definition from them, and what it does to the
session before it fails is kept. -/
theorem first_to_recognise_hears_before_definition :
    hear ([deaf, baffled] ++ Rule.standard) ∅ "glob is I" =
        hear [deaf, baffled] ∅ "glob is I" ∧
      hear ([deaf] ++ Rule.standard) ∅ "glob is I" = hear Rule.standard ∅ "glob is I" ∧
      (hear ([deaf] ++ baffled :: Rule.standard) ∅ "glob is I").1 =
        Session.defineAlias ∅ "glob" .X ∧
      (hear ([deaf] ++ baffled :: Rule.standard) ∅ "glob is I").2 =
        .fault (some .queryValue) (.unrecognizedCommand "glob is I") ∧
      hear [.defineAlias, deaf, .definePrice] ∅ "glob is I" =
        hear [.defineAlias, .definePrice] ∅ "glob is I" := by
  rcases first_to_recognise_hears ∅ "glob is I" with ⟨first, _, owner, silent⟩
  have heard := owner [deaf] Rule.standard baffled _ (by simp [deaf]) rfl
  refine ⟨(first [deaf, baffled] _).1 ?_, (first [deaf] _).2 ?_, heard.1, heard.2.2.2 _ rfl,
    silent _ _ ?_⟩
  · exact ⟨baffled, by simp, rfl⟩
  · simp [deaf]
  · exact .kept _ (.added rfl (.kept _ .finish))

end TradeSpeech
