import TradeSpeech.Proofs.Conversation.Hearing
import TradeSpeech.Proofs.Sentence.Likeness

/-! # Lines that are said in other ways

Where two lines say sentences that are alike, the same becomes of both: one step of
the two conversations leaves one session, and outcomes that differ at most in the
texts that they repeat. The same is then true of all lines of two runs. -/

namespace TradeSpeech

open Sentence (SameName SayAlike)

/-- What is asked of a likeness of texts: it goes word by word, and answers can be put
together from texts that are alike. -/
structure Variation (alike : String → String → Prop) : Prop where
  refl : ∀ text, alike text text
  join : ∀ {left right more others}, alike left right → alike more others →
    alike (left ++ " " ++ more) (right ++ " " ++ others)
  trim : ∀ {left right}, alike left right → alike (Text.trim left) (Text.trim right)
  words : ∀ {left right}, alike left right →
    List.Forall₂ (SameName alike) (Text.words left) (Text.words right)

section

variable (alike : String → String → Prop)

inductive Error.Alike : Error → Error → Prop
  | same (error : Error) : Alike error error
  | unknownAlias (word : alike left right) : Alike (.unknownAlias left) (.unknownAlias right)
  | unknownItem (item : alike left right) : Alike (.unknownItem left) (.unknownItem right)
  | notASingleSymbol (token : alike left right) :
      Alike (.notASingleSymbol left) (.notASingleSymbol right)

inductive SameFinding : Except Error α → Except Error α → Prop
  | found (value : α) : SameFinding (.ok value) (.ok value)
  | failed (errors : Error.Alike alike left right) : SameFinding (.error left) (.error right)

inductive Outcome.Alike : Outcome → Outcome → Prop
  | answered {kind : Sentence.Kind} (messages : Option.Rel alike left right) :
      Alike (.answered kind left) (.answered kind right)
  | rejected {kind : Sentence.Kind} (errors : Error.Alike alike left right) :
      Alike (.rejected kind left) (.rejected kind right)
  | unrecognized : Alike .unrecognized .unrecognized
  | fault (kind : Option Sentence.Kind) (error : Error) :
      Alike (.fault kind error) (.fault kind error)

structure Entry.Alike (left right : Entry) : Prop where
  line : alike left.line right.line
  outcome : Outcome.Alike alike left.outcome right.outcome

end

theorem SameFinding.refl {alike : String → String → Prop} (finding : Except Error α) :
    SameFinding alike finding finding := by
  cases finding with
  | ok value => exact .found value
  | error error => exact .failed (.same error)

/-! ## Names of one entry -/

section

variable {alike : String → String → Prop}

theorem Lexicon.lookup_eq_of_sameName {left right : String} (lexicon : Lexicon α)
    (names : SameName alike left right) : lexicon.lookup left = lexicon.lookup right := by
  rw [lookup, names.entry, lookup]

theorem Lexicon.define_eq_of_sameName {left right : String} (lexicon : Lexicon α) (meaning : α)
    (names : SameName alike left right) :
    lexicon.define left meaning = lexicon.define right meaning := by
  rw [define, names.entry, define]

theorem Lexicon.sameFinding_symbolsOf {words others : List String} (aliases : Lexicon Symbol)
    (names : List.Forall₂ (SameName alike) words others) :
    SameFinding alike (aliases.symbolsOf words) (aliases.symbolsOf others) := by
  induction names with
  | nil => exact .found []
  | @cons word other words others names later induction =>
      rw [symbolsOf, symbolsOf, lookup_eq_of_sameName aliases names]
      cases aliases.lookup other with
      | none => exact .failed (.unknownAlias names.text)
      | some symbol =>
          -- All that matters of the two later findings is how they are related.
          revert induction
          generalize aliases.symbolsOf words = left
          generalize aliases.symbolsOf others = right
          intro induction
          cases induction with
          | found symbols => exact .found (symbol :: symbols)
          | failed errors => exact .failed errors

end

/-! ## Outcomes that are alike -/

namespace Outcome.Alike

variable {alike : String → String → Prop} {left right : Outcome}

theorem kind?_eq (outcomes : Outcome.Alike alike left right) : left.kind? = right.kind? := by
  cases outcomes <;> rfl

theorem status_eq (outcomes : Outcome.Alike alike left right) :
    left.reply.status = right.reply.status := by
  cases outcomes <;> rfl

end Outcome.Alike

namespace Variation

variable {alike : String → String → Prop} (variation : Variation alike)
include variation

theorem friendlyMessage_alike {left right : Error} (errors : Error.Alike alike left right) :
    alike left.friendlyMessage right.friendlyMessage := by
  cases errors with
  | same => exact variation.refl _
  | unknownAlias => exact variation.refl _
  | unknownItem item => exact variation.join (variation.refl "I don't know the price of") item
  | notASingleSymbol => exact variation.refl _

theorem answer_alike {left right : String} (asked : alike left right) (value : String) :
    alike (left ++ (" is " ++ value)) (right ++ (" is " ++ value)) := by
  have spaced : ∀ text, text ++ (" is " ++ value) = text ++ " " ++ ("is " ++ value) := by
    intro text
    rw [← String.toList_inj]
    simp
  rw [spaced, spaced]
  exact variation.join asked (variation.refl ("is " ++ value))

theorem message_alike {left right : Outcome} (outcomes : Outcome.Alike alike left right) :
    Option.Rel alike left.reply.message right.reply.message := by
  cases outcomes with
  | answered messages => exact messages
  | rejected errors => exact .some (variation.friendlyMessage_alike errors)
  | unrecognized => exact .some (variation.refl _)
  | fault => exact .some (variation.refl _)

theorem sameFinding_quantity {left right : String} (session : Session)
    (phrases : alike left right) :
    SameFinding alike (session.quantity left) (session.quantity right) := by
  have symbols := session.aliases.sameFinding_symbolsOf (variation.words phrases)
  unfold Session.quantity Lexicon.resolve
  revert symbols
  generalize session.aliases.symbolsOf (Text.words left) = found
  generalize session.aliases.symbolsOf (Text.words right) = otherFound
  intro symbols
  cases symbols with
  | failed errors => exact .failed errors
  | found symbols => exact .refl _

theorem quantity_ok {left right : String} {session : Session} {numeral : Numeral}
    (phrases : alike left right) (found : session.quantity left = .ok numeral) :
    session.quantity right = .ok numeral := by
  have finding := variation.sameFinding_quantity session phrases
  rw [found] at finding
  generalize session.quantity right = other at finding
  cases finding
  rfl

theorem quantity_error {left right : String} {session : Session} {error : Error}
    (phrases : alike left right) (found : session.quantity left = .error error) :
    ∃ other, session.quantity right = .error other ∧ Error.Alike alike error other := by
  have finding := variation.sameFinding_quantity session phrases
  rw [found] at finding
  generalize session.quantity right = other at finding
  cases finding with
  | failed errors => exact ⟨_, rfl, errors⟩

/-! ## One line -/

theorem hearing_alike {session next : Session} {line other : String} {outcome : Outcome}
    (said : SayAlike alike line other) (hearing : Hearing session line next outcome) :
    ∃ otherOutcome, Hearing session other next otherOutcome ∧
      Outcome.Alike alike outcome otherOutcome := by
  cases hearing with
  | aliasDefined read token =>
      rcases said.forth.defineAlias _ read with ⟨sentence, otherRead, parts⟩
      rw [parts.token] at token
      rw [Session.defineAlias, Lexicon.define_eq_of_sameName _ _ parts.word]
      exact ⟨_, .aliasDefined otherRead token, .answered .none⟩
  | tokenRefused read token =>
      rcases said.forth.defineAlias _ read with ⟨sentence, otherRead, parts⟩
      rw [parts.token] at token
      exact ⟨_, .tokenRefused otherRead token, .rejected (.notASingleSymbol parts.symbols)⟩
  | priceDefined read quantity inRange =>
      rcases said.forth.definePrice _ read with ⟨sentence, otherRead, parts⟩
      rw [parts.amount] at inRange ⊢
      rw [Session.definePrice, Lexicon.define_eq_of_sameName _ _ parts.item]
      have otherQuantity := variation.quantity_ok parts.quantity quantity
      exact ⟨_, .priceDefined otherRead otherQuantity inRange, .answered .none⟩
  | priceRefused read quantity =>
      rcases said.forth.definePrice _ read with ⟨sentence, otherRead, parts⟩
      rcases variation.quantity_error parts.quantity quantity with ⟨error, refused, errors⟩
      exact ⟨_, .priceRefused otherRead refused, .rejected errors⟩
  | amountTooLarge read quantity tooLarge =>
      rcases said.forth.definePrice _ read with ⟨sentence, otherRead, parts⟩
      rw [parts.amount] at tooLarge
      have otherQuantity := variation.quantity_ok parts.quantity quantity
      exact ⟨_, .amountTooLarge otherRead otherQuantity tooLarge, .fault _ _⟩
  | valueAnswered read quantity =>
      rcases said.forth.queryValue _ read with ⟨sentence, otherRead, parts⟩
      have otherQuantity := variation.quantity_ok parts.quantity quantity
      refine ⟨_, .valueAnswered otherRead otherQuantity, .answered (.some ?_)⟩
      rw [String.append_assoc, String.append_assoc]
      exact variation.answer_alike parts.quantity _
  | valueRefused read quantity =>
      rcases said.forth.queryValue _ read with ⟨sentence, otherRead, parts⟩
      rcases variation.quantity_error parts.quantity quantity with ⟨error, refused, errors⟩
      exact ⟨_, .valueRefused otherRead refused, .rejected errors⟩
  | totalAnswered read quantity known =>
      rcases said.forth.queryPrice _ read with ⟨sentence, otherRead, parts⟩
      have otherQuantity := variation.quantity_ok parts.quantity quantity
      rw [Lexicon.lookup_eq_of_sameName _ parts.item] at known
      refine ⟨_, .totalAnswered otherRead otherQuantity known, .answered (.some ?_)⟩
      have goods := variation.join (variation.trim parts.quantity) parts.item.text
      simpa only [String.append_assoc] using variation.answer_alike goods _
  | totalRefused read quantity =>
      rcases said.forth.queryPrice _ read with ⟨sentence, otherRead, parts⟩
      rcases variation.quantity_error parts.quantity quantity with ⟨error, refused, errors⟩
      exact ⟨_, .totalRefused otherRead refused, .rejected errors⟩
  | itemUnknown read quantity unknown =>
      rcases said.forth.queryPrice _ read with ⟨sentence, otherRead, parts⟩
      have otherQuantity := variation.quantity_ok parts.quantity quantity
      rw [Lexicon.lookup_eq_of_sameName _ parts.item] at unknown
      exact ⟨_, .itemUnknown otherRead otherQuantity unknown,
        .rejected (.unknownItem parts.item.text)⟩
  | unrecognized noAlias noPrice noValue noTotal =>
      -- Whatever the other line said would be echoed by this one.
      exact ⟨_, .unrecognized (Sentence.eq_none_of_echo said.back.defineAlias noAlias)
        (Sentence.eq_none_of_echo said.back.definePrice noPrice)
        (Sentence.eq_none_of_echo said.back.queryValue noValue)
        (Sentence.eq_none_of_echo said.back.queryPrice noTotal), .unrecognized⟩

theorem hear_alike {session next : Session} {line other : String} {outcome : Outcome}
    (said : SayAlike alike line other)
    (heard : hear Rule.standard session line = (next, outcome)) :
    ∃ otherOutcome, hear Rule.standard session other = (next, otherOutcome) ∧
      Outcome.Alike alike outcome otherOutcome := by
  rcases variation.hearing_alike said (hear_eq_iff.mp heard) with
    ⟨otherOutcome, hearing, outcomes⟩
  exact ⟨otherOutcome, hearing.hear_eq, outcomes⟩

/-! ## Runs -/

theorem hearLines_alike {lines others : List String}
    (said : List.Forall₂ (fun line other => alike line other ∧ SayAlike alike line other)
      lines others) (session : Session) :
    (hearLines (hear Rule.standard) session lines).1 =
        (hearLines (hear Rule.standard) session others).1 ∧
      List.Forall₂ (Entry.Alike alike) (hearLines (hear Rule.standard) session lines).2
        (hearLines (hear Rule.standard) session others).2 := by
  induction said generalizing session with
  | nil => exact ⟨rfl, .nil⟩
  | @cons line other lines others said later induction =>
      rcases heard : hear Rule.standard session line with ⟨next, outcome⟩
      rcases variation.hear_alike said.2 heard with ⟨otherOutcome, otherHeard, outcomes⟩
      rw [hearLines, hearLines, heard, otherHeard]
      exact ⟨(induction next).1, .cons ⟨said.1, outcomes⟩ (induction next).2⟩

end Variation

end TradeSpeech
