import TradeSpeech.Proofs.Conversation.Frame

/-! # What a line touches

A line tells by itself which entries of a session it may read and write. What becomes of
it depends on the entries it reads only, and it leaves alone the ones it does not write. -/

namespace TradeSpeech

open Sentence (AliasDefinition PriceDefinition ValueQuestion PriceQuestion)

/-! ## Places -/

inductive Place
  | word (key : String)
  | item (key : String)
  deriving DecidableEq

namespace Place

def ofWord (word : String) : Place :=
  .word (Text.upperCase word)

def ofItem (item : String) : Place :=
  .item (Text.upperCase item)

def ofPhrase (phrase : String) : List Place :=
  (Text.words phrase).map ofWord

end Place

structure Footprint where
  reads : List Place
  writes : List Place

namespace Sentence

def AliasDefinition.footprint (sentence : AliasDefinition) : Footprint where
  reads := []
  writes := [.ofWord sentence.word]

def PriceDefinition.footprint (sentence : PriceDefinition) : Footprint where
  reads := Place.ofPhrase sentence.quantity
  writes := [.ofItem sentence.item]

def ValueQuestion.footprint (sentence : ValueQuestion) : Footprint where
  reads := Place.ofPhrase sentence.quantity
  writes := []

def PriceQuestion.footprint (sentence : PriceQuestion) : Footprint where
  reads := .ofItem sentence.item :: Place.ofPhrase sentence.quantity
  writes := []

end Sentence

def footprint (line : String) : Footprint :=
  match AliasDefinition.read? line with
  | some sentence => sentence.footprint
  | none =>
  match PriceDefinition.read? line with
  | some sentence => sentence.footprint
  | none =>
  match ValueQuestion.read? line with
  | some sentence => sentence.footprint
  | none =>
  match PriceQuestion.read? line with
  | some sentence => sentence.footprint
  | none => { reads := [], writes := [] }

section

variable {line : String}

theorem footprint_of_alias {sentence : AliasDefinition}
    (read : AliasDefinition.read? line = some sentence) : footprint line = sentence.footprint := by
  rw [footprint, read]

theorem footprint_of_price {sentence : PriceDefinition}
    (read : PriceDefinition.read? line = some sentence) : footprint line = sentence.footprint := by
  have kind := PriceDefinition.tellKind_eq read
  rw [footprint, read]
  cases definition : AliasDefinition.read? line with
  | some => cases (AliasDefinition.tellKind_eq definition).symm.trans kind
  | none => rfl

theorem footprint_of_value {sentence : ValueQuestion}
    (read : ValueQuestion.read? line = some sentence) : footprint line = sentence.footprint := by
  have kind := ValueQuestion.tellKind_eq read
  rw [footprint, read]
  cases definition : AliasDefinition.read? line with
  | some => cases (AliasDefinition.tellKind_eq definition).symm.trans kind
  | none =>
      cases price : PriceDefinition.read? line with
      | some => cases (PriceDefinition.tellKind_eq price).symm.trans kind
      | none => rfl

theorem footprint_of_total {sentence : PriceQuestion}
    (read : PriceQuestion.read? line = some sentence) : footprint line = sentence.footprint := by
  have kind := PriceQuestion.tellKind_eq read
  rw [footprint, read]
  cases definition : AliasDefinition.read? line with
  | some => cases (AliasDefinition.tellKind_eq definition).symm.trans kind
  | none =>
      cases price : PriceDefinition.read? line with
      | some => cases (PriceDefinition.tellKind_eq price).symm.trans kind
      | none =>
          cases value : ValueQuestion.read? line with
          | some => cases (ValueQuestion.tellKind_eq value).symm.trans kind
          | none => rfl

end

/-! ## Sessions that are the same at a place -/

namespace Session

def SameAt (left right : Session) : Place → Prop
  | .word key => left.aliases.entries[key]? = right.aliases.entries[key]?
  | .item key => left.prices.entries[key]? = right.prices.entries[key]?

variable {left middle right : Session} {place : Place}

theorem SameAt.refl (session : Session) (place : Place) : session.SameAt session place := by
  cases place <;> rfl

theorem SameAt.symm (same : left.SameAt right place) : right.SameAt left place := by
  cases place <;> exact Eq.symm same

theorem SameAt.trans (first : left.SameAt middle place) (second : middle.SameAt right place) :
    left.SameAt right place := by
  cases place <;> exact Eq.trans first second

theorem eq_of_sameAt (same : ∀ place, left.SameAt right place) : left = right := by
  rcases left with ⟨⟨aliases⟩, ⟨prices⟩⟩
  rcases right with ⟨⟨otherAliases⟩, ⟨otherPrices⟩⟩
  have sameAliases : aliases = otherAliases :=
    Std.ExtTreeMap.ext_getElem? fun key => same (.word key)
  have samePrices : prices = otherPrices :=
    Std.ExtTreeMap.ext_getElem? fun key => same (.item key)
  rw [sameAliases, samePrices]

theorem SameAt.defineAlias (same : left.SameAt right place) (word : String) (symbol : Symbol) :
    (left.defineAlias word symbol).SameAt (right.defineAlias word symbol) place := by
  cases place with
  | word key =>
      have kept : left.aliases.entries[key]? = right.aliases.entries[key]? := same
      simp [SameAt, Session.defineAlias, Lexicon.define, Std.ExtTreeMap.getElem?_insert, kept]
  | item key => exact same

theorem SameAt.definePrice (same : left.SameAt right place) (item : String) (price : Float) :
    (left.definePrice item price).SameAt (right.definePrice item price) place := by
  cases place with
  | word key => exact same
  | item key =>
      have kept : left.prices.entries[key]? = right.prices.entries[key]? := same
      simp [SameAt, Session.definePrice, Lexicon.define, Std.ExtTreeMap.getElem?_insert, kept]

theorem sameAt_defineAlias (session : Session) {word : String} (symbol : Symbol)
    (other : place ≠ .ofWord word) : session.SameAt (session.defineAlias word symbol) place := by
  cases place with
  | word key =>
      have different : key ≠ Text.upperCase word := fun equal => other (congrArg Place.word equal)
      exact ((session.aliases.setsOnly_define word symbol).others key different).symm
  | item key => rfl

theorem sameAt_definePrice (session : Session) {item : String} (price : Float)
    (other : place ≠ .ofItem item) : session.SameAt (session.definePrice item price) place := by
  cases place with
  | word key => rfl
  | item key =>
      have different : key ≠ Text.upperCase item := fun equal => other (congrArg Place.item equal)
      exact ((session.prices.setsOnly_define item price).others key different).symm

end Session

theorem Lexicon.symbolsOf_congr {left right : Lexicon Symbol} {words : List String}
    (same : ∀ word ∈ words, left.lookup word = right.lookup word) :
    left.symbolsOf words = right.symbolsOf words := by
  induction words with
  | nil => rfl
  | cons word words induction =>
      rw [symbolsOf, symbolsOf, same word List.mem_cons_self,
        induction fun later member => same later (List.mem_cons_of_mem word member)]

theorem Session.quantity_congr {left right : Session} {phrase : String}
    (same : ∀ place ∈ Place.ofPhrase phrase, left.SameAt right place) :
    left.quantity phrase = right.quantity phrase := by
  have symbols : left.aliases.resolve phrase = right.aliases.resolve phrase := by
    apply Lexicon.symbolsOf_congr
    intro word member
    exact same (.ofWord word) (List.mem_map_of_mem member)
  rw [quantity, symbols, quantity]

/-! ## One line -/

section

variable {places : Place → Prop} {left right next : Session} {line : String}
  {outcome : Outcome}

/-- In a session that is the same at places which cover what the line reads, the line has
the same outcome, and the sessions stay the same there. -/
theorem Hearing.exists_of_sameAt (hearing : Hearing left line next outcome)
    (same : ∀ place, places place → left.SameAt right place)
    (covers : ∀ place ∈ (footprint line).reads, places place) :
    ∃ other, Hearing right line other outcome ∧
      ∀ place, places place → next.SameAt other place := by
  have sameRead : ∀ place ∈ (footprint line).reads, left.SameAt right place :=
    fun place member => same place (covers place member)
  cases hearing with
  | @aliasDefined sentence symbol read token =>
      refine ⟨right.defineAlias sentence.word symbol, .aliasDefined read token, ?_⟩
      intro place covered
      exact (same place covered).defineAlias sentence.word symbol
  | tokenRefused read token => exact ⟨right, .tokenRefused read token, same⟩
  | @priceDefined sentence numeral read quantity inRange =>
      rw [footprint_of_price read] at sameRead
      rw [Session.quantity_congr sameRead] at quantity
      refine ⟨_, .priceDefined read quantity inRange, ?_⟩
      intro place covered
      exact (same place covered).definePrice sentence.item _
  | priceRefused read quantity =>
      rw [footprint_of_price read] at sameRead
      rw [Session.quantity_congr sameRead] at quantity
      exact ⟨right, .priceRefused read quantity, same⟩
  | amountTooLarge read quantity tooLarge =>
      rw [footprint_of_price read] at sameRead
      rw [Session.quantity_congr sameRead] at quantity
      exact ⟨right, .amountTooLarge read quantity tooLarge, same⟩
  | valueAnswered read quantity =>
      rw [footprint_of_value read] at sameRead
      rw [Session.quantity_congr sameRead] at quantity
      exact ⟨right, .valueAnswered read quantity, same⟩
  | valueRefused read quantity =>
      rw [footprint_of_value read] at sameRead
      rw [Session.quantity_congr sameRead] at quantity
      exact ⟨right, .valueRefused read quantity, same⟩
  | totalAnswered read quantity known =>
      rw [footprint_of_total read] at sameRead
      rcases List.forall_mem_cons.mp sameRead with ⟨sameItem, sameWords⟩
      rw [Session.quantity_congr sameWords] at quantity
      have known : right.prices.lookup _ = some _ := (Eq.symm sameItem).trans known
      exact ⟨right, .totalAnswered read quantity known, same⟩
  | totalRefused read quantity =>
      rw [footprint_of_total read] at sameRead
      rw [Session.quantity_congr (List.forall_mem_cons.mp sameRead).2] at quantity
      exact ⟨right, .totalRefused read quantity, same⟩
  | itemUnknown read quantity unknown =>
      rw [footprint_of_total read] at sameRead
      rcases List.forall_mem_cons.mp sameRead with ⟨sameItem, sameWords⟩
      rw [Session.quantity_congr sameWords] at quantity
      have unknown : right.prices.lookup _ = none := (Eq.symm sameItem).trans unknown
      exact ⟨right, .itemUnknown read quantity unknown, same⟩
  | unrecognized noAlias noPrice noValue noTotal =>
      exact ⟨right, .unrecognized noAlias noPrice noValue noTotal, same⟩

theorem hear_of_sameAt (same : ∀ place, places place → left.SameAt right place)
    (covers : ∀ place ∈ (footprint line).reads, places place) :
    (hear Rule.standard left line).2 = (hear Rule.standard right line).2 ∧
      ∀ place, places place →
        (hear Rule.standard left line).1.SameAt (hear Rule.standard right line).1 place := by
  rcases heard : hear Rule.standard left line with ⟨next, outcome⟩
  rcases (hear_eq_iff.mp heard).exists_of_sameAt same covers with ⟨other, hearing, kept⟩
  rw [hearing.hear_eq]
  exact ⟨rfl, kept⟩

theorem Hearing.sameAt_of_not_mem_writes {place : Place}
    (hearing : Hearing left line next outcome) (unwritten : place ∉ (footprint line).writes) :
    left.SameAt next place := by
  cases hearing with
  | aliasDefined read token =>
      rw [footprint_of_alias read] at unwritten
      exact left.sameAt_defineAlias _ (List.ne_of_not_mem_cons unwritten)
  | priceDefined read quantity inRange =>
      rw [footprint_of_price read] at unwritten
      exact left.sameAt_definePrice _ (List.ne_of_not_mem_cons unwritten)
  | _ => exact .refl left place

end

end TradeSpeech
