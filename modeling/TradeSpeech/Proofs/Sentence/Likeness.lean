import TradeSpeech.Sentence.Forms

/-! # Sentences that are alike

Two lines may be written differently and still say the same. When texts are alike is
left open here; in sentences that are alike the names are those of the same entries,
and the tokens and amounts mean the same. -/

namespace TradeSpeech.Sentence

section

variable (alike : String → String → Prop)

structure SameName (left right : String) : Prop where
  entry : Text.upperCase left = Text.upperCase right
  text : alike left right

structure AliasDefinition.Alike (left right : AliasDefinition) : Prop where
  word : SameName alike left.word right.word
  token : Symbol.ofToken? left.symbols = Symbol.ofToken? right.symbols
  symbols : alike left.symbols right.symbols

structure PriceDefinition.Alike (left right : PriceDefinition) : Prop where
  quantity : alike left.quantity right.quantity
  item : SameName alike left.item right.item
  amount : left.amount = right.amount

structure ValueQuestion.Alike (left right : ValueQuestion) : Prop where
  quantity : alike left.quantity right.quantity

structure PriceQuestion.Alike (left right : PriceQuestion) : Prop where
  quantity : alike left.quantity right.quantity
  item : SameName alike left.item right.item

structure Echoes (line other : String) : Prop where
  defineAlias : ∀ sentence, AliasDefinition.read? line = some sentence →
    ∃ echo, AliasDefinition.read? other = some echo ∧ sentence.Alike alike echo
  definePrice : ∀ sentence, PriceDefinition.read? line = some sentence →
    ∃ echo, PriceDefinition.read? other = some echo ∧ sentence.Alike alike echo
  queryValue : ∀ sentence, ValueQuestion.read? line = some sentence →
    ∃ echo, ValueQuestion.read? other = some echo ∧ sentence.Alike alike echo
  queryPrice : ∀ sentence, PriceQuestion.read? line = some sentence →
    ∃ echo, PriceQuestion.read? other = some echo ∧ sentence.Alike alike echo

structure SayAlike (line other : String) : Prop where
  forth : Echoes alike line other
  back : Echoes alike other line

end

theorem eq_none_of_echo {related : α → α → Prop} {left right : Option α}
    (echo : ∀ value, right = some value → ∃ other, left = some other ∧ related value other)
    (absent : left = none) : right = none := by
  rw [Option.eq_none_iff_forall_ne_some]
  intro value found
  rcases echo value found with ⟨other, otherFound, _⟩
  cases absent.symm.trans otherFound

end TradeSpeech.Sentence
