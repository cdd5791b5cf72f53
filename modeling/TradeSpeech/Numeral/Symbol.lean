/-! The seven numeral symbols. -/

namespace TradeSpeech

inductive Symbol
  | I | V | X | L | C | D | M
  deriving DecidableEq, Repr

namespace Symbol

def all : List Symbol := [I, V, X, L, C, D, M]

def rank : Symbol → Nat
  | I => 0
  | V => 1
  | X => 2
  | L => 3
  | C => 4
  | D => 5
  | M => 6

def value : Symbol → Nat
  | I => 1
  | V => 5
  | X => 10
  | L => 50
  | C => 100
  | D => 500
  | M => 1000

def toChar : Symbol → Char
  | I => 'I'
  | V => 'V'
  | X => 'X'
  | L => 'L'
  | C => 'C'
  | D => 'D'
  | M => 'M'

def ofRank? (rank : Nat) : Option Symbol :=
  all[rank]?

def ofChar? (c : Char) : Option Symbol :=
  all.find? fun symbol => symbol.toChar == c.toUpper

def ofToken? (token : String) : Option Symbol :=
  match token.toList with
  | [c] => ofChar? c
  | _ => none

def name (symbol : Symbol) : String :=
  String.singleton symbol.toChar

def below (symbol : Symbol) : List Symbol :=
  all.filter fun other => other.rank < symbol.rank

@[simp] theorem ofRank?_rank (symbol : Symbol) : ofRank? symbol.rank = some symbol := by
  cases symbol <;> rfl

@[simp] theorem ofChar?_toChar (symbol : Symbol) : ofChar? symbol.toChar = some symbol := by
  cases symbol <;> rfl

theorem value_pos (symbol : Symbol) : 0 < symbol.value := by
  cases symbol <;> decide

theorem value_lt_value_iff (left right : Symbol) :
    left.value < right.value ↔ left.rank < right.rank := by
  cases left <;> cases right <;> decide

example : ofChar? 'm' = some M := by decide

/-- A long s and a fullwidth letter write no symbol. -/
example : ofChar? '\u017f' = none ∧ ofChar? 'Ｉ' = none := by decide

example : ofToken? "v" = some V ∧ ofToken? "IV" = none ∧ ofToken? "" = none := by decide

end Symbol

end TradeSpeech
