import TradeSpeech.Numeral.Basic
import TradeSpeech.Proofs.Text.Letters

/-! # The grammar of numerals

A text is a numeral if its letters write symbols of which no four in a row are the
same, and of which each may stand before the next. Any other text has a fault, and
the kinds of fault are looked for one after the other, each from the left. -/

namespace TradeSpeech

open Sentence (symbolLetters)

theorem Symbol.ofChar?_eq_some_iff {letter : Char} {symbol : Symbol} :
    ofChar? letter = some symbol ↔ letter.toUpper = symbol.toChar := by
  constructor
  · intro found
    have same := List.find?_some (show all.find? _ = some symbol from found)
    exact (beq_iff_eq.mp same).symm
  · intro upper
    have capital : symbol.toChar.toUpper = symbol.toChar := by
      cases symbol <;> rfl
    have same : ofChar? letter = ofChar? symbol.toChar := by
      rw [ofChar?, ofChar?, upper, capital]
    rw [same, ofChar?_toChar]

namespace Numeral

def Writes (text : String) (symbols : List Symbol) : Prop :=
  text.toList.map Char.toUpper = symbols.map Symbol.toChar

def MayStandBefore (earlier later : Symbol) : Prop :=
  earlier.rank < later.rank → earlier.rank % 2 = 0 ∧ later.rank - earlier.rank ≤ 2

structure IsGrammatical (symbols : List Symbol) : Prop where
  nonempty : symbols ≠ []
  runs : ∀ symbol, ¬List.replicate 4 symbol <:+: symbols
  pairs : ∀ earlier later, [earlier, later] <:+: symbols → MayStandBefore earlier later

/-! ## Letters -/

theorem spell_eq_ok_iff {letters : List Char} {symbols : List Symbol} :
    spell letters = .ok symbols ↔ letters.map Char.toUpper = symbols.map Symbol.toChar := by
  induction letters generalizing symbols with
  | nil => cases symbols <;> simp [spell]
  | cons letter rest induction =>
      cases symbols with
      | nil =>
          rw [spell]
          cases Symbol.ofChar? letter <;> cases spell rest <;> simp
      | cons symbol others =>
          rw [List.map_cons, List.map_cons, List.cons.injEq, ← Symbol.ofChar?_eq_some_iff,
            ← induction, spell]
          cases Symbol.ofChar? letter <;> cases spell rest <;> simp

theorem spell_eq_error_iff_find? {letters : List Char} {letter : Char} :
    spell letters = .error letter ↔
      letters.find? (fun other => !Sentence.isSymbolLetter other) = some letter := by
  induction letters with
  | nil => simp [spell]
  | cons first rest induction =>
      rw [spell, List.find?_cons, Sentence.isSymbolLetter]
      cases Symbol.ofChar? first with
      | none => simp
      | some symbol => cases later : spell rest <;> simp [← induction, later]

theorem spell_eq_error_iff {letters : List Char} {letter : Char} :
    spell letters = .error letter ↔
      ∃ front rest, letters = front ++ letter :: rest ∧
        (∀ other ∈ front, other ∈ symbolLetters) ∧ letter ∉ symbolLetters := by
  rw [spell_eq_error_iff_find?, List.find?_eq_some_iff_append]
  simp only [Bool.not_eq_true', Bool.not_not, ← Bool.not_eq_true, Sentence.isSymbolLetter_iff]
  constructor
  · intro found
    rcases found with ⟨unknown, front, rest, rfl, known⟩
    exact ⟨front, rest, rfl, known, unknown⟩
  · intro found
    rcases found with ⟨front, rest, rfl, known, unknown⟩
    exact ⟨unknown, front, rest, rfl, known⟩

/-! ## Runs -/

theorem longRun?_cons (first : Symbol) (rest : List Symbol) :
    longRun? (first :: rest) =
      if List.replicate 3 first <+: rest then some first else longRun? rest := by
  rcases rest with _ | ⟨second, _ | ⟨third, _ | ⟨fourth, rest⟩⟩⟩
  · rfl
  · simp [longRun?, List.replicate]
  · simp [longRun?, List.replicate]
  · have window : List.replicate 3 first <+: second :: third :: fourth :: rest ↔
        first = second ∧ second = third ∧ third = fourth := by
      simp only [List.replicate, List.cons_prefix_cons, List.nil_prefix, and_true]
      constructor
      · intro same
        rcases same with ⟨rfl, rfl, rfl⟩
        exact ⟨rfl, rfl, rfl⟩
      · intro same
        rcases same with ⟨rfl, rfl, rfl⟩
        exact ⟨rfl, rfl, rfl⟩
    simp only [longRun?, window]

theorem longRun?_eq_none_iff {symbols : List Symbol} :
    longRun? symbols = none ↔ ∀ symbol, ¬List.replicate 4 symbol <:+: symbols := by
  induction symbols with
  | nil => simp [longRun?]
  | cons first rest induction =>
      rw [longRun?_cons]
      constructor
      · intro short symbol window
        split at short
        · cases short
        · rename_i notHere
          rcases List.infix_cons_iff.mp window with begins | later
          · rcases List.cons_prefix_cons.mp begins with ⟨rfl, three⟩
            exact notHere three
          · exact induction.mp short symbol later
      · intro none
        have notHere : ¬List.replicate 3 first <+: rest := by
          intro three
          apply none first
          exact (List.cons_prefix_cons.mpr ⟨rfl, three⟩).isInfix
        rw [if_neg notHere, induction]
        intro symbol window
        exact none symbol (List.infix_cons_iff.mpr (.inr window))

/-- Whether a run of three stands behind the first symbol is decided before the run
that is found is complete. -/
theorem isPrefix_run_iff (first symbol : Symbol) (front rest : List Symbol) :
    List.replicate 3 first <+: front ++ List.replicate 4 symbol ++ rest ↔
      List.replicate 3 first <+: front ++ List.replicate 3 symbol := by
  have parts : front ++ List.replicate 4 symbol ++ rest =
      front ++ List.replicate 3 symbol ++ symbol :: rest := by
    simp [List.replicate]
  have enough : (List.replicate 3 first).length ≤
      (front ++ List.replicate 3 symbol).length := by
    simp
  rw [parts]
  constructor
  · intro begins
    exact List.prefix_of_prefix_length_le begins (List.prefix_append _ _) enough
  · intro begins
    exact begins.trans (List.prefix_append _ _)

theorem ne_nil_of_longRun? {symbols : List Symbol} {symbol : Symbol}
    (found : longRun? symbols = some symbol) : symbols ≠ [] := by
  intro nothing
  subst nothing
  cases found

theorem longRun?_eq_some_iff {symbols : List Symbol} {symbol : Symbol} :
    longRun? symbols = some symbol ↔
      ∃ front rest, symbols = front ++ List.replicate 4 symbol ++ rest ∧
        longRun? (front ++ List.replicate 3 symbol) = none := by
  constructor
  · intro found
    induction symbols with
    | nil => cases found
    | cons first others induction =>
        rw [longRun?_cons] at found
        split at found
        · rename_i three
          cases found
          rcases three with ⟨rest, rfl⟩
          exact ⟨[], rest, rfl, rfl⟩
        · rename_i notHere
          rcases induction found with ⟨front, rest, rfl, short⟩
          rw [isPrefix_run_iff] at notHere
          refine ⟨first :: front, rest, rfl, ?_⟩
          rw [List.cons_append, longRun?_cons, if_neg notHere, short]
  · intro found
    rcases found with ⟨front, rest, rfl, short⟩
    induction front with
    | nil => exact if_pos ⟨rfl, rfl, rfl⟩
    | cons first front induction =>
        rw [List.cons_append, longRun?_cons] at short
        split at short
        · cases short
        · rename_i notHere
          rw [← isPrefix_run_iff first symbol front rest] at notHere
          rw [List.cons_append, List.cons_append, longRun?_cons, if_neg notHere]
          exact induction short

/-! ## Neighbours -/

theorem mayPrecede_iff {earlier later : Symbol} :
    mayPrecede earlier later = true ↔ MayStandBefore earlier later := by
  simp only [mayPrecede, MayStandBefore, Bool.or_eq_true, Bool.and_eq_true, decide_eq_true_eq,
    beq_iff_eq]
  omega

theorem badPair?_cons_cons {first second : Symbol} {rest : List Symbol} :
    badPair? (first :: second :: rest) = none ↔
      mayPrecede first second = true ∧ badPair? (second :: rest) = none := by
  cases may : mayPrecede first second <;> simp [badPair?, may]

theorem badPair?_eq_none_iff {symbols : List Symbol} :
    badPair? symbols = none ↔
      ∀ earlier later, [earlier, later] <:+: symbols → MayStandBefore earlier later := by
  induction symbols with
  | nil => simp [badPair?]
  | cons first rest induction =>
      cases rest with
      | nil =>
          constructor
          · intro _ earlier later pair
            cases Nat.not_succ_le_self 1 pair.length_le
          · intro _
            rfl
      | cons second rest =>
          rw [badPair?_cons_cons, mayPrecede_iff, induction]
          constructor
          · intro both earlier later pair
            rcases both with ⟨here, further⟩
            rcases List.infix_cons_iff.mp pair with begins | behind
            · rcases List.cons_prefix_cons.mp begins with ⟨rfl, next⟩
              rcases List.cons_prefix_cons.mp next with ⟨rfl, _⟩
              exact here
            · exact further earlier later behind
          · intro all
            constructor
            · exact all first second ⟨[], rest, rfl⟩
            · intro earlier later pair
              exact all earlier later (List.infix_cons_iff.mpr (.inr pair))

theorem ne_nil_of_badPair? {symbols : List Symbol} {pair : Symbol × Symbol}
    (found : badPair? symbols = some pair) : symbols ≠ [] := by
  intro nothing
  subst nothing
  cases found

theorem badPair?_cons (first : Symbol) (rest : List Symbol) :
    badPair? (first :: rest) =
      match rest.head? with
      | none => none
      | some second =>
        if mayPrecede first second then badPair? rest else some (first, second) := by
  cases rest <;> rfl

theorem badPair?_eq_some_iff {symbols : List Symbol} {earlier later : Symbol} :
    badPair? symbols = some (earlier, later) ↔
      ∃ front rest, symbols = front ++ earlier :: later :: rest ∧
        mayPrecede earlier later = false ∧ badPair? (front ++ [earlier]) = none := by
  have sameHead : ∀ front rest : List Symbol,
      (front ++ earlier :: rest).head? = (front ++ [earlier]).head? := by
    intro front rest
    cases front <;> rfl
  constructor
  · intro found
    induction symbols with
    | nil => cases found
    | cons first others induction =>
        rw [badPair?_cons] at found
        cases next : others.head? with
        | none =>
            rw [next] at found
            cases found
        | some second =>
            simp only [next] at found
            split at found
            · rename_i may
              rcases induction found with ⟨front, rest, rfl, bad, orderly⟩
              refine ⟨first :: front, rest, rfl, bad, ?_⟩
              rw [sameHead] at next
              rw [List.cons_append, badPair?_cons, next]
              simp only [may, if_true, orderly]
            · rename_i bad
              cases found
              rcases List.head?_eq_some_iff.mp next with ⟨rest, rfl⟩
              exact ⟨[], rest, rfl, Bool.eq_false_iff.mpr bad, rfl⟩
  · intro found
    rcases found with ⟨front, rest, rfl, bad, orderly⟩
    induction front with
    | nil => simp [badPair?, bad]
    | cons first front induction =>
        rw [List.cons_append, badPair?_cons] at orderly ⊢
        rw [sameHead]
        cases next : (front ++ [earlier]).head? with
        | none => simp at next
        | some second =>
            simp only [next] at orderly ⊢
            split at orderly
            · rename_i may
              rw [if_pos may, induction orderly]
            · cases orderly

/-! ## Reading -/

theorem isWellFormed_iff {symbols : List Symbol} :
    IsWellFormed symbols ↔ IsGrammatical symbols := by
  rw [IsWellFormed, longRun?_eq_none_iff, badPair?_eq_none_iff]
  constructor
  · intro wellFormed
    rcases wellFormed with ⟨nonempty, runs, pairs⟩
    exact ⟨nonempty, runs, pairs⟩
  · intro grammatical
    exact ⟨grammatical.nonempty, grammatical.runs, grammatical.pairs⟩

inductive Finding (symbols : List Symbol) : Except Fault Numeral → Prop
  | empty (nothing : symbols = []) : Finding symbols (.error .empty)
  | run {symbol : Symbol} (found : longRun? symbols = some symbol) :
      Finding symbols (.error (.excessiveRepeat symbol.toChar))
  | pair {earlier later : Symbol} (short : longRun? symbols = none)
      (found : badPair? symbols = some (earlier, later)) :
      Finding symbols (.error (.illegalSubtraction later.toChar earlier.toChar))
  | numeral (wellFormed : IsWellFormed symbols) : Finding symbols (.ok ⟨symbols, wellFormed⟩)

section

variable {symbols : List Symbol}

theorem finding_ofSymbols (symbols : List Symbol) : Finding symbols (ofSymbols symbols) := by
  unfold ofSymbols
  split
  · rename_i nothing
    exact .empty nothing
  · split
    · rename_i found
      exact .run found
    · rename_i short found
      exact .pair short found
    · exact .numeral _

theorem Finding.ofSymbols_eq {result : Except Fault Numeral} (finding : Finding symbols result) :
    ofSymbols symbols = result := by
  cases finding with
  | empty nothing => exact dif_pos nothing
  | run found =>
      rw [ofSymbols, dif_neg (ne_nil_of_longRun? found)]
      split
      · rename_i other
        cases other.symm.trans found
        rfl
      · rename_i short _
        cases short.symm.trans found
      · rename_i short _
        cases short.symm.trans found
  | pair short found =>
      rw [ofSymbols, dif_neg (ne_nil_of_badPair? found)]
      split
      · rename_i long
        cases short.symm.trans long
      · rename_i other
        cases other.symm.trans found
        rfl
      · rename_i orderly
        cases orderly.symm.trans found
  | numeral wellFormed =>
      rw [ofSymbols, dif_neg wellFormed.1]
      split
      · rename_i long
        cases wellFormed.2.1.symm.trans long
      · rename_i bad
        cases wellFormed.2.2.symm.trans bad
      · rfl

theorem ofSymbols_eq_iff {result : Except Fault Numeral} :
    ofSymbols symbols = result ↔ Finding symbols result := by
  constructor
  · intro same
    subst same
    exact finding_ofSymbols symbols
  · exact Finding.ofSymbols_eq

theorem ofSymbols_eq_ok_iff {numeral : Numeral} :
    ofSymbols symbols = .ok numeral ↔ symbols = numeral.symbols := by
  rw [ofSymbols_eq_iff]
  constructor
  · intro finding
    cases finding
    rfl
  · intro same
    subst same
    exact .numeral numeral.wellFormed

theorem not_isWellFormed_of_ofSymbols {fault : Fault}
    (found : ofSymbols symbols = .error fault) : ¬IsWellFormed symbols := by
  intro wellFormed
  cases found.symm.trans (Finding.numeral wellFormed).ofSymbols_eq

theorem exists_finding_error_iff :
    (∃ fault, Finding symbols (.error fault)) ↔ ¬IsGrammatical symbols := by
  simp only [← ofSymbols_eq_iff, ← isWellFormed_iff]
  constructor
  · intro found
    rcases found with ⟨fault, found⟩
    exact not_isWellFormed_of_ofSymbols found
  · intro malformed
    cases read : ofSymbols symbols with
    | error fault => exact ⟨fault, rfl⟩
    | ok numeral =>
        rw [ofSymbols_eq_ok_iff.mp read] at malformed
        exact absurd numeral.wellFormed malformed

theorem Finding.fault_cases {fault : Fault} (finding : Finding symbols (.error fault)) :
    (∀ letter, fault ≠ .unknownSymbol letter) ∧ (fault = .empty ↔ symbols = []) := by
  cases finding with
  | empty nothing => simp [nothing]
  | run found =>
      simp [ne_nil_of_longRun? found]
  | pair short found =>
      simp [ne_nil_of_badPair? found]

end

section

variable {text : String}

theorem parse_eq_ok_iff {numeral : Numeral} :
    parse text = .ok numeral ↔ Writes text numeral.symbols := by
  rw [Writes, ← spell_eq_ok_iff, parse]
  cases spell text.toList with
  | error letter => simp
  | ok symbols => simp [ofSymbols_eq_ok_iff]

theorem parse_eq_error_iff {fault : Fault} :
    parse text = .error fault ↔
      (∃ letter, spell text.toList = .error letter ∧ fault = .unknownSymbol letter) ∨
        ∃ symbols, Writes text symbols ∧ Finding symbols (.error fault) := by
  simp only [Writes, ← spell_eq_ok_iff, parse]
  cases spell text.toList with
  | error letter => simp [eq_comm]
  | ok symbols => simp [ofSymbols_eq_iff]

theorem writes_iff_name {numeral : Numeral} :
    Writes text numeral.symbols ↔ numeral.name = text.toUpper := by
  rw [Writes, name, ← String.toList_inj, String.toList_ofList, String.toUpper, String.toList_map]
  exact eq_comm

theorem parse_capitals (symbols : List Symbol) :
    parse (String.ofList (symbols.map Symbol.toChar)) = ofSymbols symbols := by
  have capitals : (symbols.map Symbol.toChar).map Char.toUpper = symbols.map Symbol.toChar := by
    rw [List.map_map]
    apply List.map_congr_left
    intro symbol _
    cases symbol <;> rfl
  rw [parse, String.toList_ofList, spell_eq_ok_iff.mpr capitals]

theorem parse_name (numeral : Numeral) : parse numeral.name = .ok numeral := by
  rw [name, parse_capitals, ofSymbols_eq_ok_iff]

theorem exists_parse_iff :
    (∃ numeral, parse text = .ok numeral) ↔
      ∃ symbols, Writes text symbols ∧ IsGrammatical symbols := by
  simp only [parse_eq_ok_iff, ← isWellFormed_iff]
  constructor
  · intro found
    rcases found with ⟨numeral, writes⟩
    exact ⟨numeral.symbols, writes, numeral.wellFormed⟩
  · intro found
    rcases found with ⟨symbols, writes, wellFormed⟩
    exact ⟨⟨symbols, wellFormed⟩, writes⟩

theorem parse_eq_empty_iff : parse text = .error .empty ↔ text = "" := by
  rw [parse_eq_error_iff]
  constructor
  · intro found
    rcases found with ⟨letter, _, impossible⟩ | ⟨symbols, writes, finding⟩
    · cases impossible
    · cases finding with
      | empty nothing =>
          subst nothing
          exact String.toList_eq_nil_iff.mp (List.map_eq_nil_iff.mp writes)
  · intro same
    subst same
    exact .inr ⟨[], rfl, .empty rfl⟩

theorem parse_eq_unknownSymbol_iff {letter : Char} :
    parse text = .error (.unknownSymbol letter) ↔
      ∃ front rest, text.toList = front ++ letter :: rest ∧
        (∀ other ∈ front, other ∈ symbolLetters) ∧ letter ∉ symbolLetters := by
  rw [← spell_eq_error_iff, parse_eq_error_iff]
  constructor
  · intro found
    rcases found with ⟨unknown, spelled, same⟩ | ⟨symbols, _, finding⟩
    · cases same
      exact spelled
    · cases finding
  · intro spelled
    exact .inl ⟨letter, spelled, rfl⟩

theorem parse_eq_excessiveRepeat_iff {letter : Char} :
    parse text = .error (.excessiveRepeat letter) ↔
      ∃ front symbol rest, Writes text (front ++ List.replicate 4 symbol ++ rest) ∧
        (∀ other, ¬List.replicate 4 other <:+: front ++ List.replicate 3 symbol) ∧
        letter = symbol.toChar := by
  rw [parse_eq_error_iff]
  constructor
  · intro found
    rcases found with ⟨unknown, _, impossible⟩ | ⟨symbols, writes, finding⟩
    · cases impossible
    · cases finding with
      | run found =>
          rcases longRun?_eq_some_iff.mp found with ⟨front, rest, rfl, short⟩
          exact ⟨front, _, rest, writes, longRun?_eq_none_iff.mp short, rfl⟩
  · intro found
    rcases found with ⟨front, symbol, rest, writes, short, rfl⟩
    refine .inr ⟨_, writes, .run (longRun?_eq_some_iff.mpr ⟨front, rest, rfl, ?_⟩)⟩
    exact longRun?_eq_none_iff.mpr short

theorem parse_eq_illegalSubtraction_iff {minuend subtrahend : Char} :
    parse text = .error (.illegalSubtraction minuend subtrahend) ↔
      ∃ front earlier later rest, Writes text (front ++ earlier :: later :: rest) ∧
        (∀ symbol, ¬List.replicate 4 symbol <:+: front ++ earlier :: later :: rest) ∧
        ¬MayStandBefore earlier later ∧
        (∀ left right, [left, right] <:+: front ++ [earlier] → MayStandBefore left right) ∧
        minuend = later.toChar ∧ subtrahend = earlier.toChar := by
  rw [parse_eq_error_iff]
  constructor
  · intro found
    rcases found with ⟨unknown, _, impossible⟩ | ⟨symbols, writes, finding⟩
    · cases impossible
    · cases finding with
      | pair short found =>
          rcases badPair?_eq_some_iff.mp found with ⟨front, rest, rfl, bad, orderly⟩
          refine ⟨front, _, _, rest, writes, longRun?_eq_none_iff.mp short, ?_,
            badPair?_eq_none_iff.mp orderly, rfl, rfl⟩
          rw [← mayPrecede_iff, bad]
          exact Bool.false_ne_true
  · intro found
    rcases found with ⟨front, earlier, later, rest, writes, short, bad, orderly, rfl, rfl⟩
    rw [← mayPrecede_iff, Bool.not_eq_true] at bad
    refine .inr ⟨_, writes, .pair (longRun?_eq_none_iff.mpr short) ?_⟩
    exact badPair?_eq_some_iff.mpr ⟨front, rest, rfl, bad, badPair?_eq_none_iff.mpr orderly⟩

end

/-- A text is a numeral exactly if its letters write grammatical symbols; the name of
the numeral is the text in capitals and is read back. The fault of any other text is
that it is empty, or else its first letter that writes no symbol, or else the symbol
of the first run of more than three, or else the first two neighbours that may not
stand in their order. -/
theorem parse_accepts_grammar_or_names_first_fault (text : String) :
    ((∃ numeral, parse text = .ok numeral) ↔
      ∃ symbols, Writes text symbols ∧ IsGrammatical symbols) ∧
    (∀ numeral, parse text = .ok numeral ↔ numeral.name = text.toUpper) ∧
    (∀ numeral : Numeral, parse numeral.name = .ok numeral) ∧
    (parse text = .error .empty ↔ text = "") ∧
    (∀ letter, parse text = .error (.unknownSymbol letter) ↔
      ∃ front rest, text.toList = front ++ letter :: rest ∧
        (∀ other ∈ front, other ∈ symbolLetters) ∧ letter ∉ symbolLetters) ∧
    (∀ letter, parse text = .error (.excessiveRepeat letter) ↔
      ∃ front symbol rest, Writes text (front ++ List.replicate 4 symbol ++ rest) ∧
        (∀ other, ¬List.replicate 4 other <:+: front ++ List.replicate 3 symbol) ∧
        letter = symbol.toChar) ∧
    ∀ minuend subtrahend, parse text = .error (.illegalSubtraction minuend subtrahend) ↔
      ∃ front earlier later rest, Writes text (front ++ earlier :: later :: rest) ∧
        (∀ symbol, ¬List.replicate 4 symbol <:+: front ++ earlier :: later :: rest) ∧
        ¬MayStandBefore earlier later ∧
        (∀ left right, [left, right] <:+: front ++ [earlier] → MayStandBefore left right) ∧
        minuend = later.toChar ∧ subtrahend = earlier.toChar := by
  refine ⟨exists_parse_iff, ?_, parse_name, parse_eq_empty_iff, ?_, ?_, ?_⟩
  · intro numeral
    rw [parse_eq_ok_iff, writes_iff_name]
  · intro letter
    exact parse_eq_unknownSymbol_iff
  · intro letter
    exact parse_eq_excessiveRepeat_iff
  · intro minuend subtrahend
    exact parse_eq_illegalSubtraction_iff

end Numeral

end TradeSpeech
