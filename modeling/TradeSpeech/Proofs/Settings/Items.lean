import TradeSpeech.Proofs.Conversation.Recall
import TradeSpeech.Proofs.Settings.Seeding

/-! # Items that settings give a price

An accepted name of an item holds one word. It can be asked for when it is that word,
without blanks around it. -/

namespace TradeSpeech

theorem Settings.IsUsable.isWord {settings : Settings} (usable : settings.IsUsable)
    {item : String} {price : Float} (stated : settings.prices[item]? = some price)
    (whole : Text.trim item = item) : Text.IsWord item.toList := by
  have single : (Text.wordsOf item.toList).length = 1 := by
    simpa [Text.words] using (usable.prices item price stated).1
  rw [← Text.trimmed_toList whole]
  exact Text.isWord_trimmed_of_single single

/-- Settings that are accepted start a session, in which any quantity of an item can be asked
for at the price that they state, whatever aliases are defined on top of theirs. The name of
the item is spelled without blanks around it, and no other item has it in another case. -/
theorem accepted_items_can_be_asked_for {settings : Settings}
    (accepted : settings.validate = .ok ()) :
    ∃ seeded, Session.ofSettings settings = .ok seeded ∧
      ∀ (definitions : List (String × Symbol)) (item : String) (price : Float),
        settings.prices[item]? = some price →
        (∀ other ∈ settings.prices, Text.upperCase other = Text.upperCase item → other = item) →
        Text.trim item = item →
        let session := { seeded with aliases := seeded.aliases.defineAll definitions }
        ∀ (phrase : String) (numeral : Numeral), '\n' ∉ phrase.toList →
          session.quantity phrase = .ok numeral →
          hear Rule.standard session ("how many Credits is " ++ phrase ++ " " ++ item ++ " ?") =
            (session, .answered .queryPrice (some (Text.trim phrase ++ " " ++ item ++ " is " ++
              Decimal.text (totalPrice price numeral.value) ++ " Credits"))) := by
  have usable := Settings.validate_eq_ok_iff.mp accepted
  rcases Session.exists_ofSettings usable with ⟨seeded, seeding⟩
  refine ⟨seeded, seeding, ?_⟩
  intro definitions item price stated only whole session phrase numeral oneLine quantity
  have known : session.prices.lookup item = some price :=
    Session.lookup_price_of_only seeding stated only
  exact hear_asking_total oneLine (usable.isWord stated whole) quantity known

private def oneItem (item : String) : Settings where
  aliases := (∅ : Std.ExtTreeMap String String).insert "glob" "I"
  prices := (∅ : Std.ExtTreeMap String Float).insert item 17

private theorem oneItem_stated (item : String) : (oneItem item).prices[item]? = some 17 :=
  Std.ExtTreeMap.getElem?_insert_self

private theorem oneItem_only (item : String) : ∀ other ∈ (oneItem item).prices,
    Text.upperCase other = Text.upperCase item → other = item := by
  intro other member _
  have same : compare item other = .eq := by
    simpa [oneItem] using member
  exact (Std.LawfulEqOrd.eq_of_compare same).symm

/-- An item may be named by a word of the question. -/
theorem accepted_items_can_be_asked_for_at_keyword_item :
    (oneItem "is").validate = .ok () ∧
      ∃ seeded, Session.ofSettings (oneItem "is") = .ok seeded ∧
        ∃ numeral : Numeral,
          let session := { seeded with aliases := seeded.aliases.defineAll [("prok", .V)] }
          session.quantity " glob  PROK " = .ok numeral ∧
          hear Rule.standard session
              ("how many Credits is " ++ " glob  PROK " ++ " " ++ "is" ++ " ?") =
            (session, .answered .queryPrice (some (Text.trim " glob  PROK " ++ " " ++ "is" ++
              " is " ++ Decimal.text (totalPrice 17 numeral.value) ++ " Credits"))) := by
  have accepted : (oneItem "is").validate = .ok () := by
    decide +kernel
  have named : ((Session.ofSettings (oneItem "is")).toOption.bind fun seeded =>
      numeralOf? (seeded.aliases.defineAll [("prok", .V)]).lookup
        " glob  PROK ").isSome = true := by
    decide +kernel
  rcases accepted_items_can_be_asked_for accepted with ⟨seeded, seeding, asked⟩
  rw [seeding] at named
  rcases Option.isSome_iff_exists.mp named with ⟨numeral, found⟩
  have quantity : ({ seeded with aliases := seeded.aliases.defineAll [("prok", .V)] } :
      Session).quantity " glob  PROK " = .ok numeral := Session.quantity_eq_ok_iff.mpr found
  exact ⟨accepted, seeded, seeding, numeral, quantity,
    asked [("prok", .V)] "is" 17 (oneItem_stated "is") (oneItem_only "is") (by decide)
      " glob  PROK " numeral (by decide) quantity⟩

/-- A name with a blank before its word is accepted, and cannot be asked for. -/
theorem accepted_item_behind_blank_is_unknown :
    ¬∀ settings : Settings, settings.validate = .ok () →
      ∃ seeded, Session.ofSettings settings = .ok seeded ∧
        ∀ (definitions : List (String × Symbol)) (item : String) (price : Float),
          settings.prices[item]? = some price →
          (∀ other ∈ settings.prices, Text.upperCase other = Text.upperCase item →
            other = item) →
          let session := { seeded with aliases := seeded.aliases.defineAll definitions }
          ∀ (phrase : String) (numeral : Numeral), '\n' ∉ phrase.toList →
            session.quantity phrase = .ok numeral →
            ∃ message, (hear Rule.standard session
              ("how many Credits is " ++ phrase ++ " " ++ item ++ " ?")).2 =
                .answered .queryPrice message := by
  intro allCanBeAskedFor
  have accepted : (oneItem " Silver").validate = .ok () := by
    decide +kernel
  have named : ((Session.ofSettings (oneItem " Silver")).toOption.bind fun seeded =>
      numeralOf? seeded.aliases.lookup "glob").isSome = true := by
    decide +kernel
  have outcome : ((Session.ofSettings (oneItem " Silver")).toOption.map fun seeded =>
      (hear Rule.standard seeded "how many Credits is glob  Silver ?").2) =
        some (.rejected .queryPrice (.unknownItem "Silver")) := by
    decide +kernel
  rcases allCanBeAskedFor (oneItem " Silver") accepted with ⟨seeded, seeding, asked⟩
  rw [seeding] at named outcome
  rcases Option.isSome_iff_exists.mp named with ⟨numeral, found⟩
  rcases asked [] " Silver" 17 (oneItem_stated " Silver") (oneItem_only " Silver") "glob" numeral
    (by decide) (Session.quantity_eq_ok_iff.mpr found) with ⟨message, answered⟩
  -- The question names the word alone, and the price is kept under the name with its blank.
  cases (Option.some.inj outcome).symm.trans answered

end TradeSpeech
