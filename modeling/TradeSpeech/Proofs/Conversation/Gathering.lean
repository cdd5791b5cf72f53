import Mathlib.Logic.Function.Basic
import TradeSpeech.Proofs.Conversation.Batches
import TradeSpeech.Proofs.Conversation.Footprint
import TradeSpeech.Proofs.Conversation.Sharing

/-! # Speakers who share a session

Each speaker has a text to say, and says it line by line. Whose line comes next is left
open, so a list of speakers stands for any way in which their lines can fall between one
another. Where nobody writes what somebody else touches, everyone hears what they would
hear alone, and the session ends up the same. -/

namespace TradeSpeech

structure Speaker where
  pending : List String
  heard : Transcript

structure Gathering (ι : Type u) where
  shared : SharedSession
  speakers : ι → Speaker

namespace Gathering

variable {ι : Type u}

def start (session : Session) (texts : ι → String) : Gathering ι where
  shared := .sound session
  speakers who := { pending := Text.spokenLines (texts who), heard := [] }

def IsSilent (gathering : Gathering ι) : Prop :=
  ∀ who, (gathering.speakers who).pending = []

variable [DecidableEq ι]

/-- A speaker says the next line, and holds the session for as long as it is heard. Who
has nothing left to say is passed over. -/
def speak (rules : List Rule) (gathering : Gathering ι) (who : ι) : Gathering ι :=
  match (gathering.speakers who).pending with
  | [] => gathering
  | line :: pending =>
    let (shared, outcome) := SharedSession.hear rules gathering.shared line
    let heard := (gathering.speakers who).heard ++ [⟨line, outcome⟩]
    { shared, speakers := Function.update gathering.speakers who { pending, heard } }

def speakAll (rules : List Rule) (gathering : Gathering ι) (order : List ι) : Gathering ι :=
  order.foldl (speak rules) gathering

end Gathering

/-! ## What a text touches -/

def Writes (text : String) (place : Place) : Prop :=
  ∃ line ∈ Text.spokenLines text, place ∈ (footprint line).writes

def Touches (text : String) (place : Place) : Prop :=
  ∃ line ∈ Text.spokenLines text,
    place ∈ (footprint line).reads ∨ place ∈ (footprint line).writes

theorem Writes.touches {text : String} {place : Place} (writes : Writes text place) :
    Touches text place := by
  rcases writes with ⟨line, member, written⟩
  exact ⟨line, member, .inr written⟩

/-- Nobody may write what somebody else may read or write. -/
def Independent {ι : Type u} (texts : ι → String) : Prop :=
  ∀ one other, one ≠ other → ∀ line ∈ Text.spokenLines (texts one),
    ∀ more ∈ Text.spokenLines (texts other), ∀ place ∈ (footprint line).writes,
      place ∉ (footprint more).reads ∧ place ∉ (footprint more).writes

theorem Independent.not_mem_writes {ι : Type u} {texts : ι → String}
    (independent : Independent texts) {one other : ι} (different : one ≠ other) {line : String}
    (member : line ∈ Text.spokenLines (texts one)) {place : Place}
    (touches : Touches (texts other) place) : place ∉ (footprint line).writes := by
  intro written
  rcases touches with ⟨more, moreMember, touched⟩
  have apart := independent one other different line member more moreMember place written
  rcases touched with read | alsoWritten
  · exact apart.1 read
  · exact apart.2 alsoWritten

/-! ## Undisturbed speakers -/

section

variable {session current next : Session} {text : String} {speaker : Speaker}

def Speaker.IsUndisturbed (session current : Session) (text : String) (speaker : Speaker) :
    Prop :=
  ∃ said, Text.spokenLines text = said ++ speaker.pending ∧
    speaker.heard = (hearLines (hear Rule.standard) session said).2 ∧
    ∀ place, Touches text place →
      (hearLines (hear Rule.standard) session said).1.SameAt current place

theorem Speaker.IsUndisturbed.mem_spokenLines {line : String} {pending : List String}
    (undisturbed : speaker.IsUndisturbed session current text)
    (lines : speaker.pending = line :: pending) : line ∈ Text.spokenLines text := by
  rcases undisturbed with ⟨said, parts, _⟩
  rw [parts, lines]
  exact List.mem_append_right said List.mem_cons_self

theorem Speaker.IsUndisturbed.hear {line : String} {pending : List String} {outcome : Outcome}
    (undisturbed : speaker.IsUndisturbed session current text)
    (lines : speaker.pending = line :: pending)
    (heard : TradeSpeech.hear Rule.standard current line = (next, outcome)) :
    Speaker.IsUndisturbed session next text
      { pending, heard := speaker.heard ++ [⟨line, outcome⟩] } := by
  have member := undisturbed.mem_spokenLines lines
  rcases undisturbed with ⟨said, parts, heardAlone, same⟩
  have covers : ∀ place ∈ (footprint line).reads, Touches text place :=
    fun place read => ⟨line, member, .inl read⟩
  have alone := hear_of_sameAt same covers
  rw [heard] at alone
  refine ⟨said ++ [line], ?_, ?_, ?_⟩
  · simp [parts, lines]
  · simp [heardAlone, hearLines_append, hearLines, alone.1]
  · simpa [hearLines_append, hearLines] using alone.2

theorem Speaker.IsUndisturbed.pass (undisturbed : speaker.IsUndisturbed session current text)
    (same : ∀ place, Touches text place → current.SameAt next place) :
    speaker.IsUndisturbed session next text := by
  rcases undisturbed with ⟨said, parts, heardAlone, sameBefore⟩
  exact ⟨said, parts, heardAlone,
    fun place touches => (sameBefore place touches).trans (same place touches)⟩

theorem Speaker.IsUndisturbed.heard_of_pending
    (undisturbed : speaker.IsUndisturbed session current text) (done : speaker.pending = []) :
    speaker.heard = (hearText Rule.standard session text).2 ∧
      ∀ place, Touches text place →
        (hearText Rule.standard session text).1.SameAt current place := by
  rcases undisturbed with ⟨said, parts, heardAlone, same⟩
  rw [done, List.append_nil] at parts
  rw [hearText, parts]
  exact ⟨heardAlone, same⟩

end

namespace Gathering

variable {ι : Type u} {session current : Session} {texts : ι → String}
  {gathering : Gathering ι}

structure Undisturbed (session : Session) (texts : ι → String) (gathering : Gathering ι)
    (current : Session) : Prop where
  shared : gathering.shared = .sound current
  speakers : ∀ who, (gathering.speakers who).IsUndisturbed session current (texts who)
  untouched : ∀ place, (∀ who, ¬Writes (texts who) place) → session.SameAt current place

theorem undisturbed_start (session : Session) (texts : ι → String) :
    Undisturbed session texts (start session texts) session where
  shared := rfl
  speakers _ := ⟨[], rfl, rfl, fun place _ => .refl session place⟩
  untouched place _ := .refl session place

/-- Once all has been said, the session does not tell in which order. -/
theorem Undisturbed.current_eq {other : Gathering ι} {otherCurrent : Session}
    (undisturbed : Undisturbed session texts gathering current)
    (otherUndisturbed : Undisturbed session texts other otherCurrent)
    (silent : gathering.IsSilent) (otherSilent : other.IsSilent) : current = otherCurrent := by
  apply Session.eq_of_sameAt
  intro place
  -- What somebody writes is as it was left to them alone; all else is as it was at the start.
  by_cases written : ∃ who, Writes (texts who) place
  · rcases written with ⟨who, writes⟩
    have alone := (undisturbed.speakers who).heard_of_pending (silent who)
    have otherAlone := (otherUndisturbed.speakers who).heard_of_pending (otherSilent who)
    exact (alone.2 place writes.touches).symm.trans (otherAlone.2 place writes.touches)
  · have unwritten : ∀ who, ¬Writes (texts who) place :=
      fun who writes => written ⟨who, writes⟩
    exact (undisturbed.untouched place unwritten).symm.trans
      (otherUndisturbed.untouched place unwritten)

/-! ## One line after the other -/

variable [DecidableEq ι]

theorem speak_of_pending {who : ι} {line : String} {pending : List String} {next : Session}
    {outcome : Outcome} (shared : gathering.shared = .sound current)
    (lines : (gathering.speakers who).pending = line :: pending)
    (heard : hear Rule.standard current line = (next, outcome)) :
    gathering.speak Rule.standard who =
      { shared := .sound next
        speakers := Function.update gathering.speakers who
          { pending, heard := (gathering.speakers who).heard ++ [⟨line, outcome⟩] } } := by
  simp only [speak, lines, shared, SharedSession.hear_sound, heard]

theorem Undisturbed.speak (independent : Independent texts)
    (undisturbed : Undisturbed session texts gathering current) (who : ι) :
    ∃ next, Undisturbed session texts (gathering.speak Rule.standard who) next := by
  cases lines : (gathering.speakers who).pending with
  | nil =>
      have passed : gathering.speak Rule.standard who = gathering := by
        simp only [Gathering.speak, lines]
      rw [passed]
      exact ⟨current, undisturbed⟩
  | cons line pending =>
      have member := (undisturbed.speakers who).mem_spokenLines lines
      rcases heard : hear Rule.standard current line with ⟨next, outcome⟩
      have unwritten : ∀ place, place ∉ (footprint line).writes → current.SameAt next place :=
        fun place => (hear_eq_iff.mp heard).sameAt_of_not_mem_writes
      rw [speak_of_pending undisturbed.shared lines heard]
      refine ⟨next, rfl, ?_, ?_⟩
      · intro other
        by_cases speaks : other = who
        · subst speaks
          simp only [Function.update_self]
          exact (undisturbed.speakers other).hear lines heard
        · simp only [Function.update_of_ne speaks]
          apply (undisturbed.speakers other).pass
          intro place touches
          exact unwritten place (independent.not_mem_writes (Ne.symm speaks) member touches)
      · intro place untouched
        have passes : place ∉ (footprint line).writes :=
          fun written => untouched who ⟨line, member, written⟩
        exact (undisturbed.untouched place untouched).trans (unwritten place passes)

theorem Undisturbed.speakAll (independent : Independent texts)
    (undisturbed : Undisturbed session texts gathering current) (order : List ι) :
    ∃ next, Undisturbed session texts (gathering.speakAll Rule.standard order) next := by
  induction order generalizing gathering current with
  | nil => exact ⟨current, undisturbed⟩
  | cons who order induction =>
      rcases undisturbed.speak independent who with ⟨next, spoken⟩
      exact induction spoken

end Gathering

/-- Speakers of independent texts do not disturb each other: in whatever order their lines
fall, everyone hears what they would hear alone, and the session ends up the same. -/
theorem independent_speakers_are_undisturbed {ι : Type u} [DecidableEq ι] (session : Session)
    (texts : ι → String) (independent : Independent texts) (order : List ι)
    (silent : ((Gathering.start session texts).speakAll Rule.standard order).IsSilent) :
    (∀ who, (((Gathering.start session texts).speakAll Rule.standard order).speakers who).heard =
      (SharedSession.hearText Rule.standard (.sound session) (texts who)).2) ∧
    ∀ other : List ι,
      ((Gathering.start session texts).speakAll Rule.standard other).IsSilent →
      ((Gathering.start session texts).speakAll Rule.standard other).shared =
        ((Gathering.start session texts).speakAll Rule.standard order).shared := by
  rcases (Gathering.undisturbed_start session texts).speakAll independent order with
    ⟨current, undisturbed⟩
  constructor
  · intro who
    rw [((undisturbed.speakers who).heard_of_pending (silent who)).1, SharedSession.hearText,
      SharedSession.hearLines_sound]
    rfl
  · intro other otherSilent
    rcases (Gathering.undisturbed_start session texts).speakAll independent other with
      ⟨otherCurrent, otherUndisturbed⟩
    rw [undisturbed.shared, otherUndisturbed.shared,
      undisturbed.current_eq otherUndisturbed silent otherSilent]

private def pricingAndAsking (asking : Bool) : String :=
  if asking then "prok is V\nhow much is prok glob ?"
  else "glob glob Silver is 34 Credits\nhow many Credits is glob Silver ?"

/-- The lines of the two speakers may fall between one another or follow one another. -/
theorem independent_speakers_are_undisturbed_between_lines :
    let start := Gathering.start ((∅ : Session).defineAlias "glob" .I) pricingAndAsking
    let woven := start.speakAll Rule.standard [true, false, false, true]
    let inTurn := start.speakAll Rule.standard [false, false, true, true]
    Independent pricingAndAsking ∧ woven.IsSilent ∧ inTurn.IsSilent ∧
      (∀ who, (woven.speakers who).heard =
        (SharedSession.hearText Rule.standard (.sound ((∅ : Session).defineAlias "glob" .I))
          (pricingAndAsking who)).2) ∧
      (woven.speakers true).heard.replies = [⟨true, none⟩, ⟨true, some "prok glob is 6"⟩] ∧
      inTurn.shared = woven.shared := by
  have independent : Independent pricingAndAsking := by
    unfold Independent
    decide +kernel
  have woven : ((Gathering.start ((∅ : Session).defineAlias "glob" .I)
      pricingAndAsking).speakAll Rule.standard [true, false, false, true]).IsSilent := by
    unfold Gathering.IsSilent
    decide +kernel
  have inTurn : ((Gathering.start ((∅ : Session).defineAlias "glob" .I)
      pricingAndAsking).speakAll Rule.standard [false, false, true, true]).IsSilent := by
    unfold Gathering.IsSilent
    decide +kernel
  have undisturbed := independent_speakers_are_undisturbed
    ((∅ : Session).defineAlias "glob" .I) pricingAndAsking independent _ woven
  exact ⟨independent, woven, inTurn, undisturbed.1, by decide +kernel, undisturbed.2 _ inTurn⟩

end TradeSpeech
