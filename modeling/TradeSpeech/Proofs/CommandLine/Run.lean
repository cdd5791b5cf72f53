import TradeSpeech.CommandLine.Run
import TradeSpeech.Proofs.Rendering.Separated
import TradeSpeech.Proofs.Settings.Seeding

/-! # How a run ends

A run fails when its settings are refused or its input is no text. Nothing that is said in the
input makes it fail. -/

namespace TradeSpeech.CommandLine

theorem textOf_eq_ok_iff {content : Option ByteArray} {text : String} :
    textOf content = .ok text ↔ content = some text.toUTF8 := by
  cases content with
  | none => simp [textOf]
  | some bytes =>
      rw [Option.some_inj, ← Text.fromUTF8?_eq_some_iff]
      cases decoded : String.fromUTF8? bytes <;> simp [textOf, decoded]

theorem textOf_eq_unreadable {content : Option ByteArray}
    (noText : ∀ text : String, content ≠ some text.toUTF8) :
    textOf content = .error unreadable := by
  cases read : textOf content with
  | ok text => exact absurd (textOf_eq_ok_iff.mp read) (noText text)
  | error error =>
      unfold textOf at read
      split at read
      · cases read
      · exact read.symm

/-! ## Settings and input -/

namespace Surroundings

variable (surroundings : Surroundings)

def States : Option String → Settings → Prop
  | none, settings => settings = {}
  | some path, settings => ∃ document : String,
      surroundings.file path = some document.toUTF8 ∧
        Settings.parse surroundings.environment document = .ok settings

def Accepts (path : Option String) (settings : Settings) : Prop :=
  surroundings.States path settings ∧ settings.validate = .ok ()

inductive Refuses : Option String → Error → Prop
  | noText {path : String}
      (noText : ∀ document : String, surroundings.file path ≠ some document.toUTF8) :
      Refuses (some path) unreadable
  | noSettings {path document : String} {error : Error}
      (read : surroundings.file path = some document.toUTF8)
      (parsed : Settings.parse surroundings.environment document = .error error) :
      Refuses (some path) error
  | invalid {path : Option String} {settings : Settings} {error : Error}
      (stated : surroundings.States path settings) (refused : settings.validate = .error error) :
      Refuses path error

def Says : Option String → String → Prop
  | none, text => surroundings.standardInput = text.toUTF8
  | some path, text => surroundings.file path = some text.toUTF8

variable {surroundings} {path : Option String} {settings : Settings} {text : String}
  {error : Error}

theorem settings_eq_ok (accepts : surroundings.Accepts path settings) :
    surroundings.settings path = .ok settings := by
  rcases accepts with ⟨stated, valid⟩
  cases path with
  | none =>
      cases stated
      simp [Surroundings.settings, valid]
  | some path =>
      rcases stated with ⟨document, read, parsed⟩
      simp [Surroundings.settings, textOf_eq_ok_iff.mpr read, parsed, valid]

theorem settings_eq_error (refuses : surroundings.Refuses path error) :
    surroundings.settings path = .error error := by
  cases refuses with
  | noText noText =>
      simp [Surroundings.settings, textOf_eq_unreadable noText]
  | noSettings read parsed =>
      simp [Surroundings.settings, textOf_eq_ok_iff.mpr read, parsed]
  | invalid stated refused =>
      cases path with
      | none =>
          cases stated
          simp [Surroundings.settings, refused]
      | some path =>
          rcases stated with ⟨document, read, parsed⟩
          simp [Surroundings.settings, textOf_eq_ok_iff.mpr read, parsed, refused]

theorem Accepts.exists_ofSettings (accepts : surroundings.Accepts path settings) :
    ∃ seeded, Session.ofSettings settings = .ok seeded :=
  Session.exists_ofSettings (Settings.validate_eq_ok_iff.mp accepts.2)

theorem exists_accepts_or_refuses (surroundings : Surroundings) (path : Option String) :
    (∃ settings, surroundings.Accepts path settings) ∨
      ∃ error, surroundings.Refuses path error := by
  have checked : ∀ settings, surroundings.States path settings →
      (∃ settings, surroundings.Accepts path settings) ∨
        ∃ error, surroundings.Refuses path error := by
    intro settings stated
    cases valid : settings.validate with
    | ok => exact .inl ⟨settings, stated, valid⟩
    | error error => exact .inr ⟨error, .invalid stated valid⟩
  cases path with
  | none => exact checked {} rfl
  | some path =>
      by_cases isText : ∃ document : String, surroundings.file path = some document.toUTF8
      · rcases isText with ⟨document, read⟩
        cases parsed : Settings.parse surroundings.environment document with
        | ok settings => exact checked settings ⟨document, read, parsed⟩
        | error error => exact .inr ⟨error, .noSettings read parsed⟩
      · exact .inr ⟨unreadable, .noText (not_exists.mp isText)⟩

theorem input_eq_ok (said : surroundings.Says path text) : surroundings.input path = .ok text := by
  cases path with
  | none => exact textOf_eq_ok_iff.mpr (congrArg some said)
  | some path => exact textOf_eq_ok_iff.mpr said

theorem input_eq_unreadable (silent : ∀ text, ¬surroundings.Says path text) :
    surroundings.input path = .error unreadable := by
  cases path with
  | none => exact textOf_eq_unreadable fun text same => silent text (Option.some_inj.mp same)
  | some path => exact textOf_eq_unreadable silent

end Surroundings

/-! ## Runs -/

/-- What a failure is due to. The input is only at fault where the settings are not. -/
inductive Causes (surroundings : Surroundings) (options : Options) : Failure → Prop
  | settings {error : Error} (refuses : surroundings.Refuses options.settings error) :
      Causes surroundings options (.settings error)
  | input {settings : Settings} (accepts : surroundings.Accepts options.settings settings)
      (silent : ∀ text, ¬surroundings.Says options.input text) :
      Causes surroundings options (.input unreadable)

section

variable {surroundings : Surroundings} {options : Options} {settings : Settings} {text : String}
  {failure : Failure}

theorem exists_present_of_says (accepts : surroundings.Accepts options.settings settings)
    (said : surroundings.Says options.input text) :
    ∃ seeded, Session.ofSettings settings = .ok seeded ∧
      present surroundings options = .ok ((options.format.getD settings.format).render
        settings.separator (hearText Rule.standard seeded text).2) := by
  rcases accepts.exists_ofSettings with ⟨seeded, seeding⟩
  refine ⟨seeded, seeding, ?_⟩
  rw [present, Surroundings.settings_eq_ok accepts]
  simp only [seeding, Surroundings.input_eq_ok said, Format.present_eq_ok]

theorem present_of_causes (causes : Causes surroundings options failure) :
    present surroundings options = .error failure := by
  cases causes with
  | settings refuses => rw [present, Surroundings.settings_eq_error refuses]
  | input accepts silent =>
      rcases accepts.exists_ofSettings with ⟨seeded, seeding⟩
      rw [present, Surroundings.settings_eq_ok accepts]
      simp only [seeding, Surroundings.input_eq_unreadable silent]

theorem ready_or_causes (surroundings : Surroundings) (options : Options) :
    (∃ settings text, surroundings.Accepts options.settings settings ∧
        surroundings.Says options.input text) ∨
      ∃ failure, Causes surroundings options failure := by
  rcases surroundings.exists_accepts_or_refuses options.settings with
    ⟨settings, accepts⟩ | ⟨error, refuses⟩
  · by_cases said : ∃ text, surroundings.Says options.input text
    · rcases said with ⟨text, said⟩
      exact .inl ⟨settings, text, accepts, said⟩
    · exact .inr ⟨_, .input accepts (not_exists.mp said)⟩
  · exact .inr ⟨_, .settings refuses⟩

theorem exists_run_of_says (accepts : surroundings.Accepts options.settings settings)
    (said : surroundings.Says options.input text) :
    ∃ seeded, Session.ofSettings settings = .ok seeded ∧
      run surroundings options = ⟨0, (options.format.getD settings.format).render
        settings.separator (hearText Rule.standard seeded text).2, none⟩ := by
  rcases exists_present_of_says accepts said with ⟨seeded, seeding, presented⟩
  exact ⟨seeded, seeding, by rw [run, presented]⟩

theorem run_of_causes (causes : Causes surroundings options failure) :
    run surroundings options = ⟨1, "", some (noticeOf failure)⟩ := by
  rw [run, present_of_causes causes]

theorem code_run_eq_zero_iff :
    (run surroundings options).code = 0 ↔
      (∃ settings, surroundings.Accepts options.settings settings) ∧
        ∃ text, surroundings.Says options.input text := by
  constructor
  · intro success
    rcases ready_or_causes surroundings options with
      ⟨settings, text, accepts, said⟩ | ⟨failure, causes⟩
    · exact ⟨⟨settings, accepts⟩, text, said⟩
    · rw [run_of_causes causes] at success
      cases success
  · rintro ⟨⟨settings, accepts⟩, text, said⟩
    rcases exists_run_of_says accepts said with ⟨seeded, _, printed⟩
    rw [printed]

theorem exists_causes_of_code_run_ne_zero (failed : (run surroundings options).code ≠ 0) :
    ∃ failure, Causes surroundings options failure := by
  rcases ready_or_causes surroundings options with ⟨settings, text, accepts, said⟩ | causes
  · exact absurd (code_run_eq_zero_iff.mpr ⟨⟨settings, accepts⟩, text, said⟩) failed
  · exact causes

theorem causes_of_present (failed : present surroundings options = .error failure) :
    Causes surroundings options failure := by
  rcases ready_or_causes surroundings options with
    ⟨settings, text, accepts, said⟩ | ⟨other, causes⟩
  · rcases exists_present_of_says accepts said with ⟨seeded, _, presented⟩
    rw [presented] at failed
    cases failed
  · rw [present_of_causes causes] at failed
    cases failed
    exact causes

end

/-- A run succeeds exactly when its settings are accepted and its input is a text, and then it
prints what is heard. Otherwise it prints nothing, for one of two reasons. -/
theorem run_is_all_or_nothing (surroundings : Surroundings) (options : Options) :
    ((run surroundings options).code = 0 ↔
      (∃ settings, surroundings.Accepts options.settings settings) ∧
        ∃ text, surroundings.Says options.input text) ∧
    (∀ settings text, surroundings.Accepts options.settings settings →
      surroundings.Says options.input text →
      ∃ seeded, Session.ofSettings settings = .ok seeded ∧
        run surroundings options = ⟨0, (options.format.getD settings.format).render
          settings.separator (hearText Rule.standard seeded text).2, none⟩) ∧
    ((run surroundings options).code ≠ 0 →
      ∃ failure, Causes surroundings options failure ∧
        present surroundings options = .error failure ∧
        run surroundings options = ⟨1, "", some (noticeOf failure)⟩) ∧
    ∀ error, present surroundings options ≠ .error (.session error) ∧
      present surroundings options ≠ .error (.rendering error) := by
  refine ⟨code_run_eq_zero_iff, ?_, ?_, ?_⟩
  · intro settings text accepts said
    exact exists_run_of_says accepts said
  · intro failed
    rcases exists_causes_of_code_run_ne_zero failed with ⟨failure, causes⟩
    exact ⟨failure, causes, present_of_causes causes, run_of_causes causes⟩
  · intro error
    -- Neither failure has a cause.
    constructor
    · intro failed
      cases causes_of_present failed
    · intro failed
      cases causes_of_present failed

private def oneFile (document said : String) : Surroundings where
  environment _ := none
  file path := if path = "guide.toml" then some document.toUTF8 else none
  standardInput := said.toUTF8

private def settingsFile : String :=
  "aliases.glob = \"V\"\n[output]\nformat = \"csv\"\nseparator = \" = \"\n"

/-- The format and the separator are found in the file beside an alias, which is known to the
input. A format among the options is preferred to that of the file. -/
theorem run_is_all_or_nothing_with_alias :
    let surroundings := oneFile settingsFile "how much is glob ?"
    let options : Options := { settings := "guide.toml" }
    let plainly : Options := { settings := "guide.toml", format := some .text }
    run surroundings options =
        ⟨0, "line,status,message\nhow much is glob ?,true,glob is 5\n", none⟩ ∧
      run surroundings plainly = ⟨0, "Test Output:\nhow much is glob ? = glob is 5\n", none⟩ ∧
      ∃ settings text seeded, surroundings.Accepts options.settings settings ∧
        surroundings.Says options.input text ∧ Session.ofSettings settings = .ok seeded ∧
        settings.format = .csv ∧ settings.separator = " = " ∧
        run surroundings options = ⟨0, Format.csv.render settings.separator
          (hearText Rule.standard seeded text).2, none⟩ := by
  intro surroundings options plainly
  have printed : run surroundings options =
      ⟨0, "line,status,message\nhow much is glob ?,true,glob is 5\n", none⟩ := by
    decide +kernel
  have plainlyPrinted : run surroundings plainly =
      ⟨0, "Test Output:\nhow much is glob ? = glob is 5\n", none⟩ := by
    decide +kernel
  have output : (surroundings.settings options.settings).map
      (fun settings => (settings.format, settings.separator)) = .ok (.csv, " = ") := by
    decide +kernel
  have success : (run surroundings options).code = 0 := by rw [printed]
  rcases (run_is_all_or_nothing surroundings options).1.mp success with
    ⟨⟨settings, accepts⟩, text, said⟩
  rcases (run_is_all_or_nothing surroundings options).2.1 settings text accepts said with
    ⟨seeded, seeding, presented⟩
  rw [Surroundings.settings_eq_ok accepts, Except.map, Except.ok.injEq, Prod.mk.injEq] at output
  rcases output with ⟨csv, separator⟩
  rw [csv] at presented
  exact ⟨printed, plainlyPrinted, settings, text, seeded, accepts, said, seeding, csv, separator,
    presented⟩

end TradeSpeech.CommandLine
