import LteNas.Config.Yaml
import LteNas.Proofs.Text.Lines
import LteNas.Proofs.Yaml.Lines
import Mathlib.Data.List.Forall2
import Mathlib.Tactic.Choose

namespace LteNas.Config

/-!
# Settings read back

Each setting is written on a line of its own, in characters that hold its value.
The lines are read as the entries of all settings, which set each of them once.
-/

/-- Settings with one of them taken over from others. -/
def adopt (config other : Config) : Setting → Config
  | .dissectPlain => { other with dissectPlain := config.dissectPlain }
  | .nullDecipher => { other with nullDecipher := config.nullDecipher }
  | .userData => { other with userData := config.userData }
  | .nonIpProtocol => { other with nonIpProtocol := config.nonIpProtocol }
  | .keyText => { other with keyText := config.keyText }
  | .maxNestingDepth => { other with maxNestingDepth := config.maxNestingDepth }

/-- A scalar holds the value of a setting: read into any settings it is taken over. -/
def Gives (config : Config) (setting : Setting) (scalar : Yaml.Scalar) : Prop :=
  ∀ other : Config, other.set? setting scalar = some (config.adopt other setting)

theorem adopt_all
    (config : Config) :
    settings.foldl config.adopt standard = config :=
  rfl

/-! ## The value of a setting -/

/-- A word of letters, digits and low lines holds itself. -/
theorem holds_word
    {word : String}
    (isWord : Yaml.isWord word.toList = true)
    (nonempty : word ≠ "") :
    Yaml.Holds word.toList ⟨word, true⟩ := by
  have characters : word.toList ≠ [] := by
    simpa using nonempty
  have holds := Yaml.holds_of_standsPlain (Yaml.standsPlain_of_isWord isWord) characters
  rwa [String.ofList_toList] at holds

theorem holds_truthText
    (value : Bool) :
    Yaml.Holds (truthText value).toList ⟨truthText value, true⟩ := by
  cases value <;> exact holds_word rfl (by decide)

theorem holds_userDataWord
    (userData : UserData) :
    Yaml.Holds userData.word.toList ⟨userData.word, true⟩ := by
  cases userData <;> exact holds_word rfl (by decide)

theorem digitChar_isWordCharacter :
    ∀ digit : Fin 10, Yaml.wordCharacters.contains (Nat.digitChar digit) = true := by
  decide

theorem holds_number
    (number : Nat) :
    Yaml.Holds number.repr.toList ⟨number.repr, true⟩ := by
  have isWord : Yaml.isWord number.repr.toList = true := by
    rw [Nat.toList_repr, Yaml.isWord, List.all_eq_true]
    intro digit member
    obtain ⟨value, small, rfl⟩ := Text.exists_of_mem_toDigits (by decide) member
    exact digitChar_isWordCharacter ⟨value, small⟩
  have nonempty : number.repr ≠ "" := by
    intro empty
    have none_left := congrArg String.toList empty
    rw [Nat.toList_repr] at none_left
    exact absurd none_left Nat.toDigits_ne_nil
  exact holds_word isWord nonempty

theorem truth?_truthText
    (value : Bool) :
    Yaml.truth? (truthText value) = some value := by
  cases value <;> rfl

theorem ofWord?_word
    (userData : UserData) :
    UserData.ofWord? userData.word = some userData := by
  cases userData <;> rfl

/-- Each setting is written in characters that hold its value. -/
theorem exists_scalar
    {config : Config}
    (fits : config.maxNestingDepth < 2 ^ 64)
    (protocol : Text.IsUnbroken config.nonIpProtocol)
    (key : ∀ text ∈ config.keyText, Text.IsUnbroken text)
    (setting : Setting) :
    ∃ scalar, Yaml.Holds (config.scalarText setting).toList scalar ∧
      config.Gives setting scalar := by
  cases setting with
  | dissectPlain =>
      refine ⟨_, holds_truthText config.dissectPlain, fun other => ?_⟩
      simp [set?, Yaml.Scalar.truth?, truth?_truthText, adopt]
  | nullDecipher =>
      refine ⟨_, holds_truthText config.nullDecipher, fun other => ?_⟩
      simp [set?, Yaml.Scalar.truth?, truth?_truthText, adopt]
  | userData =>
      refine ⟨_, holds_userDataWord config.userData, fun other => ?_⟩
      simp [set?, ofWord?_word, adopt]
  | nonIpProtocol =>
      obtain ⟨isPlain, holds, -⟩ := Yaml.exists_holds_writeText protocol
      exact ⟨_, holds, fun other => rfl⟩
  | keyText =>
      cases configured : config.keyText with
      | none =>
          refine ⟨⟨"null", true⟩, ?_, fun other => ?_⟩
          · rw [scalarText, configured]
            exact holds_word rfl (by decide)
          · simp [set?, Yaml.Scalar.optional, Yaml.isNull, adopt, configured]
      | some text =>
          obtain ⟨isPlain, holds, untyped⟩ := Yaml.exists_holds_writeText (key text configured)
          refine ⟨⟨text, isPlain⟩, ?_, fun other => ?_⟩
          · rw [scalarText, configured]
            exact holds
          · simp [set?, Yaml.optional_eq_some untyped, adopt, configured]
  | maxNestingDepth =>
      refine ⟨_, holds_number config.maxNestingDepth, fun other => ?_⟩
      simp [set?, Yaml.Scalar.natural?, Yaml.natural?_repr fits, adopt]

/-! ## All settings -/

/-- The line of a setting. -/
def line (config : Config) (setting : Setting) : List Char :=
  setting.name.toList ++ ':' :: ' ' :: ((config.scalarText setting).toList ++ ['\n'])

theorem name_isLineName
    (setting : Setting) :
    Yaml.isWord setting.name.toList = true ∧ setting.name.toList ≠ [] ∧
      setting.name.toList.length ≤ Yaml.nameReach := by
  cases setting <;> decide

theorem ofName?_name
    (setting : Setting) :
    Setting.ofName? setting.name = some setting := by
  cases setting <;> rfl

/-- Settings are read as those from which every entry is taken over. -/
theorem ofEntries?_eq
    {config : Config}
    {scalar : Setting → Yaml.Scalar}
    (gives : ∀ setting, config.Gives setting (scalar setting)) :
    ofEntries? (settings.map fun setting => ⟨setting.name, scalar setting⟩) = some config := by
  have entries_eq :
      settingEntries (settings.map fun setting => ⟨setting.name, scalar setting⟩) =
        settings.map fun setting => (setting, scalar setting) := by
    rw [settingEntries, List.filterMap_map]
    simp [ofName?_name]
  have once : (settings.map fun setting => (setting, scalar setting)).map Prod.fst = settings := by
    simp [Function.comp_def]
  have distinct : settings.Nodup := by
    decide
  rw [ofEntries?, entries_eq]
  simp only [once]
  rw [if_pos distinct, List.foldlM_map]
  have taken_over : (fun other setting => set? other setting (scalar setting)) =
      fun other setting => pure (config.adopt other setting) := by
    funext other setting
    exact gives setting other
  rw [taken_over, List.foldlM_pure]
  exact congrArg some (adopt_all config)

/-- Settings without line feeds in their texts survive being written and read. -/
theorem toYaml_isReadBack
    (config : Config)
    (fits : config.maxNestingDepth < 2 ^ 64)
    (protocol : Text.IsUnbroken config.nonIpProtocol)
    (key : ∀ text ∈ config.keyText, Text.IsUnbroken text) :
    ofYaml? config.toYaml = some config := by
  choose scalar holds gives using exists_scalar fits protocol key
  have line_eq (setting : Setting) :
      (setting.name ++ ": " ++ Yaml.endLine (config.scalarText setting)).toList =
        config.line setting := by
    have colon : ": ".toList = [':', ' '] := rfl
    rw [String.toList_append, String.toList_append, colon, (holds setting).endLine_toList]
    simp [line]
  have text_eq : config.toYaml = String.ofList (settings.map config.line).flatten := by
    rw [← String.toList_inj, toYaml, String.toList_join, String.toList_ofList, List.flatMap_map]
    simp only [line_eq]
    rfl
  have areLines : List.Forall₂ Yaml.IsLine
      (settings.map fun setting => ⟨setting.name, scalar setting⟩) (settings.map config.line) := by
    rw [List.forall₂_map_left_iff, List.forall₂_map_right_iff, List.forall₂_same]
    intro setting _
    obtain ⟨isWord, nonempty, reached⟩ := name_isLineName setting
    exact .intro isWord nonempty reached (holds setting)
  rw [ofYaml?, text_eq, Yaml.read_flatten areLines (by simp [settings])]
  exact ofEntries?_eq gives

/-- A protocol name of all kinds of marks, a key text that reads null and the greatest depth. -/
theorem toYaml_isReadBack_null :
    let config : Config :=
      { standard with
        nonIpProtocol := " it's: \"~\"\u2028# "
        keyText := some "null"
        maxNestingDepth := 2 ^ 64 - 1 }
    config.maxNestingDepth < 2 ^ 64 ∧ Text.IsUnbroken config.nonIpProtocol ∧
      (∀ text ∈ config.keyText, Text.IsUnbroken text) ∧
      config.scalarText .keyText = "'null'" ∧ ofYaml? config.toYaml = some config := by
  intro config
  have fits : config.maxNestingDepth < 2 ^ 64 := by
    decide
  have protocol : Text.IsUnbroken config.nonIpProtocol := by
    unfold Text.IsUnbroken
    decide
  have key : ∀ text ∈ config.keyText, Text.IsUnbroken text := by
    rintro _ ⟨rfl⟩
    unfold Text.IsUnbroken
    decide
  have quoted : config.scalarText .keyText = "'null'" := by
    rfl
  exact ⟨fits, protocol, key, quoted, toYaml_isReadBack config fits protocol key⟩

end LteNas.Config
