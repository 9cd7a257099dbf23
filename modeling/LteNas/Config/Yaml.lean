import LteNas.Config.Basic
import LteNas.Yaml.Mapping
import LteNas.Yaml.Printer

namespace LteNas

/-!
# Settings in YAML

Each setting is an entry of a flat mapping.  A setting that is not written has
its standard value, a name that is no setting is skipped, and a setting may be
written only once.
-/

namespace Config

/-- The names of the settings in the order in which they are written. -/
inductive Setting where
  | dissectPlain
  | nullDecipher
  | userData
  | nonIpProtocol
  | keyText
  | maxNestingDepth
  deriving Repr, DecidableEq

/-- All settings in the order in which they are written. -/
def settings : List Setting :=
  [.dissectPlain, .nullDecipher, .userData, .nonIpProtocol, .keyText, .maxNestingDepth]

def Setting.name : Setting → String
  | .dissectPlain => "dissect_plain"
  | .nullDecipher => "null_decipher"
  | .userData => "decode_user_data_container_as"
  | .nonIpProtocol => "non_ip_data_dissector"
  | .keyText => "decipher_key"
  | .maxNestingDepth => "max_nesting_depth"

def Setting.ofName? (name : String) : Option Setting :=
  settings.find? fun setting => setting.name == name

/-- The settings with one of them read from a scalar. -/
def set? (config : Config) (setting : Setting) (scalar : Yaml.Scalar) : Option Config :=
  match setting with
  | .dissectPlain =>
      scalar.truth?.map fun dissectPlain => { config with dissectPlain }
  | .nullDecipher =>
      scalar.truth?.map fun nullDecipher => { config with nullDecipher }
  | .userData =>
      (UserData.ofWord? scalar.text).map fun userData => { config with userData }
  | .nonIpProtocol =>
      some { config with nonIpProtocol := scalar.text }
  | .keyText =>
      some { config with keyText := scalar.optional }
  | .maxNestingDepth =>
      scalar.natural?.map fun maxNestingDepth => { config with maxNestingDepth }

def settingEntries (entries : List Yaml.Entry) : List (Setting × Yaml.Scalar) :=
  entries.filterMap fun entry =>
    (Setting.ofName? entry.name).map fun setting => (setting, entry.scalar)

/-- The settings of entries, none of which is written twice. -/
def ofEntries? (entries : List Yaml.Entry) : Option Config :=
  let entries := settingEntries entries
  if (entries.map Prod.fst).Nodup then
    entries.foldlM (fun config (setting, scalar) => config.set? setting scalar) standard
  else
    none

/-- Read settings. -/
def ofYaml? (text : String) : Option Config :=
  (Yaml.read text).bind ofEntries?

def truthText (value : Bool) : String :=
  if value then "true" else "false"

def scalarText (config : Config) : Setting → String
  | .dissectPlain => truthText config.dissectPlain
  | .nullDecipher => truthText config.nullDecipher
  | .userData => config.userData.word
  | .nonIpProtocol => Yaml.writeText config.nonIpProtocol
  | .keyText => (config.keyText.map Yaml.writeText).getD "null"
  | .maxNestingDepth => toString config.maxNestingDepth

/-- Write settings, one a line. -/
def toYaml (config : Config) : String :=
  String.join (settings.map fun setting =>
    setting.name ++ ": " ++ Yaml.endLine (config.scalarText setting))

end Config

end LteNas
