import EdiSchema.Descriptor.Options
import EdiSchema.Text.Blank
import EdiSchema.Yaml.Reader

/-!
# Settings

The settings of a run are a flat YAML mapping in which every key may be missing. Reading refuses
unknown and repeated keys and values of the wrong kind; after that the values themselves are checked.

Writing gives all five members, in a fixed order.
-/

namespace EdiSchema

/-- The settings of a run. -/
structure Settings where
  /-- The number of columns that one level of indentation takes in detail text. -/
  tabWidth : Nat := 3
  /-- The bound of a group whose structure gives none. -/
  groupMax : String := "10"
  /-- The root of the fragments, as seen from a descriptor. -/
  fragmentRoot : String := "./../../SFEDI/format"
  /-- The folder for extracted structures. -/
  outputDir : String := "output"
  /-- The number of requests that a batch works on at the same time. -/
  maxConcurrency : Nat := 4
  deriving DecidableEq

/-- Why settings are refused. -/
inductive SettingsFault where
  /-- The text is no mapping of known keys to values of the right kind. -/
  | malformed
  | noTabWidth
  | noConcurrency
  | blankGroupMax
  deriving DecidableEq

/-- The wording of a fault. -/
def SettingsFault.message : SettingsFault → String
  | .malformed => "Configuration error: invalid YAML"
  | .noTabWidth => "Configuration error: tab_width must be at least 1"
  | .noConcurrency => "Configuration error: max_concurrency must be at least 1"
  | .blankGroupMax => "Configuration error: default_group_max must not be empty"

namespace Settings

/-- Settings with the value of one key changed; nothing if the key is unknown or the value is of
the wrong kind. -/
def set? (s : Settings) (key : String) (value : Yaml.Scalar) : Option Settings :=
  match key with
  | "tab_width" => value.count?.map fun n => { s with tabWidth := n }
  | "default_group_max" => some { s with groupMax := value.text }
  | "fragment_root" => some { s with fragmentRoot := value.text }
  | "output_dir" => some { s with outputDir := value.text }
  | "max_concurrency" => value.count?.map fun n => { s with maxConcurrency := n }
  | _ => none

/-- Settings with the values of a list of members changed, none of which may be repeated. -/
def setAll? : Settings → List (String × Yaml.Scalar) → Option Settings
  | s, [] => some s
  | s, (key, value) :: rest =>
    if rest.any (·.1 == key) then none else (s.set? key value).bind (setAll? · rest)

/-- Settings that a run can work with. -/
def check (s : Settings) : Except SettingsFault Settings :=
  if s.tabWidth = 0 then .error .noTabWidth
  else if s.maxConcurrency = 0 then .error .noConcurrency
  else if Text.isBlankText s.groupMax then .error .blankGroupMax
  else .ok s

/-- The settings in a YAML text. -/
def ofYaml (text : String) : Except SettingsFault Settings :=
  match (Yaml.read text).bind (setAll? {}) with
  | some s => s.check
  | none => .error .malformed

/-- Settings as a YAML text. -/
def toYaml (s : Settings) : String :=
  Yaml.print [
    ("tab_width", .count s.tabWidth),
    ("default_group_max", .text s.groupMax),
    ("fragment_root", .text s.fragmentRoot),
    ("output_dir", .text s.outputDir),
    ("max_concurrency", .count s.maxConcurrency)]

/-- The settings that concern descriptors. -/
def descriptorOptions (s : Settings) : DescriptorOptions :=
  ⟨s.groupMax, s.fragmentRoot⟩

end Settings

end EdiSchema
