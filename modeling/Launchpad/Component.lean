/-!
The description of the language component for the distribution that hosts it, written as JSON.
-/

namespace Launchpad

/-! ## JSON -/

/-- A JSON value, as far as a description needs one. The fields of an object keep their order. -/
inductive Json where
  | boolean (value : Bool)
  | text (value : String)
  | list (items : List Json)
  | object (fields : List (String × Json))
  deriving Inhabited

namespace Json

/-- How a character is written inside a JSON text. -/
def escape (c : Char) : List Char :=
  if c = '"' then ['\\', '"']
  else if c = '\\' then ['\\', '\\']
  else if c = '\n' then ['\\', 'n']
  else if c = '\r' then ['\\', 'r']
  else if c = '\t' then ['\\', 't']
  else if c = '\x08' then ['\\', 'b']
  else if c = '\x0c' then ['\\', 'f']
  else if c.toNat < 0x20 then
    ['\\', 'u', '0', '0'] ++ (if c.toNat < 0x10 then ['0'] else []) ++ Nat.toDigits 16 c.toNat
  else [c]

def quoted (text : String) : String :=
  "\"" ++ String.ofList (text.toList.flatMap escape) ++ "\""

def indent (depth : Nat) : String :=
  String.ofList (List.replicate (2 * depth) ' ')

mutual

/-- A value written over several lines; an empty list or object stays on one. -/
def pretty (depth : Nat) : Json → String
  | .boolean value => if value then "true" else "false"
  | .text value => quoted value
  | .list [] => "[]"
  | .list (item :: items) =>
    "[\n" ++ indent (depth + 1) ++ pretty (depth + 1) item ++ prettyItems (depth + 1) items ++
      "\n" ++ indent depth ++ "]"
  | .object [] => "\x7b\x7d"
  | .object ((key, value) :: fields) =>
    "\x7b\n" ++ indent (depth + 1) ++ quoted key ++ ": " ++ pretty (depth + 1) value ++
      prettyFields (depth + 1) fields ++ "\n" ++ indent depth ++ "\x7d"

def prettyItems (depth : Nat) : List Json → String
  | [] => ""
  | item :: items => ",\n" ++ indent depth ++ pretty depth item ++ prettyItems depth items

def prettyFields (depth : Nat) : List (String × Json) → String
  | [] => ""
  | (key, value) :: fields =>
    ",\n" ++ indent depth ++ quoted key ++ ": " ++ pretty depth value ++ prettyFields depth fields

end

def texts (values : List String) : Json :=
  .list (values.map .text)

end Json

/-! ## The component -/

/-- How a program that comes with a component is started. -/
structure LanguageLauncher where
  /-- Where it is installed inside the distribution. -/
  destination : String
  jarDistributions : List String
  mainClass : String
  buildArgs : List String
  language : String
  deriving DecidableEq, Repr, Inhabited

structure Component where
  suite : String
  name : String
  shortName : String
  licenseFiles : List String
  thirdPartyLicenseFiles : List String
  truffleJars : List String
  supportDistributions : List String
  launcherConfigs : List LanguageLauncher
  bootJars : List String
  installable : Bool
  deriving DecidableEq, Repr, Inhabited

namespace Component

def asmVersion : String := "7.1"

def javaScript : Component where
  suite := "graal-js"
  name := "Graal.js"
  shortName := "js"
  licenseFiles := []
  thirdPartyLicenseFiles := []
  truffleJars := ["graal-js:GRAALJS", "graal-js:ICU4J"] ++
    ["ASM", "ASM_TREE", "ASM_ANALYSIS", "ASM_COMMONS", "ASM_UTIL"].map fun jar =>
      "graal-js:" ++ jar ++ "-" ++ asmVersion
  supportDistributions := ["graal-js:GRAALJS_GRAALVM_SUPPORT"]
  launcherConfigs := [
    { destination := "bin/<exe:js>"
      jarDistributions := ["graal-js:GRAALJS_LAUNCHER"]
      mainClass := "com.oracle.truffle.js.shell.JSLauncher"
      buildArgs := []
      language := "js" }]
  bootJars := ["graal-js:GRAALJS_SCRIPTENGINE"]
  installable := false

def launcherJson (l : LanguageLauncher) : Json :=
  .object [
    ("destination", .text l.destination),
    ("jar_distributions", .texts l.jarDistributions),
    ("main_class", .text l.mainClass),
    ("build_args", .texts l.buildArgs),
    ("language", .text l.language)]

def json (c : Component) : Json :=
  .object [
    ("suite", .text c.suite),
    ("name", .text c.name),
    ("short_name", .text c.shortName),
    ("license_files", .texts c.licenseFiles),
    ("third_party_license_files", .texts c.thirdPartyLicenseFiles),
    ("truffle_jars", .texts c.truffleJars),
    ("support_distributions", .texts c.supportDistributions),
    ("launcher_configs", .list (c.launcherConfigs.map launcherJson)),
    ("boot_jars", .texts c.bootJars),
    ("installable", .boolean c.installable)]

def text (c : Component) : String :=
  c.json.pretty 0

end Component

end Launchpad
