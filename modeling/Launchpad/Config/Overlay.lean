import Launchpad.Config.Basic
import Launchpad.Toml.Value

/-!
Reading a configuration from a TOML table. The table lies over the defaults: a field that is present
counts, a field that is absent keeps its default, whether or not its section is there. Keys without
a meaning are passed over. A known field of the wrong type makes the whole table unreadable.
-/

namespace Launchpad.Config

open Toml (Value Table)

/-- A field of a table: what `read` makes of its value, or the default when it is absent. -/
def field {α : Type} (fields : Table) (key : String) (fallback : α) (read : Value → Option α) :
    Option α :=
  match fields.lookup key with
  | none => some fallback
  | some v => read v

def asText : Value → Option String
  | .string text => some text
  | _ => none

def asPath (v : Value) : Option Path :=
  (asText v).map .ofText

def asTexts : Value → Option (List String)
  | .array items => items.mapM asText
  | _ => none

/-- The fields of a table. A date or a time counts as a table whose only field, under a name that is
kept for it, holds its text. -/
def asTable : Value → Option Table
  | .table fields => some fields
  | .moment moment => some [("$__toml_private_datetime", .string moment.written)]
  | _ => none

/-- The fields of a section. Written as an array, a section gives its fields in their order; missing
ones are absent and surplus ones have no meaning. -/
def asSection (keys : List String) : Value → Option Table
  | .array items => some (keys.zip items)
  | v => asTable v

/-- Put a named path into a list that is sorted by name, in place of one of the same name. -/
def insertByName (entry : String × Path) : List (String × Path) → List (String × Path)
  | [] => [entry]
  | other :: rest =>
    if entry.1 < other.1 then entry :: other :: rest
    else if entry.1 = other.1 then entry :: rest
    else other :: insertByName entry rest

def asNamedPaths (v : Value) : Option (List (String × Path)) := do
  let entries ← (← asTable v).mapM fun (name, v) => (asPath v).map (name, ·)
  some (entries.foldl (fun sorted entry => insertByName entry sorted) [])

def readSuite (v : Value) : Option SuiteSection := do
  let fields ← asSection ["dir", "java", "primary_branch"] v
  let fallback : SuiteSection := {}
  let directory ← field fields "dir" fallback.directory asPath
  let java ← field fields "java" fallback.java asText
  let primaryBranch ← field fields "primary_branch" fallback.primaryBranch asText
  some ⟨directory, java, primaryBranch⟩

def readClasspath (v : Value) : Option ClasspathSection := do
  let fields ← asSection ["launcher", "tests", "tools"] v
  let fallback : ClasspathSection := {}
  let launcher ← field fields "launcher" fallback.launcher asTexts
  let tests ← field fields "tests" fallback.tests asTexts
  let tools ← field fields "tools" fallback.tools asTexts
  some ⟨launcher, tests, tools⟩

def readLauncher (v : Value) : Option LauncherSection := do
  let fields ← asSection ["main_class", "legacy_main_class"] v
  let fallback : LauncherSection := {}
  let mainClass ← field fields "main_class" fallback.mainClass asText
  let legacyMainClass ← field fields "legacy_main_class" fallback.legacyMainClass asText
  some ⟨mainClass, legacyMainClass⟩

def readUnitTest (v : Value) : Option UnitTestSection := do
  let fields ← asSection ["main_class", "package", "scriptengine_package"] v
  let fallback : UnitTestSection := {}
  let mainClass ← field fields "main_class" fallback.mainClass asText
  let package ← field fields "package" fallback.package asText
  let scriptEnginePackage ← field fields "scriptengine_package" fallback.scriptEnginePackage asText
  some ⟨mainClass, package, scriptEnginePackage⟩

def readDeploy (v : Value) : Option DeploySection := do
  let fields ← asSection ["command"] v
  let fallback : DeploySection := {}
  let command ← field fields "command" fallback.command asTexts
  some ⟨command⟩

def ofTable? (document : Table) : Option Config := do
  let fallback : Config := {}
  let suite ← field document "suite" fallback.suite readSuite
  let classpath ← field document "classpath" fallback.classpath readClasspath
  let artifacts ← field document "artifacts" fallback.artifacts asNamedPaths
  let launcher ← field document "launcher" fallback.launcher readLauncher
  let unitTest ← field document "unittest" fallback.unitTest readUnitTest
  let deploy ← field document "deploy" fallback.deploy readDeploy
  some ⟨suite, classpath, artifacts, launcher, unitTest, deploy⟩

end Launchpad.Config
