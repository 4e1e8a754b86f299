import Mathlib.Data.List.Basic

namespace SoftwareContainers

/-! `class Config`, which gathers the items of its sources and answers with the one that
comes first. -/

inductive ConfigType where
  | string
  | integer
  | boolean
  deriving DecidableEq, Repr

inductive ConfigSourceType where
  | commandline
  | main
  | default
  deriving DecidableEq, Repr

/-- The subclasses of `ConfigError`, with the message. -/
inductive ConfigError where
  | internal (message : String)
  | dependency (message : String)
  | mandatory (message : String)
  | unknown (message : String)
  | file (message : String)
  | notFound (message : String)
  deriving DecidableEq, Repr

abbrev UniqueKey := String × String

/-- `StringConfig`, `IntConfig` and `BoolConfig`, by the type of the value. -/
structure ConfigItem (α : Type) where
  group : String
  key : String
  source : ConfigSourceType
  value : α
  deriving DecidableEq, Repr

def ConfigItem.uniqueKey {α : Type} (config : ConfigItem α) : UniqueKey :=
  (config.group, config.key)

structure ConfigSource where
  stringConfigs : List (ConfigItem String)
  intConfigs : List (ConfigItem Int)
  boolConfigs : List (ConfigItem Bool)

abbrev MandatoryConfigs := List UniqueKey

abbrev ConfigDependencies := List (UniqueKey × List UniqueKey)

structure Config where
  stringConfigs : List (ConfigItem String)
  intConfigs : List (ConfigItem Int)
  boolConfigs : List (ConfigItem Bool)
  allConfigs : List UniqueKey

namespace Config

def readConfigsFromSources (sources : List ConfigSource) : Config :=
  let stringConfigs := sources.flatMap ConfigSource.stringConfigs
  let intConfigs := sources.flatMap ConfigSource.intConfigs
  let boolConfigs := sources.flatMap ConfigSource.boolConfigs
  { stringConfigs, intConfigs, boolConfigs
    allConfigs := stringConfigs.map ConfigItem.uniqueKey ++
      intConfigs.map ConfigItem.uniqueKey ++ boolConfigs.map ConfigItem.uniqueKey }

def allDepsSatisfied (self : Config) (dependencies : List UniqueKey) : Bool :=
  dependencies.all self.allConfigs.contains

def assertDependencies (self : Config) : ConfigDependencies → Except ConfigError PUnit
  | [] => .ok ⟨⟩
  | dep :: rest =>
      if self.allConfigs.contains dep.1 && !self.allDepsSatisfied dep.2 then
        .error (.dependency ("One or more dependencies were not met for config " ++
          dep.1.1 ++ "::" ++ dep.1.2))
      else
        self.assertDependencies rest

def assertAllMandatoryPresent (self : Config) : MandatoryConfigs → Except ConfigError PUnit
  | [] => .ok ⟨⟩
  | mandatory :: rest =>
      if !self.allConfigs.contains mandatory then
        .error (.mandatory
          ("Mandatory config " ++ mandatory.1 ++ "::" ++ mandatory.2 ++ " not found"))
      else
        self.assertAllMandatoryPresent rest

def construct (sources : List ConfigSource) (mandatory : MandatoryConfigs)
    (dependencies : ConfigDependencies) : Except ConfigError Config := do
  let self := readConfigsFromSources sources
  self.assertDependencies dependencies
  self.assertAllMandatoryPresent mandatory
  return self

section
variable {α : Type}

def prioritizedConfig (configs : List (ConfigItem α)) : Except ConfigError (ConfigItem α) :=
  match configs.find? fun config => config.source = .commandline with
  | some config => .ok config
  | none =>
      match configs.find? fun config => config.source = .main with
      | some config => .ok config
      | none =>
          match configs.find? fun config => config.source = .default with
          | some config => .ok config
          | none => .error (.internal "Config has an incorrect source")

def getConfig (group key : String) (configs : List (ConfigItem α)) :
    Except ConfigError (ConfigItem α) :=
  let foundConfigs := configs.filter fun config => config.group = group ∧ config.key = key
  if foundConfigs.isEmpty then
    .error (.notFound ("No config found for " ++ group ++ "::" ++ key))
  else
    prioritizedConfig foundConfigs

end

def getStringValue (self : Config) (group key : String) : Except ConfigError String :=
  ConfigItem.value <$> getConfig group key self.stringConfigs

def getIntValue (self : Config) (group key : String) : Except ConfigError Int :=
  ConfigItem.value <$> getConfig group key self.intConfigs

def getBoolValue (self : Config) (group key : String) : Except ConfigError Bool :=
  ConfigItem.value <$> getConfig group key self.boolConfigs

end Config

end SoftwareContainers
