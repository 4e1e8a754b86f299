import SoftwareContainers.Gateway.Hook

namespace SoftwareContainers

open Effect Effect.Act Hook

/-! The file, pulseaudio, wayland and environment gateways. -/

structure FileSetting where
  pathInHost : String
  pathInContainer : String
  readOnly : Bool
  deriving DecidableEq, Repr

structure FileGateway where
  base : GatewayBase
  settings : List FileSetting

namespace FileGateway

abbrev ID := "file"

def new : FileGateway := ⟨.new ID false, []⟩

/-- `FileGatewayParser::parseConfigElement`; `readOnly` is what the setting holds
before, which is kept when there is no such key. -/
def parseConfigElement (element : Json) (readOnly : Bool) : Option FileSetting := do
  let pathInHost ← JSONParser.readString element "path-host"
  let pathInContainer ← JSONParser.readString element "path-container"
  if pathInHost = "" ∨ pathInContainer = "" then
    none
  else
    let readOnly ← JSONParser.readOptionalBool element "read-only" readOnly
    return { pathInHost, pathInContainer, readOnly }

/-- `FileGatewaySettingStore::addSetting`: settings are the same when they have the
same path in the container. -/
def addSetting (setting : FileSetting) : List FileSetting → Option (List FileSetting)
  | [] => some [setting]
  | first :: rest =>
      if first.pathInContainer = setting.pathInContainer then
        if first.pathInHost ≠ setting.pathInHost then none
        else some ({ first with
          readOnly := first.readOnly && setting.readOnly } :: rest)
      else
        (addSetting setting rest).map (first :: ·)

/-- The setting that is parsed into starts with an indeterminate flag. -/
def readConfigElement (element : Json) : Hook FileGateway Bool := do
  let readOnly ← sys .indeterminateBool
  match parseConfigElement element readOnly with
  | none => return false
  | some setting =>
      match addSetting setting (← getGateway).settings with
      | none => return false
      | some settings =>
          modifyGateway fun self => { self with settings }
          return true

def bindMounts : List FileSetting → Hook FileGateway Bool
  | [] => return true
  | setting :: rest => do
      if !(← onContainer (Container.bindMountInContainer setting.pathInHost
          setting.pathInContainer setting.readOnly)) then
        return false
      else
        bindMounts rest

def activateGateway : Hook FileGateway Bool := do
  bindMounts (← getGateway).settings

def hooks : GatewayHooks Sys FileGateway Container where
  base := ⟨base, fun base self => { self with base }, fun _ _ => rfl,
    fun _ _ _ => rfl⟩
  readConfigElement := readConfigElement
  activateGateway := activateGateway
  teardownGateway := nothingToTearDown

end FileGateway

structure PulseGateway where
  base : GatewayBase
  enableAudio : Bool

namespace PulseGateway

abbrev ID := "pulseaudio"

def new : PulseGateway := ⟨.new ID false, false⟩

def readConfigElement (element : Json) : Hook PulseGateway Bool := do
  match JSONParser.readBool element "audio" with
  | none => return false
  | some configValue =>
      modifyGateway fun self =>
        { self with enableAudio := self.enableAudio || configValue }
      return true

def enablePulseAudio : Hook PulseGateway Bool := do
  match ← sys (.getenv "PULSE_SERVER") with
  | none => return false
  | some dir =>
      let pathInContainer := buildPath "/gateways/" "pulse_socket"
      if !(← onContainer
          (Container.bindMountInContainer dir pathInContainer false)) then
        return false
      else
        let _ ← onContainer (Container.setEnvironmentVariable "PULSE_SERVER"
          ("unix:" ++ pathInContainer))
        return true

def activateGateway : Hook PulseGateway Bool := do
  if !(← getGateway).enableAudio then
    return true
  else
    enablePulseAudio

def hooks : GatewayHooks Sys PulseGateway Container where
  base := ⟨base, fun base self => { self with base }, fun _ _ => rfl,
    fun _ _ _ => rfl⟩
  readConfigElement := readConfigElement
  activateGateway := activateGateway
  teardownGateway := nothingToTearDown

end PulseGateway

/-- The class has a flag `m_activatedOnce` of its own next to the one it inherits. -/
structure WaylandGateway where
  base : GatewayBase
  enabled : Bool
  activatedOnce : Bool

namespace WaylandGateway

abbrev ID := "wayland"

def new : WaylandGateway := ⟨.new ID true, false, false⟩

def readConfigElement (element : Json) : Hook WaylandGateway Bool := do
  match JSONParser.readBool element "enabled" with
  | none => return false
  | some configValue =>
      modifyGateway fun self => { self with enabled := self.enabled || configValue }
      return true

def mountSocket (dir socketFileName : String) : Hook WaylandGateway Bool := do
  let pathInHost := buildPath dir socketFileName
  let pathInContainer := buildPath "/gateways" socketFileName
  if !(← onContainer
      (Container.bindMountInContainer pathInHost pathInContainer false)) then
    return false
  else
    let _ ← onContainer (Container.setEnvironmentVariable "XDG_RUNTIME_DIR"
      (parentPath pathInContainer))
    modifyGateway fun self => { self with activatedOnce := true }
    return true

def activateGateway : Hook WaylandGateway Bool := do
  let self ← getGateway
  if !self.enabled then
    return true
  else if self.activatedOnce then
    return true
  else
    let socketFileName := (← sys (.getenv "WAYLAND_DISPLAY")).getD ""
    if socketFileName = "" then
      return false
    else
      match ← sys (.getenv "XDG_RUNTIME_DIR") with
      | none => return false
      | some dir => mountSocket dir socketFileName

def hooks : GatewayHooks Sys WaylandGateway Container where
  base := ⟨base, fun base self => { self with base }, fun _ _ => rfl,
    fun _ _ _ => rfl⟩
  readConfigElement := readConfigElement
  activateGateway := activateGateway
  teardownGateway := nothingToTearDown

end WaylandGateway

structure EnvironmentGateway where
  base : GatewayBase
  settings : EnvironmentVariables

namespace EnvironmentGateway

abbrev ID := "env"

def new : EnvironmentGateway := ⟨.new ID false, ∅⟩

def requireNonEmptyKeyValue (element : Json) (key : String) : Option String := do
  let result ← JSONParser.readString element key
  if result = "" then none else some result

/-- `EnvironmentGatewayParser::parseEnvironmentGatewayConfigElement`. -/
def parseConfigElement (element : Json) (store : EnvironmentVariables) :
    Option (String × String) := do
  let name ← requireNonEmptyKeyValue element "name"
  let value ← requireNonEmptyKeyValue element "value"
  let mode := (← JSONParser.readOptionalString element "mode" "set").toLower
  if mode ∉ ["set", "prepend", "append"] then
    none
  else
    let separator ← JSONParser.readOptionalString element "separator" ""
    match store[name]? with
    | none => return (name, value)
    | some previous =>
        if mode = "append" then return (name, previous ++ separator ++ value)
        else if mode = "prepend" then return (name, value ++ separator ++ previous)
        else none

def readConfigElement (element : Json) : Hook EnvironmentGateway Bool := do
  match parseConfigElement element (← getGateway).settings with
  | none => return false
  | some (name, value) =>
      modifyGateway fun self =>
        { self with settings := self.settings.insert name value }
      return true

def setAll : List (String × String) → Hook EnvironmentGateway Bool
  | [] => return true
  | (name, value) :: rest => do
      if !(← onContainer (Container.setEnvironmentVariable name value)) then
        return false
      else
        setAll rest

def activateGateway : Hook EnvironmentGateway Bool := do
  let self ← getGateway
  if self.settings.isEmpty then
    return false
  else
    setAll self.settings.toList

def hooks : GatewayHooks Sys EnvironmentGateway Container where
  base := ⟨base, fun base self => { self with base }, fun _ _ => rfl,
    fun _ _ _ => rfl⟩
  readConfigElement := readConfigElement
  activateGateway := activateGateway
  teardownGateway := nothingToTearDown

end EnvironmentGateway

end SoftwareContainers
