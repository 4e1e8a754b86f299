import SoftwareContainers.Gateway.Hook

namespace SoftwareContainers

open Effect Effect.Act Hook

/-! `class DBusGatewayInstance`, one dbus-proxy, and `class DBusGateway`, which
holds one for each bus. -/

inductive ProxyType where
  | sessionProxy
  | systemProxy
  deriving DecidableEq, Repr

abbrev SESSION_CONFIG := "dbus-gateway-config-session"
abbrev SYSTEM_CONFIG := "dbus-gateway-config-system"

/-- `hasConfig` is false once the configuration has been released. -/
structure DBusGatewayInstance where
  base : GatewayBase
  socket : String
  type : ProxyType
  pid : Int
  proxyStdin : Int
  busConfig : List Json
  hasConfig : Bool

namespace DBusGatewayInstance

abbrev ID := "dbus-bus-instance"

def new (type : ProxyType) (gatewayDir containerId : String) :
    DBusGatewayInstance where
  base := .new ID true
  socket := buildPath gatewayDir
    ((if type = .sessionProxy then "sess_" else "sys_") ++ containerId ++ ".sock")
  type := type
  pid := -1
  proxyStdin := -1
  busConfig := []
  hasConfig := true

def typeStr (self : DBusGatewayInstance) : String :=
  if self.type = .sessionProxy then SESSION_CONFIG else SYSTEM_CONFIG

def unusedTypeStr (self : DBusGatewayInstance) : String :=
  if self.type = .sessionProxy then SYSTEM_CONFIG else SESSION_CONFIG

def entireConfig (self : DBusGatewayInstance) : Json :=
  .object [(self.typeStr, .array self.busConfig), (self.unusedTypeStr, .array [])]

/-- The loop of `parseDBusConfig`: what is appended, and whether it throws. -/
def takeObjects : List Json → List Json × Bool
  | [] => ([], false)
  | child :: rest =>
      if child.isObject then
        let (taken, throws) := takeObjects rest
        (child :: taken, throws)
      else
        ([], true)

/-- `DBusGatewayParser::parseDBusConfig` for the bus of this instance. -/
def readConfigElement (element : Json) : Hook DBusGatewayInstance Bool := do
  let self ← getGateway
  match element.objectGet self.typeStr with
  | none => return false
  | some (.array children) =>
      let (taken, throws) := takeObjects children
      modifyGateway fun self => { self with busConfig := self.busConfig ++ taken }
      if throws then
        throw (.gatewayParserError "JSON array element is not an object!")
      else
        return true
  | some _ =>
      throw (.gatewayParserError ("Value for " ++ self.typeStr ++ " is not an array"))

/-- Up to the given number of looks at the socket, with a pause before each. -/
def isSocketCreated (socket : String) : Nat → Hook DBusGatewayInstance Bool
  | 0 => return false
  | count + 1 => do
      if ← sys (.access socket) then
        return true
      else
        isSocketCreated socket count

def testDBusConnection (configuration : Json) : Hook DBusGatewayInstance Bool := do
  let self ← getGateway
  match ← sys (.writeConfig self.proxyStdin configuration) with
  | .failed => return false
  | .whole => isSocketCreated self.socket 1000
  | .part => return false

def startDBusProxy (commandVec envVec : List String) :
    Hook DBusGatewayInstance Bool := do
  match ← sys (.spawnAsyncWithPipes commandVec envVec) with
  | none => return false
  | some (pid, proxyStdin) =>
      modifyGateway fun self => { self with
        pid, proxyStdin, base := { self.base with activatedOnce := true } }
      return true

def launchProxy : Hook DBusGatewayInstance Bool := do
  let self ← getGateway
  let variableName := "DBUS_" ++
    (if self.type = .sessionProxy then "SESSION" else "SYSTEM") ++ "_BUS_ADDRESS"
  let value := "unix:path=" ++ buildPath "/gateways" (baseName self.socket)
  let _ ← onContainer (Container.setEnvironmentVariable variableName value)
  let commandVec := ["dbus-proxy", self.socket,
    if self.type = .sessionProxy then "session" else "system"]
  match ← sys (.getenv variableName) with
  | none =>
      if self.type = .sessionProxy then return false
      else startDBusProxy commandVec []
  | some envValue => startDBusProxy commandVec [variableName ++ "=" ++ envValue]

def activateGateway : Hook DBusGatewayInstance Bool := do
  let self ← getGateway
  let launched ← (if !self.base.activatedOnce then launchProxy else pure true)
  if !launched then
    return false
  else
    let self ← getGateway
    if self.hasConfig then
      testDBusConnection self.entireConfig
    else
      throw .undefined

def removeSocket (socket : String) : Hook DBusGatewayInstance Bool := do
  if ← sys (.access socket) then
    sys (.unlink socket)
  else
    return true

def killProxy (pid : Int) : Hook DBusGatewayInstance PUnit := do
  if pid ≠ -1 then
    sys (.kill pid)
    let _ ← sys (.waitpid pid)
    return ⟨⟩
  else
    return ⟨⟩

def teardownGateway : Hook DBusGatewayInstance Bool := do
  modifyGateway fun self => { self with hasConfig := false }
  let self ← getGateway
  killProxy self.pid
  let success ← removeSocket self.socket
  let _ ← sys (.close self.proxyStdin)
  return success

def hooks : GatewayHooks Sys DBusGatewayInstance Container where
  base := ⟨base, fun base self => { self with base }, fun _ _ => rfl,
    fun _ _ _ => rfl⟩
  readConfigElement := readConfigElement
  activateGateway := activateGateway
  teardownGateway := teardownGateway

def isConfigured (self : DBusGatewayInstance) : Bool := self.base.isConfigured

def isActivated (self : DBusGatewayInstance) : Bool := self.base.isActivated

end DBusGatewayInstance

structure DBusGateway where
  base : GatewayBase
  sessionBus : DBusGatewayInstance
  systemBus : DBusGatewayInstance

namespace DBusGateway

abbrev ID := "dbus"

def new (gatewayDir containerId : String) : DBusGateway where
  base := .new ID false
  sessionBus := .new .sessionProxy gatewayDir containerId
  systemBus := .new .systemProxy gatewayDir containerId

def sessionLens : Lens (DBusGateway × Container) (DBusGatewayInstance × Container) where
  get whole := (whole.1.sessionBus, whole.2)
  set part whole := ({ whole.1 with sessionBus := part.1 }, part.2)
  get_set _ _ := rfl
  set_set _ _ _ := rfl

def systemLens : Lens (DBusGateway × Container) (DBusGatewayInstance × Container) where
  get whole := (whole.1.systemBus, whole.2)
  set part whole := ({ whole.1 with systemBus := part.1 }, part.2)
  get_set _ _ := rfl
  set_set _ _ _ := rfl

def setBothConfigs (config : Json) : Hook DBusGateway Bool := do
  let sessionBusParseResult ←
    zoom sessionLens (DBusGatewayInstance.hooks.setConfig config)
  let systemBusParseResult ←
    zoom systemLens (DBusGatewayInstance.hooks.setConfig config)
  return sessionBusParseResult || systemBusParseResult

/-- A `GatewayParserError` is caught here; every other error is not. -/
def setConfig (config : Json) : Hook DBusGateway Bool :=
  tryCatch (setBothConfigs config) fun error =>
    match error with
    | .gatewayParserError _ => return false
    | error => throw error

/-- Run a method of an instance if a condition on it holds. -/
def whenSession (condition : DBusGatewayInstance → Bool)
    (method : Hook DBusGatewayInstance Bool) : Hook DBusGateway Bool := do
  if condition (← getGateway).sessionBus then
    zoom sessionLens method
  else
    return false

def whenSystem (condition : DBusGatewayInstance → Bool)
    (method : Hook DBusGatewayInstance Bool) : Hook DBusGateway Bool := do
  if condition (← getGateway).systemBus then
    zoom systemLens method
  else
    return false

/-- What the system bus returns is taken for the session bus. -/
def activate : Hook DBusGateway Bool := do
  let sessionBusActivationResult ←
    whenSession DBusGatewayInstance.isConfigured DBusGatewayInstance.hooks.activate
  if (← getGateway).systemBus.isConfigured then
    zoom systemLens DBusGatewayInstance.hooks.activate
  else
    return sessionBusActivationResult

def teardown : Hook DBusGateway Bool := do
  let sessionBusTeardownResult ←
    whenSession DBusGatewayInstance.isActivated DBusGatewayInstance.hooks.teardown
  let systemBusTeardownResult ←
    whenSystem DBusGatewayInstance.isActivated DBusGatewayInstance.hooks.teardown
  return sessionBusTeardownResult || systemBusTeardownResult

/-- The destructors of the two instances, the last member first; what `teardown`
returns is not looked at. -/
def destructor : Hook DBusGateway PUnit := do
  let _ ← whenSystem DBusGatewayInstance.isActivated DBusGatewayInstance.hooks.teardown
  let _ ← whenSession DBusGatewayInstance.isActivated DBusGatewayInstance.hooks.teardown
  return ⟨⟩

def isConfigured (self : DBusGateway) : Bool :=
  self.sessionBus.isConfigured || self.systemBus.isConfigured

def isActivated (self : DBusGateway) : Bool :=
  self.sessionBus.isActivated || self.systemBus.isActivated

def gatewayClass : GatewayClass Sys DBusGateway Container where
  id self := self.base.id
  setConfig := setConfig
  activate := activate
  teardown := teardown
  isConfigured := isConfigured
  isActivated := isActivated

end DBusGateway

end SoftwareContainers
