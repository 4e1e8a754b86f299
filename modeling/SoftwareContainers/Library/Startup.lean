import SoftwareContainers.Gateway.Base

namespace SoftwareContainers

open Effect Effect.Act

/-! `class SoftwareContainer`, for any kind of gateway `γ` and any container
implementation `κ`, and how it starts its gateways. -/

inductive ContainerState where
  | ready
  | suspended
  | terminated
  | invalid
  deriving DecidableEq, Repr

structure SoftwareContainerConfig where
  shouldCreateBridge : Bool
  bridgeDevice : String
  bridgeIPAddress : String
  bridgeNetmask : String
  bridgeNetmaskBitLength : Int
  bridgeNetAddr : String
  containerConfigPath : String
  sharedMountsDir : String
  containerShutdownTimeout : Nat
  writeBufferEnabled : Bool
  temporaryFileSystemWriteBufferEnableds : Bool
  temporaryFileSystemSize : Nat
  deriving DecidableEq, Inhabited

/-- The values the build gives, without write buffers. The flag and the size of temporary file
systems are without a value in the source: these are any. -/
def SoftwareContainerConfig.defaults : SoftwareContainerConfig where
  shouldCreateBridge := true
  bridgeDevice := "lxcbr0"
  bridgeIPAddress := "10.0.3.1"
  bridgeNetmask := "255.255.255.0"
  bridgeNetmaskBitLength := 24
  bridgeNetAddr := "10.0.3.0"
  containerConfigPath := "/etc/softwarecontainer.conf"
  sharedMountsDir := "/tmp/container/"
  containerShutdownTimeout := 1
  writeBufferEnabled := false
  temporaryFileSystemWriteBufferEnableds := false
  temporaryFileSystemSize := 0

structure SoftwareContainer (γ κ : Type) where
  containerID : Int
  containerState : ContainerState
  container : κ
  gateways : List γ
  config : SoftwareContainerConfig
  previouslyConfigured : Bool

abbrev GatewayConfiguration := Std.ExtTreeMap String Json

namespace SoftwareContainer

variable {I : Interface} {γ κ : Type}

/-- `m_container->id()`: the name the container was constructed with. -/
def id (self : SoftwareContainer γ κ) : String :=
  "SC-" ++ toString self.containerID

def gatewaysLens : Lens (SoftwareContainer γ κ) (List γ × κ) where
  get self := (self.gateways, self.container)
  set part self := { self with gateways := part.1, container := part.2 }
  get_set _ _ := rfl
  set_set _ _ _ := rfl

def assertValidState : Act I Fault (SoftwareContainer γ κ) PUnit := do
  let self ← get
  if self.containerState = .invalid then
    throw (.invalidContainerError ("Container is invalid " ++ self.id))
  else
    return ⟨⟩

/-- The first id of the configuration that maps to no gateway. -/
def unmatchedId (cls : GatewayClass I γ κ) (gateways : List γ)
    (gwConfig : GatewayConfiguration) : Option String :=
  gwConfig.keys.find? fun id => !gateways.any fun gateway => cls.id gateway == id

def configureGateway (cls : GatewayClass I γ κ) (gwConfig : GatewayConfiguration) :
    Act I Fault (γ × κ) (Option Bool) := do
  match gwConfig[cls.id (← get).1]? with
  | none => return none
  | some config =>
      if !(← cls.setConfig config) then
        return some false
      else
        return none

def configureGateways (cls : GatewayClass I γ κ) (gwConfig : GatewayConfiguration) :
    Act I Fault (SoftwareContainer γ κ) Bool := do
  assertValidState
  match unmatchedId cls (← get).gateways gwConfig with
  | some id =>
      throw (.gatewayError ("Could not find any gateway matching id: " ++ id))
  | none =>
      let left ← zoom gatewaysLens (sweep (configureGateway cls gwConfig))
      return left.getD true

def activateGateway (cls : GatewayClass I γ κ) :
    Act I Fault (γ × κ) (Option Bool) := do
  if cls.isConfigured (← get).1 then
    if !(← cls.activate) then
      return some false
    else
      return none
  else
    return none

def activateGateways (cls : GatewayClass I γ κ) :
    Act I Fault (SoftwareContainer γ κ) Bool := do
  let left ← zoom gatewaysLens (sweep (activateGateway cls))
  return left.getD true

def startGateways (cls : GatewayClass I γ κ) (gwConfig : GatewayConfiguration) :
    Act I Fault (SoftwareContainer γ κ) Bool := do
  assertValidState
  let self ← get
  if self.containerState ≠ .ready then
    throw (.invalidOperationError
      ("Invalid to start gateways on non ready container " ++ self.id))
  else if !(← configureGateways cls gwConfig) then
    return false
  else if !(← activateGateways cls) then
    return false
  else
    modify fun self => { self with previouslyConfigured := true }
    return true

/-! How the phases run. -/

theorem run_assertValidState {self : SoftwareContainer γ κ} (valid : self.containerState ≠ .invalid)
    (oracle : Oracle I) (history : History I) :
    assertValidState.run oracle ⟨self, history⟩ = (.ok ⟨⟩, ⟨self, history⟩) := by
  rw [assertValidState, run_get_bind, if_neg valid, run_pure]

theorem run_configureGateways_of_unmatched {cls : GatewayClass I γ κ} {self : SoftwareContainer γ κ}
    {gwConfig : GatewayConfiguration} {id : String}
    (valid : self.containerState ≠ .invalid)
    (unmatched : unmatchedId cls self.gateways gwConfig = some id)
    (oracle : Oracle I) (history : History I) :
    (configureGateways cls gwConfig).run oracle ⟨self, history⟩ =
      (.error (.gatewayError ("Could not find any gateway matching id: " ++ id)),
        ⟨self, history⟩) := by
  rw [configureGateways, run_bind, run_assertValidState valid]
  simp only [run_bind, run_get]
  rw [unmatched]
  rfl

theorem run_configureGateways_of_matched {cls : GatewayClass I γ κ} {self : SoftwareContainer γ κ}
    {gwConfig : GatewayConfiguration}
    (valid : self.containerState ≠ .invalid)
    (matched : unmatchedId cls self.gateways gwConfig = none)
    (oracle : Oracle I) (history : History I) :
    (configureGateways cls gwConfig).run oracle ⟨self, history⟩ =
      let swept := sweepList (configureGateway cls gwConfig) oracle self.gateways
        self.container history
      (swept.1.map (·.getD true), ⟨{ self with
        gateways := swept.2.state.1, container := swept.2.state.2 },
        swept.2.history⟩) := by
  rw [configureGateways, run_bind, run_assertValidState valid]
  simp only [run_bind, run_get]
  rw [matched]
  simp only [run_bind, run_zoom, sweep, gatewaysLens]
  cases (sweepList (configureGateway cls gwConfig) oracle self.gateways
    self.container history).1 <;> rfl

theorem run_configureGateway_of_unnamed {cls : GatewayClass I γ κ}
    {gwConfig : GatewayConfiguration} {gateway : γ}
    (unnamed : gwConfig[cls.id gateway]? = none)
    (oracle : Oracle I) (container : κ) (history : History I) :
    (configureGateway cls gwConfig).run oracle ⟨(gateway, container), history⟩ =
      (.ok none, ⟨(gateway, container), history⟩) := by
  rw [configureGateway, run_get_bind]
  dsimp only
  rw [unnamed]
  rfl

theorem run_configureGateway_of_named {cls : GatewayClass I γ κ}
    {gwConfig : GatewayConfiguration} {gateway : γ} {config : Json}
    (named : gwConfig[cls.id gateway]? = some config)
    (oracle : Oracle I) (container : κ) (history : History I) :
    (configureGateway cls gwConfig).run oracle ⟨(gateway, container), history⟩ =
      let ended := (cls.setConfig config).run oracle ⟨(gateway, container), history⟩
      (ended.1.map fun succeeded => if succeeded then none else some false,
        ended.2) := by
  rw [configureGateway, run_get_bind]
  dsimp only
  rw [named]
  simp only [run_bind]
  cases (cls.setConfig config).run oracle ⟨(gateway, container), history⟩ with
  | mk result world =>
      match result with
      | .ok true => rfl
      | .ok false => rfl
      | .error _ => rfl

theorem run_activateGateways (cls : GatewayClass I γ κ) (self : SoftwareContainer γ κ)
    (oracle : Oracle I) (history : History I) :
    (activateGateways cls).run oracle ⟨self, history⟩ =
      let swept := sweepList (activateGateway cls) oracle self.gateways
        self.container history
      (swept.1.map (·.getD true), ⟨{ self with
        gateways := swept.2.state.1, container := swept.2.state.2 },
        swept.2.history⟩) := by
  simp only [activateGateways, run_bind, run_zoom, sweep, gatewaysLens]
  cases (sweepList (activateGateway cls) oracle self.gateways
    self.container history).1 <;> rfl

theorem run_activateGateway_of_unconfigured {cls : GatewayClass I γ κ} {gateway : γ}
    (unconfigured : cls.isConfigured gateway = false)
    (oracle : Oracle I) (container : κ) (history : History I) :
    (activateGateway cls).run oracle ⟨(gateway, container), history⟩ =
      (.ok none, ⟨(gateway, container), history⟩) := by
  rw [activateGateway, run_get_bind]
  dsimp only
  rw [unconfigured]
  rfl

theorem run_activateGateway_of_configured {cls : GatewayClass I γ κ} {gateway : γ}
    (configured : cls.isConfigured gateway = true)
    (oracle : Oracle I) (container : κ) (history : History I) :
    (activateGateway cls).run oracle ⟨(gateway, container), history⟩ =
      let ended := cls.activate.run oracle ⟨(gateway, container), history⟩
      (ended.1.map fun succeeded => if succeeded then none else some false,
        ended.2) := by
  rw [activateGateway, run_get_bind]
  dsimp only
  rw [if_pos configured]
  simp only [run_bind]
  cases cls.activate.run oracle ⟨(gateway, container), history⟩ with
  | mk result world =>
      match result with
      | .ok true => rfl
      | .ok false => rfl
      | .error _ => rfl

theorem run_startGateways_of_ready {cls : GatewayClass I γ κ}
    {self : SoftwareContainer γ κ} {gwConfig : GatewayConfiguration}
    (ready : self.containerState = .ready)
    (oracle : Oracle I) (history : History I) :
    (startGateways cls gwConfig).run oracle ⟨self, history⟩ =
      (do
        if !(← configureGateways cls gwConfig) then
          return false
        else if !(← activateGateways cls) then
          return false
        else
          modify fun self => { self with previouslyConfigured := true }
          return true : Act I Fault (SoftwareContainer γ κ) Bool).run oracle
        ⟨self, history⟩ := by
  rw [startGateways, run_bind, run_assertValidState (by simp [ready])]
  simp only [run_bind, run_get]
  rw [if_neg (not_not_intro ready)]
  rfl

theorem run_startGateways_of_configure_failed {cls : GatewayClass I γ κ}
    {self : SoftwareContainer γ κ} {gwConfig : GatewayConfiguration}
    {oracle : Oracle I} {history : History I}
    (ready : self.containerState = .ready)
    (failed : ((configureGateways cls gwConfig).run oracle
      ⟨self, history⟩).1 ≠ .ok true) :
    (startGateways cls gwConfig).run oracle ⟨self, history⟩ =
      (configureGateways cls gwConfig).run oracle ⟨self, history⟩ := by
  rw [run_startGateways_of_ready ready, run_bind]
  cases ended : (configureGateways cls gwConfig).run oracle ⟨self, history⟩ with
  | mk result world =>
      rw [ended] at failed
      match result with
      | .ok true => exact absurd rfl failed
      | .ok false => rfl
      | .error _ => rfl

end SoftwareContainer

end SoftwareContainers
