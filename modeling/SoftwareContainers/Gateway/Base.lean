import SoftwareContainers.Base.Fault
import SoftwareContainers.Base.Json
import SoftwareContainers.Effect.Contract

namespace SoftwareContainers

open Effect Effect.Act

/-! The base class `Gateway`: its three states, and the methods every gateway
inherits.  `κ` is what the hooks of a gateway work on besides the gateway. -/

inductive GatewayState where
  | created
  | configured
  | activated
  deriving DecidableEq, Repr

/-- The value of the enumerator, which `isConfigured` and `isActivated` compare. -/
def GatewayState.value : GatewayState → Nat
  | .created => 0
  | .configured => 1
  | .activated => 2

structure GatewayBase where
  id : String
  isDynamic : Bool
  state : GatewayState
  activatedOnce : Bool
  deriving DecidableEq, Repr

namespace GatewayBase

def new (id : String) (isDynamic : Bool) : GatewayBase where
  id := id
  isDynamic := isDynamic
  state := .created
  activatedOnce := false

def isConfigured (gateway : GatewayBase) : Bool :=
  GatewayState.configured.value ≤ gateway.state.value

def isActivated (gateway : GatewayBase) : Bool :=
  if gateway.isDynamic then gateway.activatedOnce
  else GatewayState.activated.value ≤ gateway.state.value

theorem isConfigured_iff {gateway : GatewayBase} :
    gateway.isConfigured = true ↔ gateway.state ≠ .created := by
  unfold isConfigured
  cases gateway.state <;> decide

end GatewayBase

/-- The virtual functions `SoftwareContainer` calls on a gateway. -/
structure GatewayClass (I : Interface) (γ κ : Type) where
  id : γ → String
  setConfig : Json → Act I Fault (γ × κ) Bool
  activate : Act I Fault (γ × κ) Bool
  teardown : Act I Fault (γ × κ) Bool
  isConfigured : γ → Bool
  isActivated : γ → Bool

/-- What a class that inherits from `Gateway` implements. -/
structure GatewayHooks (I : Interface) (γ κ : Type) where
  base : Lens γ GatewayBase
  readConfigElement : Json → Act I Fault (γ × κ) Bool
  activateGateway : Act I Fault (γ × κ) Bool
  teardownGateway : Act I Fault (γ × κ) Bool

namespace GatewayHooks

variable {I : Interface} {γ κ : Type}

def getBase (hooks : GatewayHooks I γ κ) : Act I Fault (γ × κ) GatewayBase := do
  return hooks.base.get (← get).1

def setState (hooks : GatewayHooks I γ κ) (state : GatewayState) :
    Act I Fault (γ × κ) PUnit :=
  modify fun whole =>
    (hooks.base.set { hooks.base.get whole.1 with state } whole.1, whole.2)

def readConfigElements (hooks : GatewayHooks I γ κ) :
    List Json → Act I Fault (γ × κ) Bool
  | [] => return true
  | element :: rest => do
      if !element.isObject then
        return false
      else if !(← hooks.readConfigElement element) then
        return false
      else
        hooks.readConfigElements rest

def setConfig (hooks : GatewayHooks I γ κ) (config : Json) :
    Act I Fault (γ × κ) Bool := do
  let gateway ← hooks.getBase
  if gateway.state = .activated ∧ gateway.isDynamic = false then
    throw (.gatewayError
      ("Can not configure a gateway that is already activated " ++
        "if the gateway does not support dynamic behavior. " ++
        "Gateway ID: " ++ gateway.id))
  else
    match config with
    | .array [] => return false
    | .array elements =>
        if !(← hooks.readConfigElements elements) then
          return false
        else
          hooks.setState .configured
          return true
    | _ => return false

def activate (hooks : GatewayHooks I γ κ) : Act I Fault (γ × κ) Bool := do
  let gateway ← hooks.getBase
  if gateway.state = .activated ∧ gateway.isDynamic = false then
    throw (.gatewayError
      ("Can not activate a gateway that is already activated " ++
        "if the gateway does not support dynamic behavior. " ++
        "Gateway ID: " ++ gateway.id))
  else if gateway.state ≠ .configured then
    throw (.gatewayError
      ("Activate was called on a gateway which is not in configured state. " ++
        "Gateway ID: " ++ gateway.id))
  else if !(← hooks.activateGateway) then
    return false
  else
    hooks.setState .activated
    return true

def teardown (hooks : GatewayHooks I γ κ) : Act I Fault (γ × κ) Bool := do
  let gateway ← hooks.getBase
  if gateway.state ≠ .activated ∧ gateway.activatedOnce = false then
    throw (.gatewayError
      ("Teardown called on non-activated gateway. Gateway ID:  " ++ gateway.id))
  else if !(← hooks.teardownGateway) then
    return false
  else
    modify fun whole =>
      (hooks.base.set { hooks.base.get whole.1 with
        state := .created, activatedOnce := false } whole.1, whole.2)
    return true

/-- The virtual functions of a gateway that overrides none of the base class. -/
def toGatewayClass (hooks : GatewayHooks I γ κ) : GatewayClass I γ κ where
  id gateway := (hooks.base.get gateway).id
  setConfig := hooks.setConfig
  activate := hooks.activate
  teardown := hooks.teardown
  isConfigured gateway := (hooks.base.get gateway).isConfigured
  isActivated gateway := (hooks.base.get gateway).isActivated

/-! How each method starts: the guard on the state, then the hooks. -/

section

variable (hooks : GatewayHooks I γ κ) (oracle : Oracle I) (world : World I (γ × κ))

/-- The guard both `setConfig` and `activate` begin with. -/
abbrev Locked (base : GatewayBase) : Prop :=
  base.state = .activated ∧ base.isDynamic = false

theorem run_setConfig_of_locked (config : Json)
    (locked : Locked (hooks.base.get world.state.1)) :
    ∃ message, (hooks.setConfig config).run oracle world =
      (.error (.gatewayError message), world) := by
  unfold setConfig getBase
  simp only [run_bind, run_get, run_pure]
  rw [if_pos locked]
  exact ⟨_, rfl⟩

theorem run_setConfig_of_elements_nil {config : Json}
    (unlocked : ¬ Locked (hooks.base.get world.state.1))
    (empty : config.elements = []) :
    (hooks.setConfig config).run oracle world = (.ok false, world) := by
  unfold setConfig getBase
  simp only [run_bind, run_get, run_pure]
  rw [if_neg unlocked]
  match config, empty with
  | .array [], _ => rfl
  | .array (_ :: _), nonempty => cases nonempty
  | .null, _ | .boolean _, _ | .integer _, _ | .real _, _ | .string _, _
  | .object _, _ => rfl

theorem run_setConfig_array (head : Json) (tail : List Json)
    (unlocked : ¬ Locked (hooks.base.get world.state.1)) :
    (hooks.setConfig (.array (head :: tail))).run oracle world =
      (do
        if !(← hooks.readConfigElements (head :: tail)) then
          return false
        else
          hooks.setState .configured
          return true : Act I Fault (γ × κ) Bool).run oracle world := by
  unfold setConfig getBase
  simp only [run_bind, run_get, run_pure]
  rw [if_neg unlocked]
  rfl

theorem run_activate_of_not_configured
    (notConfigured : (hooks.base.get world.state.1).state ≠ .configured) :
    ∃ message, hooks.activate.run oracle world =
      (.error (.gatewayError message), world) := by
  by_cases locked : Locked (hooks.base.get world.state.1)
  · unfold activate getBase
    simp only [run_bind, run_get, run_pure]
    rw [if_pos locked]
    exact ⟨_, rfl⟩
  · unfold activate getBase
    simp only [run_bind, run_get, run_pure]
    rw [if_neg locked, if_pos notConfigured]
    exact ⟨_, rfl⟩

theorem run_activate_of_configured
    (configured : (hooks.base.get world.state.1).state = .configured) :
    hooks.activate.run oracle world =
      (do
        if !(← hooks.activateGateway) then
          return false
        else
          hooks.setState .activated
          return true : Act I Fault (γ × κ) Bool).run oracle world := by
  have unlocked : ¬ Locked (hooks.base.get world.state.1) := by
    simp [Locked, configured]
  unfold activate getBase
  simp only [run_bind, run_get, run_pure]
  rw [if_neg unlocked, if_neg (not_not_intro configured)]
  rfl

theorem run_teardown_of_not_activated
    (notActivated : (hooks.base.get world.state.1).state ≠ .activated)
    (never : (hooks.base.get world.state.1).activatedOnce = false) :
    ∃ message, hooks.teardown.run oracle world =
      (.error (.gatewayError message), world) := by
  unfold teardown getBase
  simp only [run_bind, run_get, run_pure]
  rw [if_pos ⟨notActivated, never⟩]
  exact ⟨_, rfl⟩

theorem run_teardown_of_activated
    (activated : (hooks.base.get world.state.1).state = .activated) :
    hooks.teardown.run oracle world =
      (do
        if !(← hooks.teardownGateway) then
          return false
        else
          modify fun whole =>
            (hooks.base.set { hooks.base.get whole.1 with
              state := .created, activatedOnce := false } whole.1, whole.2)
          return true : Act I Fault (γ × κ) Bool).run oracle world := by
  unfold teardown getBase
  simp only [run_bind, run_get, run_pure]
  rw [if_neg fun refused => refused.1 activated]
  rfl

end

end GatewayHooks

end SoftwareContainers
