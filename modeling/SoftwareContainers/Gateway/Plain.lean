import SoftwareContainers.Library.Startup

namespace SoftwareContainers

open Effect Effect.Act

/-! Gateways that override nothing of the base class.  Their hooks are the
environment's: each may return either value or throw, depending on everything
that was called before. -/

/-- A gateway and the elements its `readConfigElement` has accepted so far. -/
@[ext] structure PlainGateway where
  base : GatewayBase
  accepted : List Json

inductive HookCall where
  | readConfigElement (id : String) (accepted : List Json) (element : Json)
  | activateGateway (id : String) (accepted : List Json)
  | teardownGateway (id : String) (accepted : List Json)

inductive HookOutcome where
  | returned (result : Bool)
  | threw (fault : Fault)
  deriving DecidableEq

abbrev HookInterface : Interface := ⟨HookCall, fun _ => HookOutcome⟩

abbrev allSucceed : Oracle HookInterface := fun _ _ => .returned true

namespace PlainGateway

abbrev Method := Act HookInterface Fault (PlainGateway × Unit)

def callHook (call : HookCall) : Method Bool := do
  match ← ask call with
  | .returned result => return result
  | .threw fault => throw fault

def readConfigElement (element : Json) : Method Bool := do
  let gateway := (← get).1
  if ← callHook (.readConfigElement gateway.base.id gateway.accepted element) then
    modify fun whole =>
      ({ whole.1 with accepted := whole.1.accepted ++ [element] }, whole.2)
    return true
  else
    return false

def activateGateway : Method Bool := do
  let gateway := (← get).1
  callHook (.activateGateway gateway.base.id gateway.accepted)

def teardownGateway : Method Bool := do
  let gateway := (← get).1
  callHook (.teardownGateway gateway.base.id gateway.accepted)

def hooks : GatewayHooks HookInterface PlainGateway Unit where
  base := {
    get := PlainGateway.base
    set := fun base gateway => { gateway with base }
    get_set := fun _ _ => rfl
    set_set := fun _ _ _ => rfl }
  readConfigElement := readConfigElement
  activateGateway := activateGateway
  teardownGateway := teardownGateway

abbrev gatewayClass : GatewayClass HookInterface PlainGateway Unit :=
  hooks.toGatewayClass

@[simp] theorem gatewayClass_id (gateway : PlainGateway) :
    gatewayClass.id gateway = gateway.base.id := rfl

def readCall (gateway : PlainGateway) (element : Json) : HookCall :=
  .readConfigElement gateway.base.id gateway.accepted element

def accept (gateway : PlainGateway) (elements : List Json) : PlainGateway :=
  { gateway with accepted := gateway.accepted ++ elements }

@[simp] theorem accept_nil (gateway : PlainGateway) : gateway.accept [] = gateway := by
  simp [accept]

@[simp] theorem accept_accept (gateway : PlainGateway) (first second : List Json) :
    (gateway.accept first).accept second = gateway.accept (first ++ second) := by
  simp [accept]

@[simp] theorem accept_base (gateway : PlainGateway) (elements : List Json) :
    (gateway.accept elements).base = gateway.base := rfl

def Accepts (gateway : PlainGateway) (oracle : Oracle HookInterface)
    (history : History HookInterface) (element : Json) : Prop :=
  element.isObject = true ∧
    oracle history (gateway.readCall element) = .returned true

/-- `setConfig` ends before the gateway has accepted an element. -/
def RefusesFirst (gateway : PlainGateway) (oracle : Oracle HookInterface)
    (history : History HookInterface) (config : Json) : Prop :=
  GatewayHooks.Locked gateway.base ∨
    ∀ element ∈ config.elements.head?, ¬ gateway.Accepts oracle history element

theorem run_callHook (call : HookCall) (oracle : Oracle HookInterface)
    (world : World HookInterface (PlainGateway × Unit)) :
    (callHook call).run oracle world =
      (match oracle world.history call with
        | .returned result => .ok result
        | .threw fault => .error fault,
        { world with
          history := world.history ++ [⟨call, oracle world.history call⟩] }) := by
  rw [callHook, run_ask_bind]
  cases oracle world.history call <;> rfl

theorem run_readConfigElement (gateway : PlainGateway) (element : Json)
    (oracle : Oracle HookInterface) (history : History HookInterface) :
    (readConfigElement element).run oracle ⟨(gateway, ⟨⟩), history⟩ =
      match oracle history (gateway.readCall element) with
      | .returned true =>
          (.ok true, ⟨(gateway.accept [element], ⟨⟩),
            history ++ [⟨gateway.readCall element, .returned true⟩]⟩)
      | .returned false =>
          (.ok false, ⟨(gateway, ⟨⟩),
            history ++ [⟨gateway.readCall element, .returned false⟩]⟩)
      | .threw fault =>
          (.error fault, ⟨(gateway, ⟨⟩),
            history ++ [⟨gateway.readCall element, .threw fault⟩]⟩) := by
  simp only [readConfigElement, run_bind, run_get, run_callHook, readCall]
  cases oracle history
      (.readConfigElement gateway.base.id gateway.accepted element) with
  | returned result => cases result <;> rfl
  | threw fault => rfl

end PlainGateway

end SoftwareContainers
