import Mathlib.Data.List.Forall2
import SoftwareContainers.Library.Teardown

namespace SoftwareContainers

open Effect Effect.Act Hook

/-! The shutdown of the gateways with a note of each part whose `teardownGateway` is
called.  The notes are not part of the program. -/

namespace GatewayHooks

variable {I : Interface} {γ κ : Type} (hooks : GatewayHooks I γ κ) (part : Nat)

def noting : GatewayHooks I γ (κ × List Nat) where
  base := hooks.base
  readConfigElement element := zoom withoutLog (hooks.readConfigElement element)
  activateGateway := zoom withoutLog hooks.activateGateway
  teardownGateway := do
    modify fun whole => (whole.1, (whole.2.1, whole.2.2 ++ [part]))
    zoom withoutLog hooks.teardownGateway

end GatewayHooks

namespace DBusGateway

abbrev Instance := Lens (DBusGateway × Container) (DBusGatewayInstance × Container)

def besideNotes (lens : Instance) :
    Lens (DBusGateway × (Container × List Nat)) (DBusGatewayInstance × (Container × List Nat))
    where
  get whole :=
    let part := lens.get (whole.1, whole.2.1)
    (part.1, (part.2, whole.2.2))
  set part whole :=
    let whole := lens.set (part.1, part.2.1) (whole.1, whole.2.1)
    (whole.1, (whole.2, part.2.2))
  get_set part whole :=
    congrArg (fun got => (got.1, (got.2, part.2.2)))
      (lens.get_set (part.1, part.2.1) (whole.1, whole.2.1))
  set_set first second whole :=
    congrArg (fun got => (got.1, (got.2, first.2.2)))
      (lens.set_set (first.1, first.2.1) (second.1, second.2.1) (whole.1, whole.2.1))

def notingInstance (lens : Instance) (part : Nat) :
    Act Sys Fault (DBusGateway × (Container × List Nat)) Bool := do
  if ((besideNotes lens).get (← get)).1.isActivated then
    zoom (besideNotes lens) (DBusGatewayInstance.hooks.noting part).teardown
  else
    return false

def notingTeardown : Act Sys Fault (DBusGateway × (Container × List Nat)) Bool := do
  let sessionBusTeardownResult ← notingInstance sessionLens 0
  let systemBusTeardownResult ← notingInstance systemLens 1
  return sessionBusTeardownResult || systemBusTeardownResult

end DBusGateway

namespace AnyGateway

abbrev Noting (γ α : Type) := Act Sys Fault (γ × (Container × List Nat)) α

section

variable {γ α : Type}

/-- Run a method of a gateway and put the gateway back. -/
def notingWithin (wrap : γ → AnyGateway) (gateway : γ) (method : Noting γ α) :
    Noting AnyGateway α :=
  ⟨fun oracle world =>
    let ended := method.run oracle ⟨(gateway, world.state.2), world.history⟩
    (ended.1, ⟨(wrap ended.2.state.1, ended.2.state.2), ended.2.history⟩)⟩

end

/-- `teardown()`, which all classes but that of the D-Bus gateway inherit. -/
def notingTeardown : Noting AnyGateway Bool := do
  (← get).1.withHooks
    (fun wrap hooks gateway => notingWithin wrap gateway (hooks.noting 0).teardown)
    (fun gateway => notingWithin .dbus gateway DBusGateway.notingTeardown)

end AnyGateway

abbrev NotedGateway := AnyGateway × List Nat

namespace NotedGateway

def notes : Lens (NotedGateway × Container) (AnyGateway × (Container × List Nat)) where
  get whole := (whole.1.1, (whole.2, whole.1.2))
  set part _ := ((part.1, part.2.2), part.2.1)
  get_set _ _ := rfl
  set_set _ _ _ := rfl

def gateway : Lens (NotedGateway × Container) (AnyGateway × Container) where
  get whole := (whole.1.1, whole.2)
  set part whole := ((part.1, whole.1.2), part.2)
  get_set _ _ := rfl
  set_set _ _ _ := rfl

def shutdownGateway : Act Sys Fault (NotedGateway × Container) (Option PUnit) := do
  if AnyGateway.gatewayClass.isActivated (← get).1.1 then
    let _ ← zoom notes AnyGateway.notingTeardown
    return none
  else
    return none

def destroyGateway : Act Sys Fault (NotedGateway × Container) (Option PUnit) :=
  zoom gateway SoftwareContainer.destroyGateway

end NotedGateway

namespace SoftwareContainer

/-- The container, with nothing noted. -/
def noting (self : LibraryContainer) : SoftwareContainer NotedGateway Container :=
  self.map (fun gateway => (gateway, [])) fun container => container

end SoftwareContainer

end SoftwareContainers
