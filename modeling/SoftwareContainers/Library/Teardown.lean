import SoftwareContainers.Gateways.Frames
import SoftwareContainers.Library.Tracked

namespace SoftwareContainers

open Effect Effect.Act Hook

/-! Which gateways are torn down when a container is shut down. -/

namespace GatewayBase

end GatewayBase

namespace GatewayHooks

variable {I : Interface} {γ κ : Type} (hooks : GatewayHooks I γ κ) (oracle : Oracle I)
  (world : World I (γ × κ))

end GatewayHooks

namespace SoftwareContainer

end SoftwareContainer

/-- How a class keeps what `isActivated()` looks at. -/
inductive PartKind where
  /-- The class is not dynamic: its state is looked at. -/
  | fixed
  /-- The class is dynamic and sets the flag when it has started its process. -/
  | flagging
  /-- The class is dynamic and never sets the flag. -/
  | silent
  deriving DecidableEq

namespace PartKind

/-- What holds of a part of a gateway of the kind. -/
def Holds : PartKind → GatewayBase → Bool → Prop
  | .fixed, base, activated =>
      base.isDynamic = false ∧ (activated = true → base.state = .activated)
  | .flagging, base, activated =>
      base.isDynamic = true ∧
        (activated = true ∨ base.state = .activated → base.activatedOnce = true)
  | .silent, base, _ => base.isDynamic = true ∧ base.activatedOnce = false

end PartKind

namespace AnyGateway

def kind : AnyGateway → PartKind
  | .deviceNode _ | .wayland _ => .silent
  | .dbus _ => .flagging
  | _ => .fixed

/-- What holds of the parts of a gateway, with the D-Bus configurations not released. -/
structure Faithful (gateway : AnyGateway) (activated : List Bool) : Prop where
  parts : List.Forall₂ gateway.kind.Holds gateway.parts activated
  unreleased : ∀ dbus, gateway = .dbus dbus →
    dbus.sessionBus.hasConfig = true ∧ dbus.systemBus.hasConfig = true

/-- What is done with the hooks of a class that inherits from `Gateway`, or with the D-Bus
gateway. -/
def withHooks {β : Type}
    (single : {γ : Type} → (γ → AnyGateway) → GatewayHooks Sys γ Container → γ → β)
    (dbus : DBusGateway → β) : AnyGateway → β
  | .file gateway => single .file FileGateway.hooks gateway
  | .network gateway => single .network NetworkGateway.hooks gateway
  | .pulse gateway => single .pulse PulseGateway.hooks gateway
  | .deviceNode gateway => single .deviceNode DeviceNodeGateway.hooks gateway
  | .dbus gateway => dbus gateway
  | .cgroups gateway => single .cgroups CgroupsGateway.hooks gateway
  | .wayland gateway => single .wayland WaylandGateway.hooks gateway
  | .environment gateway => single .environment EnvironmentGateway.hooks gateway

end AnyGateway

namespace DBusGatewayInstance

section

variable (activated : Prop) (state : Container.ContainerState)

end

end DBusGatewayInstance

namespace DBusGateway

section

variable {first second : DBusGatewayInstance → Prop} {may : Fault → Prop}
  {method : Hook DBusGatewayInstance Bool}

end

section

open DBusGatewayInstance

variable (session system : Prop)

end

end DBusGateway

namespace AnyGateway

end AnyGateway

end SoftwareContainers
