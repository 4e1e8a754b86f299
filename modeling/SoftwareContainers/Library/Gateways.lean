import SoftwareContainers.Gateways.CgroupsContract
import SoftwareContainers.Library.Startup

namespace SoftwareContainers

open Effect Effect.Act Hook

/-! The gateways of the library behind the base class `Gateway`. -/

inductive AnyGateway where
  | file (gateway : FileGateway)
  | network (gateway : NetworkGateway)
  | pulse (gateway : PulseGateway)
  | deviceNode (gateway : DeviceNodeGateway)
  | dbus (gateway : DBusGateway)
  | cgroups (gateway : CgroupsGateway)
  | wayland (gateway : WaylandGateway)
  | environment (gateway : EnvironmentGateway)

namespace AnyGateway

variable {α β : Type}

/-- Run a method of a gateway and put the gateway back. -/
def within {γ : Type} (wrap : γ → AnyGateway) (gateway : γ) (method : Hook γ α) :
    Hook AnyGateway α :=
  ⟨fun oracle world =>
    let ended := method.run oracle ⟨(gateway, world.state.2), world.history⟩
    (ended.1, ⟨(wrap ended.2.state.1, ended.2.state.2), ended.2.history⟩)⟩

def call (method : {γ : Type} → GatewayClass Sys γ Container → Hook γ α) :
    Hook AnyGateway α := do
  match ← getGateway with
  | .file gateway => within .file gateway (method FileGateway.hooks.toGatewayClass)
  | .network gateway =>
      within .network gateway (method NetworkGateway.hooks.toGatewayClass)
  | .pulse gateway => within .pulse gateway (method PulseGateway.hooks.toGatewayClass)
  | .deviceNode gateway =>
      within .deviceNode gateway (method DeviceNodeGateway.hooks.toGatewayClass)
  | .dbus gateway => within .dbus gateway (method DBusGateway.gatewayClass)
  | .cgroups gateway =>
      within .cgroups gateway (method CgroupsGateway.hooks.toGatewayClass)
  | .wayland gateway =>
      within .wayland gateway (method WaylandGateway.hooks.toGatewayClass)
  | .environment gateway =>
      within .environment gateway (method EnvironmentGateway.hooks.toGatewayClass)

def query (what : {γ : Type} → GatewayClass Sys γ Container → γ → β) : AnyGateway → β
  | .file gateway => what FileGateway.hooks.toGatewayClass gateway
  | .network gateway => what NetworkGateway.hooks.toGatewayClass gateway
  | .pulse gateway => what PulseGateway.hooks.toGatewayClass gateway
  | .deviceNode gateway => what DeviceNodeGateway.hooks.toGatewayClass gateway
  | .dbus gateway => what DBusGateway.gatewayClass gateway
  | .cgroups gateway => what CgroupsGateway.hooks.toGatewayClass gateway
  | .wayland gateway => what WaylandGateway.hooks.toGatewayClass gateway
  | .environment gateway => what EnvironmentGateway.hooks.toGatewayClass gateway

def gatewayClass : GatewayClass Sys AnyGateway Container where
  id := query fun cls => cls.id
  setConfig config := call fun cls => cls.setConfig config
  activate := call fun cls => cls.activate
  teardown := call fun cls => cls.teardown
  isConfigured := query fun cls => cls.isConfigured
  isActivated := query fun cls => cls.isActivated

/-- The destructors; only that of the D-Bus gateway does something. -/
def destructor : Hook AnyGateway PUnit := do
  match ← getGateway with
  | .dbus gateway => within .dbus gateway DBusGateway.destructor
  | _ => return ⟨⟩

/-! The contract of the eight classes. -/

def Valid : AnyGateway → Prop
  | .file gateway => gateway.Valid
  | .network gateway => gateway.Valid
  | .pulse gateway => gateway.Valid
  | .deviceNode gateway => gateway.Valid
  | .dbus gateway => gateway.Valid
  | .cgroups gateway => gateway.Valid
  | .wayland gateway => gateway.Valid
  | .environment gateway => gateway.Valid

/-- The element can be given to the gateway with the id. -/
structure Fits (id : String) (element : Json) : Prop where
  network : id = NetworkGateway.ID → NetworkGateway.Fits element
  cgroups : id = CgroupsGateway.ID → CGroupsParser.Fits element

structure Wraps {γ : Type} (wrap : γ → AnyGateway) (cls : GatewayClass Sys γ Container)
    (inv : γ → Prop) (fits : Json → Prop) : Prop where
  sound : cls.Sound inv fits
  valid : ∀ gateway, (wrap gateway).Valid = inv gateway
  fits : ∀ gateway element, inv gateway → Fits (cls.id gateway) element → fits element
  call : ∀ {α : Type} (method : {γ : Type} → GatewayClass Sys γ Container → Hook γ α)
    gateway oracle container history,
    (call method).run oracle ⟨(wrap gateway, container), history⟩ =
      (within wrap gateway (method cls)).run oracle ⟨(wrap gateway, container), history⟩
  query : ∀ {β : Type} (what : {γ : Type} → GatewayClass Sys γ Container → γ → β) gateway,
    query what (wrap gateway) = what cls gateway

theorem exists_wraps (self : AnyGateway) :
    ∃ (γ : Type) (wrap : γ → AnyGateway) (cls : GatewayClass Sys γ Container)
      (inv : γ → Prop) (fits : Json → Prop) (gateway : γ),
      self = wrap gateway ∧ Wraps wrap cls inv fits := by
  cases self with
  | file gateway =>
      exact ⟨_, .file, _, _, _, gateway, rfl, FileGateway.sound_hooks.toGatewayClass,
        fun _ => rfl, fun _ _ _ _ => trivial, fun _ _ _ _ _ => rfl, fun _ _ => rfl⟩
  | network gateway =>
      exact ⟨_, .network, _, _, _, gateway, rfl, NetworkGateway.sound_hooks.toGatewayClass,
        fun _ => rfl, fun _ _ valid fits => fits.network valid.id,
        fun _ _ _ _ _ => rfl, fun _ _ => rfl⟩
  | pulse gateway =>
      exact ⟨_, .pulse, _, _, _, gateway, rfl, PulseGateway.sound_hooks.toGatewayClass,
        fun _ => rfl, fun _ _ _ _ => trivial, fun _ _ _ _ _ => rfl, fun _ _ => rfl⟩
  | deviceNode gateway =>
      exact ⟨_, .deviceNode, _, _, _, gateway, rfl,
        DeviceNodeGateway.sound_hooks.toGatewayClass,
        fun _ => rfl, fun _ _ _ _ => trivial, fun _ _ _ _ _ => rfl, fun _ _ => rfl⟩
  | dbus gateway =>
      exact ⟨_, .dbus, _, _, _, gateway, rfl, DBusGateway.sound_gatewayClass,
        fun _ => rfl, fun _ _ _ _ => trivial, fun _ _ _ _ _ => rfl, fun _ _ => rfl⟩
  | cgroups gateway =>
      exact ⟨_, .cgroups, _, _, _, gateway, rfl, CgroupsGateway.sound_hooks.toGatewayClass,
        fun _ => rfl, fun _ _ valid fits => fits.cgroups valid.id,
        fun _ _ _ _ _ => rfl, fun _ _ => rfl⟩
  | wayland gateway =>
      exact ⟨_, .wayland, _, _, _, gateway, rfl, WaylandGateway.sound_hooks.toGatewayClass,
        fun _ => rfl, fun _ _ _ _ => trivial, fun _ _ _ _ _ => rfl, fun _ _ => rfl⟩
  | environment gateway =>
      exact ⟨_, .environment, _, _, _, gateway, rfl,
        EnvironmentGateway.sound_hooks.toGatewayClass,
        fun _ => rfl, fun _ _ _ _ => trivial, fun _ _ _ _ _ => rfl, fun _ _ => rfl⟩

theorem triple_call {γ : Type} {wrap : γ → AnyGateway}
    {cls : GatewayClass Sys γ Container} {inv : γ → Prop} {fits : Json → Prop}
    (wraps : Wraps wrap cls inv fits) {ok : Prop}
    (method : {γ : Type} → GatewayClass Sys γ Container → Hook γ α)
    (sound : Hook.Sound ok inv Caught (method cls)) {gateway : γ} (valid : ok → inv gateway)
    (state : Container.ContainerState) :
    Triple (fun whole => whole.1 = wrap gateway ∧ whole.2.state = state) Steady
      (fun result whole => ((ok → whole.1.Valid) ∧ whole.2.state = state) ∧
        ∀ error, result = .error error → ok → Caught error) (call method) := by
  intro oracle ⟨⟨self, container⟩, history⟩ ⟨same, sameState⟩
  dsimp only at same
  subst same
  rw [wraps.call]
  obtain ⟨⟨validAfter, stateAfter⟩, recorded, caught⟩ :=
    sound state oracle ⟨(gateway, container), history⟩ ⟨valid, sameState⟩
  exact ⟨⟨⟨fun fine => (wraps.valid _).symm ▸ validAfter fine, stateAfter⟩, caught⟩, recorded⟩

theorem triple_setConfig {ok : Prop} {self : AnyGateway} (valid : ok → self.Valid)
    {config : Json}
    (fits : ok → ∀ element ∈ config.elements, Fits (gatewayClass.id self) element)
    (state : Container.ContainerState) :
    Triple (fun whole => whole.1 = self ∧ whole.2.state = state) Steady
      (fun result whole => ((ok → whole.1.Valid) ∧ whole.2.state = state) ∧
        ∀ error, result = .error error → ok → Caught error)
      (gatewayClass.setConfig config) := by
  obtain ⟨γ, wrap, cls, inv, fit, gateway, rfl, wraps⟩ := exists_wraps self
  rw [wraps.valid] at valid
  have sameId : gatewayClass.id (wrap gateway) = cls.id gateway :=
    wraps.query (fun cls => cls.id) gateway
  rw [sameId] at fits
  exact triple_call wraps (fun cls => cls.setConfig config)
    (wraps.sound.setConfig ok config fun fine element member =>
      wraps.fits gateway element (valid fine) (fits fine element member)) valid state

theorem sound_activate (ok : Prop) : Hook.Sound ok Valid Caught gatewayClass.activate := by
  intro state oracle world holds
  obtain ⟨γ, wrap, cls, inv, fit, gateway, same, wraps⟩ := exists_wraps world.state.1
  have valid : ok → inv gateway := fun fine => wraps.valid gateway ▸ same ▸ holds.1 fine
  obtain ⟨⟨after, caught⟩, recorded⟩ := triple_call wraps (fun cls => cls.activate)
    (wraps.sound.activate ok) valid state oracle world ⟨same, holds.2⟩
  exact ⟨after, recorded, caught⟩

theorem triple_teardown (state : Container.ContainerState) :
    Triple (fun whole => gatewayClass.isActivated whole.1 = true ∧ whole.2.state = state)
      Steady (fun result whole => whole.2.state = state ∧ ∀ error, result ≠ .error error)
      gatewayClass.teardown := by
  intro oracle ⟨⟨self, container⟩, history⟩ ⟨activated, sameState⟩
  obtain ⟨γ, wrap, cls, inv, fit, gateway, rfl, wraps⟩ := exists_wraps self
  have activatedClass : cls.isActivated gateway = true :=
    (wraps.query (fun cls => cls.isActivated) gateway).symm.trans activated
  have called := wraps.call (fun cls => cls.teardown) gateway oracle container history
  rw [show gatewayClass.teardown = call (fun cls => cls.teardown) from rfl, called]
  exact wraps.sound.teardown state oracle ⟨(gateway, container), history⟩
    ⟨activatedClass, sameState⟩

theorem keeps_destructor (state : Container.ContainerState) :
    Keeps (fun whole => whole.2.state = state) Steady (fun _ => False) destructor := by
  intro oracle ⟨⟨self, container⟩, history⟩ sameState
  cases self with
  | dbus gateway =>
      exact DBusGateway.keeps_destructor state oracle ⟨(gateway, container), history⟩ sameState
  | _ => exact ⟨sameState, ⟨[], by simp [destructor, getGateway, run_bind], by simp⟩, nofun⟩

end AnyGateway

end SoftwareContainers
