import SoftwareContainers.Gateways.Faults
import SoftwareContainers.Library.Gateways

namespace SoftwareContainers

open Effect Effect.Act Hook

/-! What the gateways ask of LXC. -/

namespace Hook

variable {γ α β : Type} {inv : Container → Prop} {allowed : Event Sys → Prop}

/-- What holds of a gateway and of its container. -/
structure Both (part : γ → Prop) (inv : Container → Prop) (whole : γ × Container) :
    Prop where
  gateway : part whole.1
  container : inv whole.2

abbrev ServingAs (part : γ → Prop) (inv : Container → Prop) (allowed : Event Sys → Prop)
    (method : Hook γ α) : Prop :=
  Keeps (Both part inv) allowed Fault.OfContainer method

abbrev Serving (inv : Container → Prop) (allowed : Event Sys → Prop) (method : Hook γ α) :
    Prop :=
  ServingAs (fun _ => True) inv allowed method

section

variable {part : γ → Prop}

theorem serving_onContainer {method : Container.Method α}
    (serving : Container.Serving inv allowed method) :
    ServingAs part inv allowed (onContainer method : Hook γ α) :=
  keeps_zoom (fun _ holds => holds.container) (fun _ _ holds after => ⟨holds.gateway, after⟩)
    serving

theorem serving_getGateway_bind {next : γ → Hook γ β}
    (rest : ∀ gateway, part gateway → ServingAs part inv allowed (next gateway)) :
    ServingAs part inv allowed (getGateway >>= next) :=
  fun oracle world holds => rest world.state.1 holds.gateway oracle world holds

theorem servingAs_modifyGateway {change : γ → γ}
    (kept : ∀ gateway, part gateway → part (change gateway)) :
    ServingAs part inv allowed (modifyGateway change) :=
  keeps_modify fun _ holds => ⟨kept _ holds.gateway, holds.container⟩

theorem serving_modifyGateway (change : γ → γ) : Serving inv allowed (modifyGateway change) :=
  servingAs_modifyGateway fun _ _ => trivial

theorem serving_nothingToTearDown :
    ServingAs part inv allowed (nothingToTearDown : Hook γ Bool) :=
  keeps_pure true

end

end Hook

variable {γ : Type}

/-- The methods of a gateway ask for what is allowed, and activation only needs a container
that runs. -/
structure GatewayClass.Serve (cls : GatewayClass Sys γ Container) (part : γ → Prop)
    (inv : Container → Prop) (allowed : Event Sys → Prop) : Prop where
  setConfig : ∀ config, ServingAs part inv allowed (cls.setConfig config)
  activate : Container.Usable inv allowed → ServingAs part inv allowed cls.activate
  teardown : ServingAs part inv allowed cls.teardown

namespace GatewayHooks

/-- What holds of the gateway says nothing about its base class. -/
structure Serve (hooks : GatewayHooks Sys γ Container) (part : γ → Prop)
    (inv : Container → Prop) (allowed : Event Sys → Prop) : Prop where
  base : ∀ base gateway, part gateway → part (hooks.base.set base gateway)
  readConfigElement : ∀ element, ServingAs part inv allowed (hooks.readConfigElement element)
  activateGateway : Container.Usable inv allowed →
    ServingAs part inv allowed hooks.activateGateway
  teardownGateway : ServingAs part inv allowed hooks.teardownGateway

variable {hooks : GatewayHooks Sys γ Container} {part : γ → Prop} {inv : Container → Prop}
  {allowed : Event Sys → Prop} (serve : hooks.Serve part inv allowed)

include serve

theorem Serve.setState (state : GatewayState) :
    ServingAs part inv allowed (hooks.setState state) :=
  keeps_modify fun _ holds => ⟨serve.base _ _ holds.gateway, holds.container⟩

theorem Serve.readConfigElements (elements : List Json) :
    ServingAs part inv allowed (hooks.readConfigElements elements) := by
  induction elements with
  | nil => exact keeps_pure _
  | cons element rest ih =>
      exact keeps_ite (fun _ => keeps_pure _) fun _ =>
        keeps_bind (serve.readConfigElement element) fun _ =>
          keeps_ite (fun _ => keeps_pure _) fun _ => ih

theorem Serve.setConfig (config : Json) :
    ServingAs part inv allowed (hooks.setConfig config) := by
  refine keeps_bind (keeps_get_bind fun _ _ => keeps_pure _) fun gateway =>
    keeps_ite (fun _ => keeps_throw trivial) fun _ => ?_
  cases config with
  | array elements =>
      cases elements with
      | nil => exact keeps_pure _
      | cons head tail =>
          exact keeps_bind (serve.readConfigElements _) fun _ =>
            keeps_ite (fun _ => keeps_pure _) fun _ =>
              keeps_bind (serve.setState _) fun _ => keeps_pure _
  | _ => exact keeps_pure _

theorem Serve.activate (usable : Container.Usable inv allowed) :
    ServingAs part inv allowed hooks.activate :=
  keeps_bind (keeps_get_bind fun _ _ => keeps_pure _) fun _ =>
    keeps_ite (fun _ => keeps_throw trivial) fun _ =>
    keeps_ite (fun _ => keeps_throw trivial) fun _ =>
    keeps_bind (serve.activateGateway usable) fun _ =>
      keeps_ite (fun _ => keeps_pure _) fun _ =>
        keeps_bind (serve.setState _) fun _ => keeps_pure _

theorem Serve.teardown : ServingAs part inv allowed hooks.teardown :=
  keeps_bind (keeps_get_bind fun _ _ => keeps_pure _) fun _ =>
    keeps_ite (fun _ => keeps_throw trivial) fun _ =>
    keeps_bind serve.teardownGateway fun _ => keeps_ite (fun _ => keeps_pure _)
      fun _ => keeps_bind (keeps_modify fun _ holds =>
        ⟨serve.base _ _ holds.gateway, holds.container⟩) fun _ => keeps_pure _

theorem Serve.toGatewayClass : hooks.toGatewayClass.Serve part inv allowed :=
  ⟨serve.setConfig, serve.activate, serve.teardown⟩

end GatewayHooks

/-! The eight gateways. -/

section

variable {inv : Container → Prop} {allowed : Event Sys → Prop}
  (serves : Container.Serves inv allowed)

include serves

theorem FileGateway.serve : FileGateway.hooks.Serve (fun _ => True) inv allowed where
  base _ _ _ := trivial
  readConfigElement element := by
    refine keeps_bind (serves.system.keeps rfl) fun readOnly => ?_
    cases parseConfigElement element readOnly with
    | none => exact keeps_pure _
    | some setting =>
        refine serving_getGateway_bind fun self _ => ?_
        cases addSetting setting self.settings with
        | none => exact keeps_pure _
        | some settings => exact keeps_bind (serving_modifyGateway _) fun _ => keeps_pure _
  activateGateway _ := by
    refine serving_getGateway_bind fun self _ => ?_
    induction self.settings with
    | nil => exact keeps_pure _
    | cons setting rest ih =>
        exact keeps_bind (serving_onContainer
          (Container.serving_bindMountInContainer serves _ _ _)) fun _ =>
            keeps_ite (fun _ => keeps_pure _) fun _ => ih
  teardownGateway := serving_nothingToTearDown

namespace NetworkGateway

structure Place where
  netmask : Nat
  gateway : String
  containerID : Int

def Place.address (place : Place) : Except Fault Nat :=
  generateIP place.netmask place.gateway place.containerID

def place (self : NetworkGateway) : Place := ⟨self.netmask, self.gateway, self.containerID⟩

structure Assigned (place : Place) (network : NetworkGateway) : Prop where
  isAt : network.place = place
  generated : place.address = .ok network.ip

/-- The generated address may be given to the interface. -/
def Addressable (allowed : Event Sys → Prop) (place : Place) : Prop :=
  ∀ ip, place.address = .ok ip →
    ∀ answer, allowed ⟨.child (.setIP ip place.netmask), answer⟩

section

variable {part : NetworkGateway → Prop} {place : Place}

theorem serving_job {function : Job} (isSystem : function.isSystem = true) :
    ServingAs part inv allowed (onContainer (Container.runFunctionJob function)) :=
  serving_onContainer
    (Container.serving_runFunctionJob serves (serves.system.asked isSystem))

theorem serving_applyEntries (entries : List IPTableEntry) :
    ServingAs part inv allowed (applyEntries entries) := by
  induction entries with
  | nil => exact keeps_pure _
  | cons entry rest ih =>
      exact keeps_bind (serving_job serves rfl) fun _ => keeps_ite (fun _ => keeps_pure _)
        fun _ => ih

theorem serving_isBridgeAvailable : ServingAs part inv allowed isBridgeAvailable :=
  serving_getGateway_bind fun _ _ => keeps_bind (serves.system.keeps rfl) fun _ =>
    keeps_bind (serves.system.keeps rfl) fun _ => serves.system.keeps rfl

theorem asked_bringUpEthernet (addressable : Addressable allowed place) {self : NetworkGateway}
    (assigned : Assigned place self) :
    ∀ event, (Job.bringUpEthernet self.ip self.netmask).Asks event → allowed event := by
  rintro ⟨_, answer⟩ ⟨call, member, rfl⟩
  have given : ∀ answer, allowed ⟨.child (.setIP self.ip self.netmask), answer⟩ := by
    have netmask : self.netmask = place.netmask := congrArg Place.netmask assigned.isAt
    rw [netmask]
    exact addressable _ assigned.generated
  simp only [Job.calls, List.mem_cons, List.not_mem_nil, or_false] at member
  rcases member with rfl | rfl | rfl
  · exact serves.system _ answer rfl
  · exact serves.system _ answer rfl
  · exact given answer

theorem serving_up (addressable : Addressable allowed place) :
    ServingAs (Assigned place) inv allowed up := by
  refine serving_getGateway_bind fun self assigned => keeps_ite (fun _ => keeps_pure _)
    fun _ => ?_
  refine keeps_bind (serving_onContainer (Container.serving_runFunctionJob serves
    (asked_bringUpEthernet serves addressable assigned))) fun _ =>
      keeps_ite (fun _ => ?_) fun _ => keeps_pure _
  refine keeps_bind (servingAs_modifyGateway fun self assigned => ?_) fun _ =>
    serving_getGateway_bind fun _ _ => keeps_bind (serving_job serves rfl) fun _ => keeps_pure _
  exact ⟨assigned.isAt, assigned.generated⟩

theorem serving_activateGateway (addressable : Addressable allowed place) :
    ServingAs (fun self => self.place = place) inv allowed activateGateway := by
  refine serving_getGateway_bind fun self same => keeps_ite (fun _ => keeps_pure _) fun _ => ?_
  refine keeps_bind (serving_isBridgeAvailable serves) fun _ =>
    keeps_ite (fun _ => keeps_pure _) fun _ => ?_
  split
  · exact keeps_pure _
  · rename_i error _ generated
    exact keeps_throw (throws_generateIP _ _ _ error generated)
  · rename_i ip generated
    rintro oracle ⟨⟨other, container⟩, history⟩ ⟨isPlace, holds⟩
    subst same
    have raised : ServingAs (Assigned self.place) inv allowed (do
        if !(← up) then
          return false
        else
          applyEntries self.entries) :=
      keeps_bind (serving_up serves addressable) fun _ => keeps_ite (fun _ => keeps_pure _)
        fun _ => serving_applyEntries serves _
    obtain ⟨after, recorded⟩ := raised oracle ⟨({ other with ip }, container), history⟩
      ⟨⟨isPlace, generated⟩, holds⟩
    exact ⟨⟨after.gateway.isAt, after.container⟩, recorded⟩

theorem serve {given : Place → Prop}
    (addressable : ∀ place, given place → Addressable allowed place) :
    hooks.Serve (fun self => given self.place) inv allowed where
  base _ _ holds := holds
  readConfigElement element := by
    rw [show hooks.readConfigElement = readConfigElement from rfl, readConfigElement]
    cases parsed : NetworkGatewayParser.parseNetworkGatewayConfiguration element .new with
    | error error =>
        exact keeps_throw
          (NetworkGatewayParser.throws_parseNetworkGatewayConfiguration _ _ error parsed)
    | ok result =>
        obtain ⟨accepted, entry⟩ := result
        cases accepted with
        | false => exact keeps_pure _
        | true =>
            exact keeps_bind (servingAs_modifyGateway fun _ holds => holds) fun _ => keeps_pure _
  activateGateway _ oracle world holds := by
    obtain ⟨⟨same, after⟩, recorded⟩ := serving_activateGateway serves
      (addressable _ holds.gateway) oracle world ⟨rfl, holds.container⟩
    have kept : given (activateGateway.run oracle world).2.state.1.place :=
      same ▸ holds.gateway
    exact ⟨⟨kept, after⟩, recorded⟩
  teardownGateway := serving_nothingToTearDown

end

end NetworkGateway

theorem PulseGateway.serve : PulseGateway.hooks.Serve (fun _ => True) inv allowed where
  base _ _ _ := trivial
  readConfigElement element := by
    change Hook.Serving inv allowed (readConfigElement element)
    unfold readConfigElement
    split
    · exact keeps_pure _
    · exact keeps_bind (serving_modifyGateway _) fun _ => keeps_pure _
  activateGateway _ := by
    refine serving_getGateway_bind fun self _ => keeps_ite (fun _ => keeps_pure _) fun _ => ?_
    refine keeps_bind (serves.system.keeps rfl) fun server => ?_
    cases server with
    | none => exact keeps_pure _
    | some dir =>
        refine keeps_bind (serving_onContainer
          (Container.serving_bindMountInContainer serves _ _ _)) fun _ =>
            keeps_ite (fun _ => keeps_pure _) fun _ => ?_
        exact keeps_bind (serving_onContainer
          (Container.serving_setEnvironmentVariable serves _ _)) fun _ => keeps_pure _
  teardownGateway := serving_nothingToTearDown

theorem DeviceNodeGateway.serve : DeviceNodeGateway.hooks.Serve (fun _ => True) inv allowed where
  base _ _ _ := trivial
  readConfigElement element := by
    change Hook.Serving inv allowed (readConfigElement element)
    unfold readConfigElement
    split
    · exact keeps_pure _
    · exact keeps_bind (serving_modifyGateway _) fun _ => keeps_pure _
  activateGateway _ := by
    have activated : ∀ device : Device, Container.Serving inv allowed device.activate := by
      refine fun device => keeps_ite (fun _ => keeps_pure _) fun _ => ?_
      refine keeps_bind (Container.serving_mountDevice serves _) fun _ =>
        keeps_ite (fun _ => keeps_pure _) fun _ => ?_
      refine keeps_bind (keeps_ite (fun _ => keeps_bind
        (Container.serving_runFunctionJob serves (serves.system.asked rfl)) fun _ => keeps_pure _)
          fun _ => keeps_pure _) fun _ => ?_
      exact keeps_ite (fun _ => keeps_pure _) fun _ => keeps_pure _
    have all : ∀ devices done, Hook.Serving inv allowed (activateDevices done devices) := by
      intro devices
      induction devices with
      | nil => exact fun _ => keeps_pure _
      | cons device rest ih =>
          exact fun done => keeps_bind (serving_onContainer (activated device)) fun _ =>
            keeps_bind (serving_modifyGateway _) fun _ =>
              keeps_ite (fun _ => keeps_pure _) fun _ => ih _
    refine serving_getGateway_bind fun self _ => ?_
    cases self.devices with
    | nil => exact keeps_pure _
    | cons device rest => exact all _ _
  teardownGateway := serving_nothingToTearDown

theorem CgroupsGateway.serve : CgroupsGateway.hooks.Serve (fun _ => True) inv allowed where
  base _ _ _ := trivial
  readConfigElement element := by
    refine keeps_bind (serves.system.keeps rfl) fun _ => serving_getGateway_bind fun _ _ => ?_
    split
    · exact keeps_bind (serving_modifyGateway _) fun _ => keeps_pure _
    · rename_i error parsed
      exact keeps_ite (fun _ => keeps_pure _) fun _ => keeps_throw
        (CGroupsParser.throws_parseCGroupsGatewayConfiguration _ _ _ error parsed)
  activateGateway usable := by
    have all : ∀ items success, Hook.Serving inv allowed (setItems items success) := by
      intro items
      induction items with
      | nil => exact fun _ => keeps_pure _
      | cons item rest ih =>
          exact fun _ => keeps_bind (serving_onContainer
            (Container.serving_lxc usable rfl)) fun _ =>
              keeps_ite (fun _ => keeps_pure _) fun _ => ih _
    exact serving_getGateway_bind fun _ _ => all _ _
  teardownGateway := serving_nothingToTearDown

theorem WaylandGateway.serve : WaylandGateway.hooks.Serve (fun _ => True) inv allowed where
  base _ _ _ := trivial
  readConfigElement element := by
    change Hook.Serving inv allowed (readConfigElement element)
    unfold readConfigElement
    split
    · exact keeps_pure _
    · exact keeps_bind (serving_modifyGateway _) fun _ => keeps_pure _
  activateGateway _ := by
    refine serving_getGateway_bind fun self _ => keeps_ite (fun _ => keeps_pure _) fun _ => ?_
    refine keeps_ite (fun _ => keeps_pure _) fun _ => ?_
    refine keeps_bind (serves.system.keeps rfl) fun _ =>
      keeps_ite (fun _ => keeps_pure _) fun _ => ?_
    refine keeps_bind (serves.system.keeps rfl) fun runtimeDir => ?_
    cases runtimeDir with
    | none => exact keeps_pure _
    | some dir =>
        refine keeps_bind (serving_onContainer
          (Container.serving_bindMountInContainer serves _ _ _)) fun _ =>
            keeps_ite (fun _ => keeps_pure _) fun _ => ?_
        exact keeps_bind (serving_onContainer
          (Container.serving_setEnvironmentVariable serves _ _)) fun _ =>
            keeps_bind (serving_modifyGateway _) fun _ => keeps_pure _
  teardownGateway := serving_nothingToTearDown

theorem EnvironmentGateway.serve : EnvironmentGateway.hooks.Serve (fun _ => True) inv allowed where
  base _ _ _ := trivial
  readConfigElement element := by
    refine serving_getGateway_bind fun self _ => ?_
    cases parseConfigElement element self.settings with
    | none => exact keeps_pure _
    | some setting => exact keeps_bind (serving_modifyGateway _) fun _ => keeps_pure _
  activateGateway _ := by
    refine serving_getGateway_bind fun self _ => keeps_ite (fun _ => keeps_pure _) fun _ => ?_
    induction self.settings.toList with
    | nil => exact keeps_pure _
    | cons setting rest ih =>
        exact keeps_bind (serving_onContainer
          (Container.serving_setEnvironmentVariable serves _ _)) fun _ =>
            keeps_ite (fun _ => keeps_pure _) fun _ => ih
  teardownGateway := serving_nothingToTearDown

theorem DBusGatewayInstance.serving_isSocketCreated (socket : String) (count : Nat) :
    Hook.Serving inv allowed (isSocketCreated socket count) := by
  induction count with
  | zero => exact keeps_pure _
  | succ count ih =>
      exact keeps_bind (serves.system.keeps rfl) fun _ =>
        keeps_ite (fun _ => keeps_pure _) fun _ => ih

theorem DBusGatewayInstance.serving_startDBusProxy (commandVec envVec : List String) :
    Hook.Serving inv allowed (startDBusProxy commandVec envVec) := by
  refine keeps_bind (serves.system.keeps rfl) fun spawned => ?_
  cases spawned with
  | none => exact keeps_pure _
  | some process => exact keeps_bind (serving_modifyGateway _) fun _ => keeps_pure _

theorem DBusGatewayInstance.serving_launchProxy : Hook.Serving inv allowed launchProxy := by
  refine serving_getGateway_bind fun self _ => keeps_bind (serving_onContainer
    (Container.serving_setEnvironmentVariable serves _ _)) fun _ => ?_
  refine keeps_bind (serves.system.keeps rfl) fun envValue => ?_
  cases envValue with
  | none =>
      exact keeps_ite (fun _ => keeps_pure _) fun _ => serving_startDBusProxy serves _ _
  | some envValue => exact serving_startDBusProxy serves _ _

theorem DBusGatewayInstance.serve :
    DBusGatewayInstance.hooks.Serve (fun _ => True) inv allowed where
  base _ _ _ := trivial
  readConfigElement element := by
    refine serving_getGateway_bind fun self _ => ?_
    split
    · exact keeps_pure _
    · exact keeps_bind (serving_modifyGateway _) fun _ =>
        keeps_ite (fun _ => keeps_throw trivial) fun _ => keeps_pure _
    · exact keeps_throw trivial
  activateGateway _ := by
    refine serving_getGateway_bind fun self _ => keeps_bind
      (keeps_ite (fun _ => serving_launchProxy serves) fun _ => keeps_pure _) fun _ =>
        keeps_ite (fun _ => keeps_pure _) fun _ => serving_getGateway_bind fun self _ => ?_
    refine keeps_ite (fun _ => ?_) fun _ => keeps_throw trivial
    refine serving_getGateway_bind fun self _ => keeps_bind (serves.system.keeps rfl)
      fun written => ?_
    cases written with
    | whole => exact serving_isSocketCreated serves _ _
    | _ => exact keeps_pure _
  teardownGateway := by
    refine keeps_bind (serving_modifyGateway _) fun _ =>
      serving_getGateway_bind fun self _ => ?_
    refine keeps_bind (keeps_ite (fun _ => keeps_bind (serves.system.keeps rfl) fun _ =>
      keeps_bind (serves.system.keeps rfl) fun _ => keeps_pure _) fun _ => keeps_pure _)
        fun _ => ?_
    refine keeps_bind (keeps_bind (serves.system.keeps rfl) fun _ =>
      keeps_ite (fun _ => serves.system.keeps rfl) fun _ => keeps_pure _) fun _ => ?_
    exact keeps_bind (serves.system.keeps rfl) fun _ => keeps_pure _

namespace DBusGateway

omit serves in
theorem serving_session {α : Type} {method : Hook DBusGatewayInstance α}
    (serving : Hook.Serving inv allowed method) :
    Hook.Serving inv allowed (zoom sessionLens method) :=
  keeps_zoom (fun _ holds => ⟨trivial, holds.container⟩)
    (fun _ _ _ after => ⟨trivial, after.container⟩) serving

omit serves in
theorem serving_system {α : Type} {method : Hook DBusGatewayInstance α}
    (serving : Hook.Serving inv allowed method) :
    Hook.Serving inv allowed (zoom systemLens method) :=
  keeps_zoom (fun _ holds => ⟨trivial, holds.container⟩)
    (fun _ _ _ after => ⟨trivial, after.container⟩) serving

theorem serving_tearDownEach : Hook.Serving inv allowed
      (whenSession DBusGatewayInstance.isActivated DBusGatewayInstance.hooks.teardown) ∧
    Hook.Serving inv allowed
      (whenSystem DBusGatewayInstance.isActivated DBusGatewayInstance.hooks.teardown) := by
  have instances := DBusGatewayInstance.serve serves
  constructor
  · exact serving_getGateway_bind fun _ _ =>
      keeps_ite (fun _ => serving_session instances.teardown) fun _ => keeps_pure _
  · exact serving_getGateway_bind fun _ _ =>
      keeps_ite (fun _ => serving_system instances.teardown) fun _ => keeps_pure _

theorem serve : gatewayClass.Serve (fun _ => True) inv allowed where
  setConfig config := by
    have instances := DBusGatewayInstance.serve serves
    have both : Hook.Serving inv allowed (setBothConfigs config) :=
      keeps_bind (serving_session (instances.setConfig config)) fun _ =>
        keeps_bind (serving_system (instances.setConfig config)) fun _ => keeps_pure _
    refine keeps_tryCatch both fun error ofContainer => ?_
    split
    · exact keeps_pure _
    · exact keeps_throw ofContainer
  activate usable := by
    have instances := DBusGatewayInstance.serve serves
    refine keeps_bind (serving_getGateway_bind fun _ _ => keeps_ite
      (fun _ => serving_session (instances.activate usable)) fun _ => keeps_pure _) fun _ => ?_
    exact serving_getGateway_bind fun _ _ => keeps_ite
      (fun _ => serving_system (instances.activate usable)) fun _ => keeps_pure _
  teardown :=
    keeps_bind (serving_tearDownEach serves).1 fun _ =>
      keeps_bind (serving_tearDownEach serves).2 fun _ => keeps_pure _

theorem serving_destructor : Hook.Serving inv allowed destructor :=
  keeps_bind (serving_tearDownEach serves).2 fun _ =>
    keeps_bind (serving_tearDownEach serves).1 fun _ => keeps_pure _

end DBusGateway

namespace AnyGateway

def Networks (part : NetworkGateway → Prop) : AnyGateway → Prop
  | .network gateway => part gateway
  | _ => True

omit serves in
theorem serving_within {γ α : Type} {own : γ → Prop} {part : AnyGateway → Prop}
    {wrap : γ → AnyGateway} (wraps : ∀ gateway, own gateway → part (wrap gateway))
    {method : Hook γ α} (serving : ServingAs own inv allowed method) {gateway : γ}
    (holds : own gateway) : ServingAs part inv allowed (within wrap gateway method) := by
  intro oracle world whole
  obtain ⟨after, recorded⟩ :=
    serving oracle ⟨(gateway, world.state.2), world.history⟩ ⟨holds, whole.container⟩
  exact ⟨⟨wraps _ after.gateway, after.container⟩, recorded⟩

section

variable {part : NetworkGateway → Prop} (network : NetworkGateway.hooks.Serve part inv allowed)

include network

theorem serving_call {α : Type}
    {method : {γ : Type} → GatewayClass Sys γ Container → Hook γ α}
    (serving : ∀ {γ : Type} {cls : GatewayClass Sys γ Container} {part : γ → Prop},
      cls.Serve part inv allowed → ServingAs part inv allowed (method cls)) :
    ServingAs (Networks part) inv allowed (call method) := by
  have other : ∀ {γ : Type} {cls : GatewayClass Sys γ Container} (wrap : γ → AnyGateway),
      cls.Serve (fun _ => True) inv allowed → (∀ gateway, Networks part (wrap gateway)) →
      ∀ gateway, ServingAs (Networks part) inv allowed (within wrap gateway (method cls)) :=
    fun wrap serve wraps gateway =>
      serving_within (fun gateway _ => wraps gateway) (serving serve) trivial
  refine serving_getGateway_bind fun self holds => ?_
  cases self with
  | file gateway =>
      exact other .file (FileGateway.serve serves).toGatewayClass (fun _ => trivial) gateway
  | network gateway =>
      have own : ServingAs part inv allowed (method NetworkGateway.hooks.toGatewayClass) :=
        serving network.toGatewayClass
      have wraps : ∀ network, part network → Networks part (.network network) :=
        fun _ holds => holds
      exact serving_within wraps own holds
  | pulse gateway =>
      exact other .pulse (PulseGateway.serve serves).toGatewayClass (fun _ => trivial) gateway
  | deviceNode gateway =>
      exact other .deviceNode (DeviceNodeGateway.serve serves).toGatewayClass
        (fun _ => trivial) gateway
  | dbus gateway => exact other .dbus (DBusGateway.serve serves) (fun _ => trivial) gateway
  | cgroups gateway =>
      exact other .cgroups (CgroupsGateway.serve serves).toGatewayClass (fun _ => trivial) gateway
  | wayland gateway =>
      exact other .wayland (WaylandGateway.serve serves).toGatewayClass (fun _ => trivial) gateway
  | environment gateway =>
      exact other .environment (EnvironmentGateway.serve serves).toGatewayClass
        (fun _ => trivial) gateway

theorem serve : gatewayClass.Serve (Networks part) inv allowed where
  setConfig config := serving_call serves network fun serve => serve.setConfig config
  activate usable := serving_call serves network fun serve => serve.activate usable
  teardown := serving_call serves network fun serve => serve.teardown

end

theorem serving_destructor {part : NetworkGateway → Prop} :
    ServingAs (Networks part) inv allowed destructor := by
  refine serving_getGateway_bind fun self _ => ?_
  cases self with
  | dbus gateway =>
      exact serving_within (fun _ _ => trivial) (DBusGateway.serving_destructor serves) trivial
  | _ => exact keeps_pure _

end AnyGateway

end

end SoftwareContainers
