import SoftwareContainers.Gateways.CgroupsContract

namespace SoftwareContainers

open Effect Effect.Act Hook

/-! Hooks that leave the members of the base class `Gateway` alone, and what its methods
do to them then. -/

namespace GatewayHooks

variable {γ : Type}

/-- The hooks leave the members of the base class alone. -/
structure Frame (hooks : GatewayHooks Sys γ Container) : Prop where
  readConfigElement : ∀ element base,
    Hook.Sound True (fun gateway => hooks.base.get gateway = base) (fun _ => True)
      (hooks.readConfigElement element)
  activateGateway : ∀ base,
    Hook.Sound True (fun gateway => hooks.base.get gateway = base) (fun _ => True)
      hooks.activateGateway

variable {hooks : GatewayHooks Sys γ Container}

theorem Frame.readConfigElements (frame : hooks.Frame) (base : GatewayBase)
    (elements : List Json) :
    Hook.Sound True (fun gateway => hooks.base.get gateway = base) (fun _ => True)
      (hooks.readConfigElements elements) := by
  induction elements with
  | nil => exact sound_pure true
  | cons element rest ih =>
      refine sound_ite (sound_pure _) ?_
      exact sound_bind (frame.readConfigElement element base) fun _ =>
        sound_ite (sound_pure _) ih

/-- The method moves the state of the base class exactly when it returns true. -/
def Moves (hooks : GatewayHooks Sys γ Container) (state : GatewayState)
    (method : Hook γ Bool) : Prop :=
  ∀ oracle world, ∃ moved : Bool,
    (moved = true ↔ (method.run oracle world).1 = .ok true) ∧
      hooks.base.get (method.run oracle world).2.state.1 =
        if moved then { hooks.base.get world.state.1 with state }
        else hooks.base.get world.state.1

end GatewayHooks

theorem FileGateway.frame : FileGateway.hooks.Frame where
  readConfigElement element base := by
    refine sound_bind (sound_sys rfl) fun readOnly => ?_
    cases FileGateway.parseConfigElement element readOnly with
    | none => exact sound_pure false
    | some setting =>
        refine sound_getGateway_bind fun self _ => ?_
        cases FileGateway.addSetting setting self.settings with
        | none => exact sound_pure false
        | some settings =>
            exact sound_bind (sound_modifyGateway fun _ _ same => same) fun _ =>
              sound_pure true
  activateGateway base := sound_getGateway_bind fun self _ =>
    FileGateway.sound_bindMounts fun _ _ _ _ _ => trivial

theorem PulseGateway.frame : PulseGateway.hooks.Frame where
  readConfigElement element base := by
    cases read : JSONParser.readBool element "audio" with
    | none =>
        simp only [hooks, readConfigElement, read]
        exact sound_pure false
    | some configValue =>
        simp only [hooks, readConfigElement, read]
        exact sound_bind (sound_modifyGateway fun _ _ same => same) fun _ => sound_pure true
  activateGateway base := by
    refine sound_getGateway_bind fun self _ => sound_ite (sound_pure true) ?_
    refine sound_bind (sound_sys rfl) fun server => ?_
    cases server with
    | none => exact sound_pure false
    | some dir =>
        refine sound_bind (sound_onContainer (Container.quiet_bindMountInContainer _ _ _)
          fun _ _ _ => trivial) fun mounted => sound_ite (sound_pure false) ?_
        exact sound_bind (sound_onContainer_quiet
          (Container.quiet_setEnvironmentVariable _ _)) fun _ => sound_pure true

theorem WaylandGateway.frame : WaylandGateway.hooks.Frame where
  readConfigElement element base := by
    cases read : JSONParser.readBool element "enabled" with
    | none =>
        simp only [hooks, readConfigElement, read]
        exact sound_pure false
    | some configValue =>
        simp only [hooks, readConfigElement, read]
        exact sound_bind (sound_modifyGateway fun _ _ same => same) fun _ => sound_pure true
  activateGateway base := by
    refine sound_getGateway_bind fun self _ => sound_ite (sound_pure true) ?_
    refine sound_ite (sound_pure true) ?_
    refine sound_bind (sound_sys rfl) fun display => sound_ite (sound_pure false) ?_
    refine sound_bind (sound_sys rfl) fun runtimeDir => ?_
    cases runtimeDir with
    | none => exact sound_pure false
    | some dir =>
        exact (WaylandGateway.sound_mountSocket (fun _ same => same) dir _).weaken
          fun _ _ => trivial

theorem EnvironmentGateway.frame : EnvironmentGateway.hooks.Frame where
  readConfigElement element base := by
    refine sound_getGateway_bind fun self _ => ?_
    cases EnvironmentGateway.parseConfigElement element self.settings with
    | none => exact sound_pure false
    | some setting =>
        exact sound_bind (sound_modifyGateway fun _ _ same => same) fun _ => sound_pure true
  activateGateway base := sound_getGateway_bind fun self _ =>
    sound_ite (sound_pure false) (EnvironmentGateway.sound_setAll _)

theorem DeviceNodeGateway.frame : DeviceNodeGateway.hooks.Frame where
  readConfigElement element base := by
    cases parsed : Device.parse element with
    | none =>
        simp only [hooks, readConfigElement, parsed]
        exact sound_pure false
    | some device =>
        simp only [hooks, readConfigElement, parsed]
        exact sound_bind (sound_modifyGateway fun _ _ same => same) fun _ => sound_pure true
  activateGateway base := by
    refine sound_getGateway_bind fun self _ => ?_
    cases self.devices with
    | nil => exact sound_pure false
    | cons device rest =>
        exact DeviceNodeGateway.sound_activateDevices (fun _ _ same => same) [] _

theorem NetworkGateway.frame : NetworkGateway.hooks.Frame where
  readConfigElement element base := by
    cases parsed : NetworkGatewayParser.parseNetworkGatewayConfiguration element .new with
    | error error =>
        simp only [hooks, readConfigElement, parsed]
        exact sound_throw fun _ => trivial
    | ok result =>
        obtain ⟨accepted, entry⟩ := result
        cases accepted with
        | false =>
            simp only [hooks, readConfigElement, parsed]
            exact sound_pure false
        | true =>
            simp only [hooks, readConfigElement, parsed]
            exact sound_bind (sound_modifyGateway fun _ _ same => same) fun _ =>
              sound_pure true
  activateGateway base := by
    refine sound_getGateway_bind fun self _ => sound_ite (sound_pure true) ?_
    refine sound_bind (sound_getGateway_bind fun _ _ => sound_bind (sound_sys rfl) fun _ =>
      sound_bind (sound_sys rfl) fun _ => sound_sys rfl) fun available =>
        sound_ite (sound_pure false) ?_
    cases generateIP self.netmask self.gateway self.containerID with
    | error error =>
        cases error with
        | ipAllocationError message => exact sound_pure false
        | _ => exact sound_throw fun _ => trivial
    | ok ip =>
        refine sound_bind (sound_modifyGateway fun _ _ same => same) fun _ => ?_
        exact sound_bind (NetworkGateway.sound_up fun _ same => same) fun raised =>
          sound_ite (sound_pure false) (NetworkGateway.sound_applyEntries _)

theorem CgroupsGateway.frame : CgroupsGateway.hooks.Frame where
  readConfigElement element base := by
    refine sound_bind (sound_sys rfl) fun errnoIsRange => ?_
    refine sound_getGateway_bind fun self _ => ?_
    cases CGroupsParser.parseCGroupsGatewayConfiguration element errnoIsRange
        self.settings with
    | ok settings =>
        exact sound_bind (sound_modifyGateway fun _ _ same => same) fun _ => sound_pure true
    | error error =>
        exact sound_ite (sound_pure false) (sound_throw fun _ => trivial)
  activateGateway base := sound_getGateway_bind fun self _ =>
    CgroupsGateway.sound_setItems _ false

end SoftwareContainers
