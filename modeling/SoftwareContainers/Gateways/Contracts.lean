import SoftwareContainers.Gateway.Contract
import SoftwareContainers.Gateways.Cgroups
import SoftwareContainers.Gateways.DBus
import SoftwareContainers.Gateways.DeviceNode
import SoftwareContainers.Gateways.Simple
import SoftwareContainers.Network.Gateway

namespace SoftwareContainers

open Effect Effect.Act Hook

/-! The contract of each gateway: what it keeps of its own, and which elements fit. -/

theorem caught_of_mountMay {pathInContainer : String} {error : Fault}
    (may : Container.MountMay pathInContainer error) (nonempty : pathInContainer ≠ "") :
    Caught error :=
  may.resolve_right nonempty

theorem buildPath_ne_empty {first second : String} (nonempty : first ≠ "") :
    buildPath first second ≠ "" := by
  rw [buildPath, if_neg nonempty]
  split
  · exact nonempty
  · intro empty
    have chars := congrArg String.toList empty
    simp at chars

theorem nothingToTearDown_keeps {γ : Type} (state : Container.ContainerState) :
    Keeps (fun whole : γ × Container => whole.2.state = state) Steady (fun _ => False)
      nothingToTearDown :=
  keeps_pure true

namespace FileGateway

structure Valid (gateway : FileGateway) : Prop where
  id : gateway.base.id = ID
  paths : ∀ setting ∈ gateway.settings, setting.pathInContainer ≠ ""

theorem valid_new : new.Valid := ⟨rfl, by simp [new]⟩

theorem parseConfigElement_path {element : Json} {readOnly : Bool}
    {setting : FileSetting} (parsed : parseConfigElement element readOnly = some setting) :
    setting.pathInContainer ≠ "" := by
  simp only [parseConfigElement, Option.bind_eq_bind, Option.bind_eq_some_iff] at parsed
  obtain ⟨pathInHost, _, pathInContainer, _, checked⟩ := parsed
  split at checked
  · cases checked
  · rename_i nonempty
    obtain ⟨readOnly, _, same⟩ := Option.bind_eq_some_iff.mp checked
    cases same
    exact fun empty => nonempty (.inr empty)

theorem addSetting_paths {setting : FileSetting} {settings updated : List FileSetting}
    (nonempty : setting.pathInContainer ≠ "")
    (paths : ∀ setting ∈ settings, setting.pathInContainer ≠ "")
    (added : addSetting setting settings = some updated) :
    ∀ setting ∈ updated, setting.pathInContainer ≠ "" := by
  induction settings generalizing updated with
  | nil =>
      cases added
      simpa using nonempty
  | cons first rest ih =>
      obtain ⟨firstPath, restPaths⟩ := List.forall_mem_cons.mp paths
      rw [addSetting] at added
      split at added
      · split at added
        · cases added
        · cases added
          exact List.forall_mem_cons.mpr ⟨firstPath, restPaths⟩
      · obtain ⟨updatedRest, addedRest, rfl⟩ := Option.map_eq_some_iff.mp added
        exact List.forall_mem_cons.mpr ⟨firstPath, ih restPaths addedRest⟩

theorem sound_bindMounts {ok : Prop} {inv : FileGateway → Prop} {may : Fault → Prop}
    {settings : List FileSetting}
    (permitted : ∀ setting ∈ settings, ∀ error,
      Container.MountMay setting.pathInContainer error → ok → may error) :
    Sound ok inv may (bindMounts settings) := by
  induction settings with
  | nil => exact sound_pure true
  | cons setting rest ih =>
      refine sound_bind (sound_onContainer (Container.quiet_bindMountInContainer _ _ _)
        (permitted setting List.mem_cons_self)) fun mounted => ?_
      exact sound_ite (sound_pure _)
        (ih fun other member => permitted other (List.mem_cons_of_mem _ member))

theorem sound_hooks : hooks.Sound Valid (fun _ => False) fun _ => True where
  state _ _ valid := ⟨valid.id, valid.paths⟩
  readConfigElement ok element _ := by
    refine sound_bind (sound_sys rfl) fun readOnly => ?_
    cases parsed : parseConfigElement element readOnly with
    | none => exact sound_pure false
    | some setting =>
        refine sound_getGateway_bind fun self valid => ?_
        cases added : addSetting setting self.settings with
        | none => exact sound_pure false
        | some settings =>
            refine sound_bind (sound_modifyGateway fun fine other validOther =>
              ⟨validOther.id, ?_⟩) fun _ => sound_pure true
            exact addSetting_paths (parseConfigElement_path parsed) (valid fine).paths added
  activateGateway ok := sound_getGateway_bind fun self valid =>
    sound_bindMounts fun setting member _ may fine =>
      caught_of_mountMay may ((valid fine).paths setting member)
  teardownGateway := nothingToTearDown_keeps

end FileGateway

namespace PulseGateway

abbrev Valid (gateway : PulseGateway) : Prop := gateway.base.id = ID

theorem sound_hooks : hooks.Sound Valid (fun _ => False) fun _ => True where
  state _ _ valid := valid
  readConfigElement ok element _ := by
    cases read : JSONParser.readBool element "audio" with
    | none =>
        simp only [hooks, readConfigElement, read]
        exact sound_pure false
    | some configValue =>
        simp only [hooks, readConfigElement, read]
        exact sound_bind (sound_modifyGateway fun _ _ valid => valid) fun _ =>
          sound_pure true
  activateGateway ok := by
    refine sound_getGateway_bind fun self _ => sound_ite (sound_pure true) ?_
    refine sound_bind (sound_sys rfl) fun server => ?_
    cases server with
    | none => exact sound_pure false
    | some dir =>
        refine sound_bind (sound_onContainer
          (Container.quiet_bindMountInContainer _ _ _) fun error may _ =>
            caught_of_mountMay may (buildPath_ne_empty (by decide))) fun mounted =>
          sound_ite (sound_pure false) ?_
        exact sound_bind (sound_onContainer_quiet
          (Container.quiet_setEnvironmentVariable _ _)) fun _ => sound_pure true
  teardownGateway := nothingToTearDown_keeps

end PulseGateway

namespace WaylandGateway

abbrev Valid (gateway : WaylandGateway) : Prop := gateway.base.id = ID

theorem sound_mountSocket {ok : Prop} {inv : WaylandGateway → Prop}
    (stable : ∀ self, inv self → inv { self with activatedOnce := true })
    (dir socketFileName : String) :
    Sound ok inv Caught (mountSocket dir socketFileName) := by
  refine sound_bind (sound_onContainer
    (Container.quiet_bindMountInContainer _ _ _) fun error may _ =>
      caught_of_mountMay may (buildPath_ne_empty (by decide))) fun mounted =>
    sound_ite (sound_pure false) ?_
  refine sound_bind (sound_onContainer_quiet
    (Container.quiet_setEnvironmentVariable _ _)) fun _ => ?_
  exact sound_bind (sound_modifyGateway fun _ => stable) fun _ => sound_pure true

theorem sound_hooks : hooks.Sound Valid (fun _ => False) fun _ => True where
  state _ _ valid := valid
  readConfigElement ok element _ := by
    cases read : JSONParser.readBool element "enabled" with
    | none =>
        simp only [hooks, readConfigElement, read]
        exact sound_pure false
    | some configValue =>
        simp only [hooks, readConfigElement, read]
        exact sound_bind (sound_modifyGateway fun _ _ valid => valid) fun _ =>
          sound_pure true
  activateGateway ok := by
    refine sound_getGateway_bind fun self _ => sound_ite (sound_pure true) ?_
    refine sound_ite (sound_pure true) ?_
    refine sound_bind (sound_sys rfl) fun display => sound_ite (sound_pure false) ?_
    refine sound_bind (sound_sys rfl) fun runtimeDir => ?_
    cases runtimeDir with
    | none => exact sound_pure false
    | some dir => exact sound_mountSocket (fun _ valid => valid) dir _
  teardownGateway := nothingToTearDown_keeps

end WaylandGateway

namespace EnvironmentGateway

abbrev Valid (gateway : EnvironmentGateway) : Prop := gateway.base.id = ID

theorem sound_setAll {ok : Prop} {inv : EnvironmentGateway → Prop} {may : Fault → Prop}
    (settings : List (String × String)) : Sound ok inv may (setAll settings) := by
  induction settings with
  | nil => exact sound_pure true
  | cons setting rest ih =>
      obtain ⟨name, value⟩ := setting
      exact sound_bind (sound_onContainer_quiet
        (Container.quiet_setEnvironmentVariable name value)) fun _ =>
          sound_ite (sound_pure false) ih

theorem sound_hooks : hooks.Sound Valid (fun _ => False) fun _ => True where
  state _ _ valid := valid
  readConfigElement ok element _ := by
    refine sound_getGateway_bind fun self _ => ?_
    cases parseConfigElement element self.settings with
    | none => exact sound_pure false
    | some setting =>
        exact sound_bind (sound_modifyGateway fun _ _ valid => valid) fun _ =>
          sound_pure true
  activateGateway ok := sound_getGateway_bind fun self _ =>
    sound_ite (sound_pure false) (sound_setAll _)
  teardownGateway := nothingToTearDown_keeps

end EnvironmentGateway

namespace DeviceNodeGateway

abbrev Valid (gateway : DeviceNodeGateway) : Prop := gateway.base.id = ID

theorem quiet_activate {may : Fault → Prop} (device : Device) :
    Container.Quiet may device.activate := by
  intro value
  refine keeps_ite (fun _ => keeps_pure _) fun _ => ?_
  refine keeps_bind (Container.quiet_mountDevice _ value) fun mounted =>
    keeps_ite (fun _ => keeps_pure _) fun _ => ?_
  refine keeps_bind (keeps_ite (fun _ => keeps_bind
    (Container.quiet_runFunctionJob _ value) fun _ => keeps_pure _)
      fun _ => keeps_pure _) fun isError => ?_
  exact keeps_ite (fun _ => keeps_pure _) fun _ => keeps_pure _

theorem sound_activateDevices {ok : Prop} {inv : DeviceNodeGateway → Prop}
    {may : Fault → Prop} (stable : ∀ self devices, inv self → inv { self with devices })
    (done devices : List Device) : Sound ok inv may (activateDevices done devices) := by
  induction devices generalizing done with
  | nil => exact sound_pure true
  | cons device rest ih =>
      refine sound_bind (sound_onContainer_quiet (quiet_activate device)) fun result => ?_
      refine sound_bind (sound_modifyGateway fun _ self => stable self _) fun _ => ?_
      exact sound_ite (sound_pure false) (ih _)

theorem sound_hooks : hooks.Sound Valid (fun _ => False) fun _ => True where
  state _ _ valid := valid
  readConfigElement ok element _ := by
    cases parsed : Device.parse element with
    | none =>
        simp only [hooks, readConfigElement, parsed]
        exact sound_pure false
    | some device =>
        simp only [hooks, readConfigElement, parsed]
        exact sound_bind (sound_modifyGateway fun _ _ valid => valid) fun _ =>
          sound_pure true
  activateGateway ok := by
    refine sound_getGateway_bind fun self _ => ?_
    cases self.devices with
    | nil => exact sound_pure false
    | cons device rest =>
        exact sound_activateDevices (fun _ _ valid => valid) [] (device :: rest)
  teardownGateway := nothingToTearDown_keeps

end DeviceNodeGateway

namespace NetworkGateway

structure Valid (gateway : NetworkGateway) : Prop where
  id : gateway.base.id = ID
  netmask : gateway.netmask ≤ 31

def Fits (element : Json) : Prop :=
  ∀ error, NetworkGatewayParser.parseNetworkGatewayConfiguration element .new ≠
    .error error

theorem caught_of_generateIP {netmask : Nat} {gatewayIP : String} {containerID : Int}
    {error : Fault} (small : netmask ≤ 31)
    (generated : generateIP netmask gatewayIP containerID = .error error) :
    Caught error := by
  rw [generateIP, if_neg (Nat.not_lt.mpr small)] at generated
  split at generated
  · cases generated
    rfl
  · split at generated
    · cases generated
      rfl
    · dsimp only at generated
      split at generated
      · cases generated
        rfl
      · cases generated

theorem sound_applyEntries {ok : Prop} {inv : NetworkGateway → Prop} {may : Fault → Prop}
    (entries : List IPTableEntry) : Sound ok inv may (applyEntries entries) := by
  induction entries with
  | nil => exact sound_pure true
  | cons entry rest ih =>
      exact sound_bind (sound_onContainer_quiet (Container.quiet_runFunctionJob _))
        fun job => sound_ite (sound_pure false) ih

theorem sound_up {ok : Prop} {inv : NetworkGateway → Prop} {may : Fault → Prop}
    (stable : ∀ self, inv self → inv { self with interfaceInitialized := true }) :
    Sound ok inv may up := by
  refine sound_getGateway_bind fun self _ => sound_ite (sound_pure true) ?_
  refine sound_bind (sound_onContainer_quiet (Container.quiet_runFunctionJob _))
    fun job => sound_ite ?_ (sound_pure false)
  refine sound_bind (sound_modifyGateway fun _ => stable)
    fun _ => sound_getGateway_bind fun self _ => ?_
  exact sound_bind (sound_onContainer_quiet (Container.quiet_runFunctionJob _))
    fun job => sound_pure _

theorem sound_hooks : hooks.Sound Valid (fun _ => False) Fits where
  state _ _ valid := ⟨valid.id, valid.netmask⟩
  readConfigElement ok element fits := by
    cases parsed : NetworkGatewayParser.parseNetworkGatewayConfiguration element .new with
    | error error =>
        simp only [hooks, readConfigElement, parsed]
        exact sound_throw fun fine => absurd parsed (fits fine error)
    | ok result =>
        obtain ⟨accepted, entry⟩ := result
        cases accepted with
        | false =>
            simp only [hooks, readConfigElement, parsed]
            exact sound_pure false
        | true =>
            simp only [hooks, readConfigElement, parsed]
            exact sound_bind (sound_modifyGateway fun _ _ valid =>
              ⟨valid.id, valid.netmask⟩) fun _ => sound_pure true
  activateGateway ok := by
    refine sound_getGateway_bind fun self valid => sound_ite (sound_pure true) ?_
    refine sound_bind (sound_getGateway_bind fun _ _ => sound_bind (sound_sys rfl) fun _ =>
      sound_bind (sound_sys rfl) fun _ => sound_sys rfl) fun available =>
        sound_ite (sound_pure false) ?_
    cases generated : generateIP self.netmask self.gateway self.containerID with
    | error error =>
        cases error with
        | ipAllocationError message => exact sound_pure false
        | _ => exact sound_throw fun fine =>
            caught_of_generateIP (valid fine).netmask generated
    | ok ip =>
        refine sound_bind (sound_modifyGateway fun _ _ valid =>
          ⟨valid.id, valid.netmask⟩) fun _ => ?_
        exact sound_bind (sound_up fun _ valid => ⟨valid.id, valid.netmask⟩) fun raised =>
          sound_ite (sound_pure false) (sound_applyEntries _)
  teardownGateway := nothingToTearDown_keeps

end NetworkGateway

namespace DBusGatewayInstance

abbrev Valid (gateway : DBusGatewayInstance) : Prop := gateway.hasConfig = true

def IsParserError (error : Fault) : Prop := ∃ message, error = .gatewayParserError message

/-- What the hooks leave true: it speaks of nothing they write. -/
structure Stable (inv : DBusGatewayInstance → Prop) : Prop where
  hasConfig : ∀ self, inv self → self.hasConfig = true
  config : ∀ self busConfig, inv self → inv { self with busConfig }
  proxy : ∀ self pid proxyStdin, inv self →
    inv { self with pid, proxyStdin, base := { self.base with activatedOnce := true } }

theorem stable_valid : Stable Valid := ⟨fun _ valid => valid, fun _ _ valid => valid,
  fun _ _ _ valid => valid⟩

theorem keeps_isSocketCreated {inv : DBusGatewayInstance × Container → Prop}
    {may : Fault → Prop} (socket : String) (count : Nat) :
    Keeps inv Steady may (isSocketCreated socket count) := by
  induction count with
  | zero => exact keeps_pure false
  | succ count ih =>
      exact keeps_bind (steady_sys rfl) fun _ => keeps_ite (fun _ => keeps_pure _) fun _ => ih

section

variable {ok : Prop} {inv : DBusGatewayInstance → Prop} {may : Fault → Prop}

theorem sound_testDBusConnection (configuration : Json) :
    Sound ok inv may (testDBusConnection configuration) := by
  refine sound_getGateway_bind fun self _ => sound_bind (sound_sys rfl) fun written => ?_
  cases written with
  | failed => exact sound_pure false
  | whole => exact fun _ => keeps_isSocketCreated _ _
  | part => exact sound_pure false

variable (stable : Stable inv)

include stable

theorem sound_startDBusProxy (commandVec envVec : List String) :
    Sound ok inv may (startDBusProxy commandVec envVec) := by
  refine sound_bind (sound_sys rfl) fun spawned => ?_
  cases spawned with
  | none => exact sound_pure false
  | some process =>
      exact sound_bind (sound_modifyGateway fun _ self => stable.proxy self _ _) fun _ =>
        sound_pure true

theorem sound_launchProxy : Sound ok inv may launchProxy := by
  refine sound_getGateway_bind fun self _ => ?_
  refine sound_bind (sound_onContainer_quiet
    (Container.quiet_setEnvironmentVariable _ _)) fun _ => ?_
  refine sound_bind (sound_sys rfl) fun envValue => ?_
  cases envValue with
  | none => exact sound_ite (sound_pure false) (sound_startDBusProxy stable _ _)
  | some envValue => exact sound_startDBusProxy stable _ _

theorem sound_activateGateway : Sound ok inv may activateGateway := by
  refine sound_getGateway_bind fun self _ => ?_
  refine sound_bind (sound_ite (sound_launchProxy stable) (sound_pure true)) fun launched =>
    sound_ite (sound_pure false) ?_
  refine sound_getGateway_bind fun self holds => ?_
  cases has : self.hasConfig with
  | true => exact sound_testDBusConnection _
  | false =>
      refine sound_throw fun fine => ?_
      cases (stable.hasConfig self (holds fine)).symm.trans has

theorem sound_readConfigElement (element : Json) :
    Sound ok inv IsParserError (readConfigElement element) := by
  refine sound_getGateway_bind fun self _ => ?_
  cases element.objectGet self.typeStr with
  | none => exact sound_pure false
  | some value =>
      cases value with
      | array children =>
          refine sound_bind (sound_modifyGateway fun _ self => stable.config self _)
            fun _ => ?_
          exact sound_ite (sound_throw fun _ => ⟨_, rfl⟩) (sound_pure true)
      | _ => exact sound_throw fun _ => ⟨_, rfl⟩

end

theorem keeps_teardownGateway (state : Container.ContainerState) :
    Keeps (fun whole : DBusGatewayInstance × Container => whole.2.state = state) Steady
      (fun _ => False) teardownGateway := by
  refine keeps_bind (keeps_modify fun _ same => same) fun _ => ?_
  refine keeps_bind (keeps_get_bind fun _ _ => keeps_pure _) fun self => ?_
  refine keeps_bind (keeps_ite (fun _ => keeps_bind (steady_sys rfl) fun _ =>
    keeps_bind (steady_sys rfl) fun _ => keeps_pure _) fun _ => keeps_pure _) fun _ => ?_
  refine keeps_bind (keeps_bind (steady_sys rfl) fun _ =>
    keeps_ite (fun _ => steady_sys rfl) fun _ => keeps_pure _) fun success => ?_
  exact keeps_bind (steady_sys rfl) fun _ => keeps_pure _

theorem sound_hooks_of_stable {inv : DBusGatewayInstance → Prop} (stable : Stable inv)
    (state : ∀ (state : GatewayState) self, inv self →
      inv { self with base := { self.base with state } }) :
    hooks.Sound inv IsParserError fun _ => True where
  state := state
  readConfigElement _ element _ := (sound_readConfigElement stable element).weaken
    fun _ => .inr
  activateGateway _ := sound_activateGateway stable
  teardownGateway := keeps_teardownGateway

theorem sound_hooks : hooks.Sound Valid IsParserError fun _ => True :=
  sound_hooks_of_stable stable_valid fun _ _ valid => valid

end DBusGatewayInstance

namespace DBusGateway

structure Valid (gateway : DBusGateway) : Prop where
  id : gateway.base.id = ID
  sessionBus : gateway.sessionBus.Valid
  systemBus : gateway.systemBus.Valid

variable {α : Type} {ok : Prop} {may : Fault → Prop}

theorem sound_session {method : Hook DBusGatewayInstance α}
    (sound : Sound ok DBusGatewayInstance.Valid may method) :
    Sound ok Valid may (zoom sessionLens method) :=
  fun state => keeps_zoom
    (fun _ holds => ⟨fun fine => (holds.1 fine).sessionBus, holds.2⟩)
    (fun _ _ holds after => ⟨fun fine =>
      ⟨(holds.1 fine).id, after.1 fine, (holds.1 fine).systemBus⟩, after.2⟩) (sound state)

theorem sound_system {method : Hook DBusGatewayInstance α}
    (sound : Sound ok DBusGatewayInstance.Valid may method) :
    Sound ok Valid may (zoom systemLens method) :=
  fun state => keeps_zoom
    (fun _ holds => ⟨fun fine => (holds.1 fine).systemBus, holds.2⟩)
    (fun _ _ holds after => ⟨fun fine =>
      ⟨(holds.1 fine).id, (holds.1 fine).sessionBus, after.1 fine⟩, after.2⟩) (sound state)

theorem keeps_tearDown
    (lens : Lens (DBusGateway × Container) (DBusGatewayInstance × Container))
    (down : ∀ whole, (lens.get whole).2 = whole.2)
    (up : ∀ part whole, (lens.set part whole).2 = part.2)
    (state : Container.ContainerState) :
    Keeps (fun whole => whole.2.state = state) Steady (fun _ => False) (do
      if (lens.get (← get)).1.isActivated then
        zoom lens DBusGatewayInstance.hooks.teardown
      else
        return false) := by
  intro oracle world same
  rw [run_get_bind]
  by_cases activated : (lens.get world.state).1.isActivated = true
  · rw [if_pos activated, run_zoom]
    obtain ⟨⟨after, never⟩, recorded⟩ := DBusGatewayInstance.sound_hooks.teardown state
      oracle ⟨lens.get world.state, world.history⟩
        ⟨activated, (congrArg Container.state (down world.state)).trans same⟩
    exact ⟨(congrArg Container.state (up _ _)).trans after, recorded, never⟩
  · rw [if_neg activated]
    exact ⟨same, ⟨[], by simp, by simp⟩, nofun⟩

theorem keeps_tearDownSession (state : Container.ContainerState) :
    Keeps (fun whole => whole.2.state = state) Steady (fun _ => False)
      (whenSession DBusGatewayInstance.isActivated DBusGatewayInstance.hooks.teardown) :=
  keeps_tearDown sessionLens (fun _ => rfl) (fun _ _ => rfl) state

theorem keeps_tearDownSystem (state : Container.ContainerState) :
    Keeps (fun whole => whole.2.state = state) Steady (fun _ => False)
      (whenSystem DBusGatewayInstance.isActivated DBusGatewayInstance.hooks.teardown) :=
  keeps_tearDown systemLens (fun _ => rfl) (fun _ _ => rfl) state

theorem sound_setConfig (config : Json) : Sound ok Valid Caught (setConfig config) := by
  have both : Sound ok Valid
      (fun error => Caught error ∨ DBusGatewayInstance.IsParserError error)
      (setBothConfigs config) := by
    have instanceSound : Sound ok DBusGatewayInstance.Valid _
        (DBusGatewayInstance.hooks.setConfig config) :=
      DBusGatewayInstance.sound_hooks.setConfig fun _ _ _ => trivial
    refine sound_bind (sound_session instanceSound) fun sessionResult => ?_
    exact sound_bind (sound_system instanceSound) fun systemResult => sound_pure _
  refine fun state => keeps_tryCatch (both state) fun error thrown => ?_
  cases error with
  | gatewayParserError message => exact keeps_pure false
  | _ => exact keeps_throw fun fine => (thrown fine).resolve_right fun ⟨_, same⟩ => nomatch same

theorem sound_activate : Sound ok Valid Caught activate := by
  have instanceSound : Sound ok DBusGatewayInstance.Valid Caught
      DBusGatewayInstance.hooks.activate := DBusGatewayInstance.sound_hooks.activate ok
  refine sound_bind (sound_getGateway_bind fun _ _ =>
    sound_ite (sound_session instanceSound) (sound_pure false)) fun sessionResult => ?_
  exact sound_getGateway_bind fun _ _ =>
    sound_ite (sound_system instanceSound) (sound_pure _)

theorem keeps_teardown (state : Container.ContainerState) :
    Keeps (fun whole => whole.2.state = state) Steady (fun _ => False) teardown :=
  keeps_bind (keeps_tearDownSession state) fun _ =>
    keeps_bind (keeps_tearDownSystem state) fun _ => keeps_pure _

theorem keeps_destructor (state : Container.ContainerState) :
    Keeps (fun whole => whole.2.state = state) Steady (fun _ => False) destructor :=
  keeps_bind (keeps_tearDownSystem state) fun _ =>
    keeps_bind (keeps_tearDownSession state) fun _ => keeps_pure _

theorem sound_gatewayClass : gatewayClass.Sound Valid fun _ => True where
  setConfig _ config _ := sound_setConfig config
  activate _ := sound_activate
  teardown state := (keeps_teardown state).triple.weaken (fun _ holds => holds.2)
    fun _ _ holds => holds

end DBusGateway

end SoftwareContainers
