import SoftwareContainers.Library.Serving

namespace SoftwareContainers

open Effect Effect.Act

/-! The address that the interface of a container is given. -/

namespace NetworkGateway

/-- An interface is given no address but the generated one. -/
def Gives (place : Place) (event : Event Sys) : Prop :=
  ∀ address netmask, event.call = .child (.setIP address netmask) →
    place.address = .ok address ∧ netmask = place.netmask

theorem addressable_gives (place : Place) : Addressable (Gives place) place := by
  intro ip generated answer address netmask same
  cases same
  exact ⟨generated, rfl⟩

end NetworkGateway

open NetworkGateway (Place Gives)

namespace Container

variable {α β : Type} {place : Place}

theorem gives_lxc (id : String) (state : ContainerState) (call : LxcCall)
    (answer : call.Answer) : Gives place ⟨.lxc id state call, answer⟩ := by
  intro address netmask same
  cases same

theorem allowsSystem_gives : AllowsSystem (Gives place) := by
  intro call answer isSystem address netmask same
  dsimp only at same
  subst same
  cases isSystem

theorem serves_gives : Serves (fun _ => True) (Gives place) where
  system := allowsSystem_gives
  running self _ _ call answer _ := gives_lxc self.id self.state call answer
  handlers _ _ _ := trivial
  environment _ _ _ := trivial

theorem usable_gives : Usable (fun _ => True) (Gives place) :=
  fun self _ call answer _ => gives_lxc self.id self.state call answer

/-! The steps of the life of a container give no address. -/

abbrev Giving (place : Place) (method : Method α) : Prop :=
  Serving (fun _ => True) (Gives place) method

theorem giving_sys {call : SysCall} (isSystem : call.isSystem = true) :
    Giving place (sys call : Method call.Answer) :=
  allowsSystem_gives.keeps isSystem

theorem giving_lxc (call : LxcCall) : Giving place (lxc call) :=
  keeps_get_bind fun self _ => keeps_ask fun answer => gives_lxc self.id self.state call answer

theorem giving_get_bind {next : Container → Method β}
    (rest : ∀ self, Giving place (next self)) : Giving place (get >>= next) :=
  keeps_get_bind fun self _ => rest self

theorem giving_modify (change : Container → Container) :
    Giving place (modify change : Method PUnit) :=
  keeps_modify fun _ _ => trivial

theorem giving_initializeContainer : Giving place initializeContainer := by
  refine giving_get_bind fun self => keeps_ite (fun _ => ?_) fun _ => keeps_pure _
  refine keeps_bind (giving_sys rfl) fun _ => keeps_ite (fun _ => keeps_pure _) fun _ => ?_
  refine keeps_bind (serving_toolkit serves_gives
    (Toolkit.bare_createSharedMountPoint allowsSystem_gives _)) fun _ =>
      keeps_ite (fun _ => keeps_pure _) fun _ => ?_
  exact keeps_bind (giving_modify _) fun _ => keeps_pure _

theorem giving_rollbackCreate : Giving place rollbackCreate :=
  giving_get_bind fun _ => keeps_ite (fun _ => keeps_bind (giving_lxc _) fun _ =>
    keeps_bind (giving_modify _) fun _ => keeps_pure _) fun _ => keeps_pure _

theorem giving_mountRootFS : Giving place mountRootFS := by
  refine keeps_bind (giving_sys rfl) fun _ => keeps_bind (giving_modify _) fun _ =>
    giving_get_bind fun _ => keeps_ite (fun _ => ?_) fun _ => keeps_pure _
  exact keeps_bind (serving_toolkit serves_gives
    (Toolkit.bare_overlayMount allowsSystem_gives _ _ _ _)) fun _ => keeps_pure _

theorem giving_create : Giving place create := by
  have rolledBack : Giving place rollbackCreate := giving_rollbackCreate
  refine giving_get_bind fun self => keeps_ite (fun _ => keeps_pure _) fun _ =>
    keeps_ite (fun _ => keeps_pure _) fun _ => ?_
  refine keeps_bind (giving_sys rfl) fun _ => keeps_bind (giving_lxc _) fun _ =>
    keeps_ite (fun _ => rolledBack) fun _ => keeps_bind (giving_modify _) fun _ => ?_
  refine keeps_bind (giving_lxc _) fun _ => keeps_ite (fun _ => rolledBack) fun _ =>
    keeps_bind (giving_lxc _) fun _ => keeps_ite (fun _ => rolledBack) fun _ => ?_
  refine keeps_bind giving_mountRootFS fun _ => keeps_bind (giving_lxc _) fun _ =>
    keeps_ite (fun _ => ?_) fun _ => ?_
  · exact keeps_bind (giving_modify _) fun _ => rolledBack
  · exact keeps_bind (giving_modify _) fun _ => keeps_pure _

theorem giving_start : Giving place start := by
  refine giving_get_bind fun self => keeps_ite (fun _ => keeps_pure _) fun _ => ?_
  refine keeps_bind (giving_lxc _) fun _ => keeps_ite (fun _ => keeps_pure _) fun _ => ?_
  exact keeps_bind (giving_lxc _) fun _ => keeps_bind (giving_modify _) fun _ =>
    serving_ensureRunning usable_gives

theorem giving_stop : Giving place stop := by
  have waited : Giving place (waitForState "STOPPED" 20) :=
    keeps_bind (giving_lxc _) fun _ => keeps_ite
      (fun _ => keeps_bind (giving_lxc _) fun _ => keeps_pure _) fun _ => keeps_pure _
  refine giving_get_bind fun self => keeps_ite (fun _ => ?_) fun _ => keeps_pure _
  exact keeps_bind (giving_lxc _) fun _ => keeps_ite
    (fun _ => keeps_bind waited fun _ => keeps_pure _) fun _ => keeps_pure _

theorem giving_shutdown (timeout : Int) : Giving place (shutdown timeout) := by
  have killed : Giving place killInit :=
    keeps_bind (giving_lxc _) fun _ => keeps_ite
      (fun _ => keeps_bind (giving_lxc _) fun _ => giving_sys rfl) fun _ => keeps_pure _
  refine giving_get_bind fun self => keeps_ite (fun _ => keeps_pure _) fun _ => ?_
  refine keeps_bind killed fun _ => keeps_bind (giving_lxc _) fun _ =>
    keeps_bind (keeps_ite (fun _ => keeps_pure _) fun _ => giving_stop) fun _ => ?_
  exact keeps_ite (fun _ => keeps_pure _) fun _ =>
    keeps_bind (giving_modify _) fun _ => keeps_pure _

theorem giving_destroy (timeout : Int) : Giving place (destroy timeout) := by
  have unmounted : Giving place unmountRootFS :=
    giving_get_bind fun _ => keeps_ite (fun _ => giving_sys rfl) fun _ => keeps_pure _
  refine giving_get_bind fun self => keeps_ite (fun _ => keeps_pure _) fun _ => ?_
  refine keeps_bind (keeps_ite (fun _ => giving_shutdown _) fun _ => keeps_pure _) fun _ =>
    keeps_ite (fun _ => keeps_pure _) fun _ => ?_
  refine keeps_bind unmounted fun _ => keeps_ite (fun _ => keeps_pure _) fun _ => ?_
  exact keeps_bind (giving_lxc _) fun _ => keeps_ite (fun _ => keeps_pure _) fun _ =>
    keeps_bind (giving_modify _) fun _ => keeps_pure _

theorem giving_suspend : Giving place suspend := by
  refine giving_get_bind fun self => keeps_ite (fun _ => keeps_pure _) fun _ =>
    keeps_ite (fun _ => keeps_pure _) fun _ => ?_
  exact keeps_bind (giving_lxc _) fun _ =>
    keeps_ite (fun _ => keeps_throw (.inr (.inl rfl))) fun _ =>
      keeps_bind (giving_modify _) fun _ => keeps_pure _

theorem giving_resume : Giving place resume := by
  refine giving_get_bind fun self => keeps_ite (fun _ => keeps_pure _) fun _ => ?_
  exact keeps_bind (giving_lxc _) fun _ =>
    keeps_ite (fun _ => keeps_throw (.inr (.inr rfl))) fun _ =>
      keeps_bind (giving_modify _) fun _ => keeps_pure _

theorem giving_destructor : Giving place destructor := by
  have shut : Giving place shutdownIfStarted :=
    giving_get_bind fun _ => keeps_ite
      (fun _ => keeps_bind (giving_shutdown _) fun _ => keeps_pure _) fun _ => keeps_pure _
  have destroyed : Giving place destroyIfCreated :=
    giving_get_bind fun _ => keeps_ite
      (fun _ => keeps_bind (giving_destroy _) fun _ => keeps_pure _) fun _ => keeps_pure _
  refine giving_get_bind fun self => keeps_ite (fun _ => ?_) fun _ => keeps_pure _
  exact keeps_bind shut fun _ => keeps_bind destroyed fun _ => keeps_bind (giving_lxc _)
    fun _ => giving_modify _

end Container

namespace SoftwareContainer

variable {α : Type} {place : Place}

abbrev Giving (place : Place) (method : Method α) : Prop :=
  Serving (fun network => network.place = place) (fun _ => True) (Gives place) method

theorem network_gives :
    NetworkGateway.hooks.Serve (fun network => network.place = place) (fun _ => True)
      (Gives place) :=
  @NetworkGateway.serve _ _ Container.serves_gives (· = place) fun _ same =>
    same ▸ NetworkGateway.addressable_gives place

theorem giving_setState (containerState : ContainerState) :
    Giving place (setState containerState) :=
  keeps_modify fun _ holds => ⟨holds.gateways, holds.container⟩

theorem giving_invalidate (message : String) : Giving place (invalidate message) :=
  keeps_bind (giving_setState _) fun _ => keeps_get_bind fun _ _ => keeps_throw trivial

theorem giving_suspend : Giving place suspend :=
  keeps_bind (serving_assertReady _) fun _ =>
    keeps_bind (serving_onContainer Container.giving_suspend) fun _ =>
      keeps_ite (fun _ => giving_invalidate _) fun _ => giving_setState _

theorem giving_resume : Giving place resume := by
  refine keeps_bind serving_assertValidState fun _ => keeps_get_bind fun self _ =>
    keeps_ite (fun _ => keeps_throw trivial) fun _ => ?_
  exact keeps_bind (serving_onContainer Container.giving_resume) fun _ =>
    keeps_ite (fun _ => giving_invalidate _) fun _ => giving_setState _

theorem giving_shutdown (timeout : Int) : Giving place (shutdown timeout) := by
  refine keeps_bind serving_assertValidState fun _ => keeps_get_bind fun self _ =>
    keeps_ite (fun _ => keeps_throw trivial) fun _ => ?_
  refine keeps_bind (serving_shutdownGateways Container.serves_gives network_gives) fun _ =>
    keeps_bind (serving_onContainer (Container.giving_destroy timeout)) fun _ => ?_
  exact keeps_ite (fun _ => giving_invalidate _) fun _ => giving_setState _

theorem giving_destructor : Giving place destructor :=
  keeps_bind (serving_destroyGateways Container.serves_gives) fun _ =>
    serving_onContainer Container.giving_destructor

theorem gives_construct {σ : Type} (containerID : Int) (config : SoftwareContainerConfig) :
    Preparing (Gives place) (construct containerID config : Act Sys Fault σ LibraryContainer) := by
  have system : AllowsSystem (Gives place) := Container.allowsSystem_gives
  have started : Container.Giving place start :=
    keeps_bind Container.giving_initializeContainer fun _ =>
      keeps_ite (fun _ => keeps_pure _) fun _ => keeps_bind Container.giving_create fun _ =>
        keeps_ite (fun _ => keeps_pure _) fun _ => Container.giving_start
  have initialized : Keeps (fun _ => True) (Gives place) (fun _ => True) (init containerID) :=
    keeps_bind started.anyError fun _ => keeps_ite (fun _ =>
      keeps_bind Container.giving_destructor.anyError fun _ => keeps_throw trivial)
        fun _ => keeps_pure _
  exact keeps_bind (preparing_checkContainerRoot system _) fun _ =>
    keeps_bind (preparing_mountContainerRoot system _ _) fun _ =>
    keeps_bind (preparing_checkNetworkSettings system _) fun _ =>
    keeps_bind (keeps_runOn trivial initialized) fun _ => keeps_pure _

end SoftwareContainer

end SoftwareContainers
