import SoftwareContainers.Library.Coupling
import SoftwareContainers.Library.Erasure

namespace SoftwareContainers

open Effect Effect.Act Hook

/-! Runs of a `SoftwareContainer` that keep track of which gateways have been
activated.  What is tracked is not part of the program. -/

namespace AnyGateway

/-- The objects of the class `Gateway` that do the work: the gateway itself, or the two
instances of the D-Bus gateway. -/
def parts : AnyGateway → List GatewayBase
  | .file gateway => [gateway.base]
  | .network gateway => [gateway.base]
  | .pulse gateway => [gateway.base]
  | .deviceNode gateway => [gateway.base]
  | .dbus gateway => [gateway.sessionBus.base, gateway.systemBus.base]
  | .cgroups gateway => [gateway.base]
  | .wayland gateway => [gateway.base]
  | .environment gateway => [gateway.base]

end AnyGateway

/-- `activate()` returns true when it moves a configured object to the last state; a
teardown that succeeds moves it to the first. -/
def noteActivation (before after : GatewayBase) (activated : Bool) : Bool :=
  after.state ≠ .created &&
    (activated || (before.state = .configured && after.state = .activated))

def noteActivations : List GatewayBase → List GatewayBase → List Bool → List Bool
  | before :: restBefore, after :: restAfter, activated :: rest =>
      noteActivation before after activated :: noteActivations restBefore restAfter rest
  | _, _, _ => []

/-- A gateway, and for each of its parts whether its `activate()` has returned true since
the last teardown of it that succeeded. -/
structure Tracked where
  gateway : AnyGateway
  activated : List Bool

namespace Tracked

def new (gateway : AnyGateway) : Tracked := ⟨gateway, gateway.parts.map fun _ => false⟩

def watch {α : Type} (method : Hook AnyGateway α) : Hook Tracked α :=
  ⟨fun oracle world =>
    let ended := method.run oracle ⟨(world.state.1.gateway, world.state.2), world.history⟩
    (ended.1, ⟨(⟨ended.2.state.1, noteActivations world.state.1.gateway.parts
      ended.2.state.1.parts world.state.1.activated⟩, ended.2.state.2), ended.2.history⟩)⟩

def gatewayClass : GatewayClass Sys Tracked Container where
  id self := AnyGateway.gatewayClass.id self.gateway
  setConfig config := watch (AnyGateway.gatewayClass.setConfig config)
  activate := watch AnyGateway.gatewayClass.activate
  teardown := watch AnyGateway.gatewayClass.teardown
  isConfigured self := AnyGateway.gatewayClass.isConfigured self.gateway
  isActivated self := AnyGateway.gatewayClass.isActivated self.gateway

def erase (state : Tracked × Container) : AnyGateway × Container :=
  (state.1.gateway, state.2)

theorem erases_watch {α : Type} (method : Hook AnyGateway α) :
    Erases erase (watch method) method :=
  fun _ _ => rfl

theorem erases_gatewayClass :
    ErasesGateways Tracked.gateway id gatewayClass AnyGateway.gatewayClass where
  id _ := rfl
  setConfig _ := erases_watch _
  activate := erases_watch _
  teardown := erases_watch _
  isConfigured _ := rfl
  isActivated _ := rfl

end Tracked

abbrev TrackedContainer := SoftwareContainer Tracked Container

namespace TrackedContainer

def withGateways {γ δ : Type} (self : SoftwareContainer γ Container) (gateways : List δ) :
    SoftwareContainer δ Container where
  containerID := self.containerID
  containerState := self.containerState
  container := self.container
  gateways := gateways
  config := self.config
  previouslyConfigured := self.previouslyConfigured

def erase (self : TrackedContainer) : LibraryContainer :=
  withGateways self (self.gateways.map Tracked.gateway)

def track (self : LibraryContainer) : TrackedContainer :=
  withGateways self (self.gateways.map Tracked.new)

theorem erase_track (self : LibraryContainer) : erase (track self) = self := by
  have same : self.gateways.map (Tracked.gateway ∘ Tracked.new) = self.gateways :=
    List.map_id' self.gateways
  simp only [erase, track, withGateways, List.map_map, same]

theorem erase_withGateways {self : LibraryContainer} {tracked : TrackedContainer}
    (same : self.gateways = (erase tracked).gateways) :
    erase (withGateways self tracked.gateways) = self := by
  have kept : tracked.gateways.map Tracked.gateway = self.gateways := same.symm
  simp only [erase, withGateways, kept]

open SoftwareContainer

theorem erases_startGateways (gwConfig : GatewayConfiguration) :
    Erases erase (startGateways Tracked.gatewayClass gwConfig)
      (startGateways AnyGateway.gatewayClass gwConfig) :=
  SoftwareContainer.erases_startGateways Tracked.erases_gatewayClass gwConfig

end TrackedContainer

namespace SoftwareContainer

def Operation.leavesGateways : Operation → Bool
  | .startGateways _ | .shutdown _ => false
  | _ => true

section

abbrev LeavesGateways {α : Type} (method : Method α) : Prop :=
  Leaves (fun self => self.gateways) method

theorem leaves_onContainer {α : Type} (method : Container.Method α) :
    LeavesGateways (onContainer method) :=
  leaves_zoom fun _ _ => rfl

theorem leaves_setState (containerState : ContainerState) :
    LeavesGateways (setState containerState) :=
  leaves_modify fun _ => rfl

theorem leavesGateways_perform {operation : Operation}
    (leaves : operation.leavesGateways = true) : LeavesGateways (perform operation) := by
  cases operation with
  | startGateways gwConfig => cases leaves
  | createFunctionJob => exact leaves_assertReady _
  | createCommandJob command =>
      exact leaves_bind (leaves_bind (leaves_assertReady _) fun _ => leaves_pure _)
        fun _ => leaves_pure _
  | bindMount pathOnHost pathInContainer readonly =>
      exact leaves_bind (leaves_bind (leaves_assertReady _) fun _ => leaves_onContainer _)
        fun _ => leaves_pure _
  | suspend =>
      exact leaves_bind (leaves_assertReady _) fun _ => leaves_bind (leaves_onContainer _)
        fun _ => leaves_ite (leaves_invalidate (fun _ _ => rfl) _) (leaves_setState _)
  | resume =>
      refine leaves_bind (leaves_get_bind fun _ => leaves_ite (leaves_throw _)
        (leaves_pure _)) fun _ => leaves_get_bind fun _ => leaves_ite (leaves_throw _) ?_
      exact leaves_bind (leaves_onContainer _) fun _ =>
        leaves_ite (leaves_invalidate (fun _ _ => rfl) _) (leaves_setState _)
  | shutdown timeout => cases leaves

end

open TrackedContainer

/-- A run up to the shutdown, with its gateways tracked. -/
inductive Lived (oracle : Oracle Sys) (before : History Sys) :
    World Sys TrackedContainer → Prop
  | constructed {containerID : Int} {config : SoftwareContainerConfig}
      {self : LibraryContainer} {history : History Sys} :
      (construct containerID config).run oracle ⟨(), before⟩ = (.ok self, ⟨(), history⟩) →
      Lived oracle before ⟨track self, history⟩
  | startGateways {world : World Sys TrackedContainer} (gwConfig : GatewayConfiguration) :
      Lived oracle before world →
      Lived oracle before ((startGateways Tracked.gatewayClass gwConfig).run oracle world).2
  | performed {world : World Sys TrackedContainer} {result : Except Fault PUnit}
      {self : LibraryContainer} {history : History Sys} (operation : Operation) :
      Lived oracle before world → operation.leavesGateways = true →
      (perform operation).run oracle ⟨erase world.state, world.history⟩ =
        (result, ⟨self, history⟩) →
      Lived oracle before ⟨withGateways self world.state.gateways, history⟩

section

variable {oracle : Oracle Sys} {before : History Sys}

theorem run_perform_startGateways (gwConfig : GatewayConfiguration)
    (world : World Sys LibraryContainer) :
    ((perform (.startGateways gwConfig)).run oracle world).2 =
      ((startGateways AnyGateway.gatewayClass gwConfig).run oracle world).2 := by
  rw [perform, run_bind]
  cases (startGateways AnyGateway.gatewayClass gwConfig).run oracle world with
  | mk result after => cases result <;> rfl

theorem reachable_of_lived {world : World Sys TrackedContainer}
    (lived : Lived oracle before world) :
    Reachable oracle before ⟨erase world.state, world.history⟩ := by
  induction lived with
  | constructed ended =>
      rw [erase_track]
      exact .constructed ended
  | @startGateways world gwConfig _ ih =>
      have next := Reachable.performed (.startGateways gwConfig) ih
      rw [run_perform_startGateways,
        TrackedContainer.erases_startGateways gwConfig oracle world] at next
      exact next
  | @performed world _ self _ operation _ leaves ended ih =>
      have same := leavesGateways_perform leaves oracle ⟨erase world.state, world.history⟩
      have next := Reachable.performed operation ih
      rw [ended] at same next
      rw [erase_withGateways same]
      exact next

end

end SoftwareContainer

end SoftwareContainers
