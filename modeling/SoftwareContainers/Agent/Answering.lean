import SoftwareContainers.Agent.Defaults
import SoftwareContainers.Agent.Sound
import SoftwareContainers.Agent.Stub
import SoftwareContainers.Base.Shell

namespace SoftwareContainers

open Effect Effect.Act

/-! What the methods of the agent throw when a call on the bus asks for them. -/

namespace SoftwareContainer

variable {α : Type} {condition : Prop}

structure Serves (condition : Prop) (whole : LibraryContainer) : Prop where
  sound : Sound True whole
  whenReady : whole.containerState = .ready → condition

abbrev Replies (result : Except Fault α) : Prop :=
  ∀ error, result = .error error → Caught error

abbrev Kind (condition : Prop) (method : Method α) : Prop :=
  Triple (Serves condition) AnyEvent (fun result self => Serves condition self ∧ Replies result)
    method

theorem Idle.kind {method : Method α} (idle : Idle True method) : Kind condition method := by
  intro oracle world serves
  obtain ⟨stays, ⟨recorded, grown, _⟩, caught⟩ := idle world.state.container.state
    world.state.containerState oracle world ⟨serves.sound.gateways, rfl, rfl⟩
  refine ⟨⟨⟨⟨serves.sound.coherent.of_stays stays, stays.gateways⟩, fun ready => ?_⟩,
    fun error thrown => caught error thrown trivial⟩, recorded, grown, fun _ _ => trivial⟩
  exact serves.whenReady (stays.machine.symm.trans ready)

end SoftwareContainer

namespace SoftwareContainerAgent

variable {κ α : Type} {before after : Int → κ → Prop} {containerID : Int}

theorem asserts_containerExists (containerID : Int) (oracle : Oracle Sys)
    (world : World Sys (SoftwareContainerAgent κ)) :
    (∃ error, (assertContainerExists containerID : Method κ PUnit).run oracle world =
      (.error error, world) ∧ Caught error) ∨
    containerID ∈ world.state.containers ∧
      (assertContainerExists containerID : Method κ PUnit).run oracle world =
        (.ok ⟨⟩, world) := by
  rw [assertContainerExists]
  split
  · exact .inl ⟨_, rfl, rfl⟩
  · split
    · exact .inl ⟨_, rfl, rfl⟩
    · rw [run_get_bind]
      cases contained : world.state.containers.contains containerID with
      | false => exact .inl ⟨_, rfl, rfl⟩
      | true => exact .inr ⟨Std.ExtTreeMap.mem_iff_contains.mpr contained, rfl⟩

variable {part : Int → κ → Prop}

section

variable {cls : ContainerClass κ} (stores : LoadedStores)

variable (silent : Keeps (fun _ : κ => True) AnyEvent (fun _ => False) cls.destructor)

include silent

end

/-! The containers of the library. -/

section

open SoftwareContainer

variable {shellParseArgv : String → Option (List String)} {containerID : Int}
  {condition : Prop}

abbrev ServesAt (containerID : Int) (condition : Prop) (id : Int) :
    LibraryContainer → Prop :=
  Serves (id = containerID → condition)

theorem silent_libraryClass :
    Keeps (fun _ : LibraryContainer => True) AnyEvent (fun _ => False)
      (containerClass shellParseArgv).destructor :=
  silent_destructor

structure InService (stores : LoadedStores) (agent : SoftwareContainerAgent LibraryContainer) :
    Prop where
  intact : Intact stores agent
  containers : EachContainer (fun _ => SoftwareContainer.Sound True) agent
  pool : ∃ counter, HasCounter counter agent

variable {stores : LoadedStores} (jsonLoads : String → Except String Json)

theorem InService.defaults {self : SoftwareContainerAgent LibraryContainer}
    (service : InService stores self) :
    self.defaultConfigStore.value self.heap = stores.defaultCapabilities := by
  rw [service.intact.defaults]
  exact service.intact.since.value_now stores.defaultsLive

theorem InService.filtered {self : SoftwareContainerAgent LibraryContainer}
    (service : InService stores self) :
    self.filteredConfigStore.value self.heap = stores.capabilities := by
  rw [service.intact.filtered]
  exact service.intact.since.value_now stores.filteredLive

theorem InService.serves {self : SoftwareContainerAgent LibraryContainer}
    (service : InService stores self)
    (met : ∀ container, self.containers[containerID]? = some container →
      container.containerState = .ready → condition) :
    EachContainer (ServesAt containerID condition) self :=
  fun id container found => ⟨service.containers id container found, fun ready same =>
    met container (same ▸ found) ready⟩

end

end SoftwareContainerAgent

namespace SoftwareContainerAgentAdaptor

open SoftwareContainerAgent

end SoftwareContainerAgentAdaptor

end SoftwareContainers
