import SoftwareContainers.Agent.Transport
import SoftwareContainers.Library.Configured
import SoftwareContainers.Library.Serving

namespace SoftwareContainers

open Effect Effect.Act

/-! The containers of the library with a log of the gateways that are configured. -/

abbrev ConfiguredContainer := LibraryContainer × List String

namespace ConfiguredContainer

variable {α : Type}

def gatewaysLog :
    Lens ConfiguredContainer (SoftwareContainer AnyGateway (Container × List String)) where
  get self := { self.1 with container := (self.1.container, self.2) }
  set whole _ := ({ whole with container := whole.container.1 }, whole.container.2)
  get_set _ _ := rfl
  set_set _ _ _ := rfl

def within (method : Act Sys Fault LibraryContainer α) : Act Sys Fault ConfiguredContainer α :=
  withLog (fun _ => []) method

theorem erases_within (method : Act Sys Fault LibraryContainer α) :
    Erases Prod.fst (within method) method :=
  erases_withLog _ _

def containerClass (shellParseArgv : String → Option (List String)) :
    ContainerClass ConfiguredContainer :=
  let cls := SoftwareContainer.containerClass shellParseArgv
  { createContainer containerID config :=
      (fun self => (self, [])) <$> cls.createContainer containerID config
    startGateways gwConfig :=
      zoom gatewaysLog (SoftwareContainer.startGateways AnyGateway.gatewayClass.logging gwConfig)
    previouslyConfigured self := cls.previouslyConfigured self.1
    createCommandJob command := within (cls.createCommandJob command)
    startJob job := within (cls.startJob job)
    bindMount pathOnHost pathInContainer readonly :=
      within (cls.bindMount pathOnHost pathInContainer readonly)
    suspend := within cls.suspend
    resume := within cls.resume
    shutdown timeout := within (cls.shutdown timeout)
    destructor := within cls.destructor }

theorem erases_containerClass (shellParseArgv : String → Option (List String)) :
    ErasesClass Prod.fst (containerClass shellParseArgv)
      (SoftwareContainer.containerClass shellParseArgv) where
  createContainer containerID config oracle world := by
    dsimp only [containerClass]
    rw [run_map]
    cases ((SoftwareContainer.containerClass shellParseArgv).createContainer containerID
        config).run oracle world with
    | mk result after => cases result <;> rfl
  startGateways gwConfig oracle world := by
    have same := SoftwareContainer.erases_startGateways AnyGateway.gatewayClass.erases_logging
      gwConfig oracle ⟨gatewaysLog.get world.state, world.history⟩
    have gateways {κ : Type} (self : SoftwareContainer AnyGateway (κ × List String)) :
        self.map (fun gateway => gateway) Prod.fst =
          { self with container := self.container.1 } := by
      rw [SoftwareContainer.map, List.map_id']
    rw [gateways, gateways] at same
    exact same
  previouslyConfigured _ := rfl
  createCommandJob _ := erases_within _
  startJob _ := erases_within _
  bindMount _ _ _ := erases_within _
  suspend := erases_within _
  resume := erases_within _
  shutdown _ := erases_within _
  destructor := erases_within _

def Refuses (self : ConfiguredContainer) (gwConfig : GatewayConfiguration) : Prop :=
  SoftwareContainer.Refuses AnyGateway.gatewayClass self.1 gwConfig

section

variable (shellParseArgv : String → Option (List String)) {self : ConfiguredContainer}
  {gwConfig : GatewayConfiguration} (oracle : Oracle Sys) (history : History Sys)

theorem run_startGateways_of_refuses (refuses : self.Refuses gwConfig) :
    ∃ error, ((containerClass shellParseArgv).startGateways gwConfig).run oracle
        ⟨self, history⟩ = (.error error, ⟨self, history⟩) ∧
      ∀ message, error ≠ .softwareContainerError message := by
  obtain ⟨error, thrown, other⟩ := @SoftwareContainer.run_startGateways_of_refuses _ _ _
    AnyGateway.gatewayClass.logging gwConfig (gatewaysLog.get self) refuses oracle history
  refine ⟨error, ?_, other⟩
  dsimp only [containerClass]
  rw [run_zoom, thrown]
  rfl

theorem startGateways_throws {error : Fault}
    (failed : (((containerClass shellParseArgv).startGateways gwConfig).run oracle
      ⟨self, history⟩).1 = .error error) : error.OfContainer := by
  have erased := (erases_containerClass shellParseArgv).startGateways gwConfig oracle
    ⟨self, history⟩
  exact SoftwareContainer.startGateways_throws ((congrArg Prod.fst erased).trans failed)

theorem run_startGateways_log (accepted : ¬ self.Refuses gwConfig) (nonempty : gwConfig ≠ ∅) :
    self.2.length < (((containerClass shellParseArgv).startGateways gwConfig).run oracle
      ⟨self, history⟩).2.state.2.length :=
  @SoftwareContainer.run_startGateways_log _ _ _ AnyGateway.gatewayClass gwConfig
    (gatewaysLog.get self) accepted nonempty oracle history

end

end ConfiguredContainer

end SoftwareContainers
