import SoftwareContainers.Agent.Registry

namespace SoftwareContainers

open Effect Effect.Act

/-! What an operation does to the containers that it is not about. -/

namespace SoftwareContainerAgent

variable {κ α : Type} {containerID other : Int}

abbrev LeavesEntry (other : Int) (method : Method κ α) : Prop :=
  Leaves (fun self : SoftwareContainerAgent κ => self.containers[other]?) method

section

variable (apart : containerID ≠ other)

theorem leavesEntry_assertContainerExists :
    LeavesEntry other (assertContainerExists containerID : Method κ PUnit) := by
  intro oracle world
  obtain ⟨result, asserted⟩ := run_assertContainerExists containerID oracle world
  rw [asserted]

theorem leavesEntry_releaseContainer (cls : ContainerClass κ) (container : Option κ) :
    LeavesEntry other (releaseContainer cls container) := by
  cases container with
  | none => exact leaves_pure _
  | some container => exact leaves_bind (leaves_runOn _ _) fun _ => leaves_pure _

include apart

theorem leavesEntry_onContainer (method : Act Sys Fault κ α) :
    LeavesEntry other (onContainer containerID method) := by
  refine leaves_bind leavesEntry_assertContainerExists fun _ =>
    leaves_onEntry fun self entry before found => ?_
  dsimp only [containersLens]
  rw [getElem?_insert, if_neg apart]

theorem leavesEntry_forgetContainer :
    LeavesEntry other (forgetContainer containerID : Method κ PUnit) := by
  refine leaves_bind leavesEntry_assertContainerExists fun _ =>
    leaves_modify fun self => ?_
  dsimp only
  rw [getElem?_erase, if_neg apart]

variable (stores : LoadedStores) (cls : ContainerClass κ)

theorem leavesEntry_plainUpdate (configs : PlainConfig) :
    LeavesEntry other (plainUpdateGatewayConfigs cls containerID configs) :=
  leaves_bind leavesEntry_assertContainerExists fun _ => leavesEntry_onContainer apart _

theorem leavesEntry_plainSetCapabilities (capabilities : List String) :
    LeavesEntry other (plainSetCapabilities stores cls containerID capabilities) :=
  leaves_ite (leaves_pure _) (leaves_ite (leaves_throw _)
    (leaves_bind (leavesEntry_plainUpdate apart cls _) fun _ =>
      leaves_ite (leaves_throw _) (leaves_pure _)))

theorem leavesEntry_plainExecute (cmdLine workingDirectory outputFile : String)
    (env : EnvironmentVariables) :
    LeavesEntry other
      (plainExecute stores cls containerID cmdLine workingDirectory outputFile env) := by
  have configured : LeavesEntry other (plainEnsureConfigured stores cls containerID) :=
    leaves_bind (leavesEntry_onContainer apart _) fun _ =>
      leaves_ite (leaves_bind (leavesEntry_plainUpdate apart cls _) fun _ =>
        leaves_ite (leaves_throw _) (leaves_pure _)) (leaves_pure _)
  exact leaves_bind configured fun _ =>
    leaves_bind (leavesEntry_onContainer apart _) fun _ => leaves_bind (leaves_ask _) fun _ =>
      leaves_bind (leavesEntry_onContainer apart _) fun _ => leaves_ite (leaves_throw _)
        (leaves_bind (leaves_modify fun _ => rfl) fun _ => leaves_pure _)

end

section

variable (stores : LoadedStores) (cls : ContainerClass κ)
  (jsonLoads : String → Except String Json)

theorem leavesEntry_plainPerform {operation : Operation}
    (apart : operation.subject ≠ some other)
    (noCreation : ∀ config, operation ≠ .createContainer config) :
    LeavesEntry other (plainPerform stores cls jsonLoads operation) := by
  have named : ∀ {containerID : Int}, some containerID ≠ some other → containerID ≠ other :=
    fun differ same => differ (congrArg some same)
  cases operation with
  | listContainers => exact leaves_map (leaves_get_bind fun _ => leaves_pure _)
  | listCapabilities => exact leaves_pure _
  | createContainer config => exact absurd rfl (noCreation config)
  | deleteContainer =>
      exact leaves_map (leaves_get_bind fun _ =>
        leaves_bind (leavesEntry_forgetContainer (named apart)) fun _ =>
          leavesEntry_releaseContainer cls _)
  | shutdownContainer containerID =>
      have forgotten : LeavesEntry other (forgetContainer containerID : Method κ PUnit) :=
        leavesEntry_forgetContainer (named apart)
      exact leaves_map (leaves_get_bind fun _ =>
        leaves_bind (leavesEntry_onContainer (named apart) _) fun _ =>
          leaves_get_bind fun _ => leaves_bind (leaves_tryCatch forgotten fun _ =>
            leaves_ite (leaves_throw _) (leaves_throw _)) fun _ =>
              leavesEntry_releaseContainer cls _)
  | execute => exact leaves_map (leavesEntry_plainExecute (named apart) stores cls _ _ _ _)
  | suspendContainer => exact leaves_map (leavesEntry_onContainer (named apart) _)
  | resumeContainer => exact leaves_map (leavesEntry_onContainer (named apart) _)
  | bindMount =>
      exact leaves_map (leaves_bind (leavesEntry_onContainer (named apart) _) fun _ =>
        leaves_ite (leaves_throw _) (leaves_pure _))
  | setCapabilities containerID capabilities =>
      by_cases nothing : capabilities = []
      · subst nothing
        exact leaves_map (leaves_pure _)
      · rw [Operation.subject, if_neg nothing] at apart
        exact leaves_map (leavesEntry_plainSetCapabilities (named apart) stores cls _)

variable {stores : LoadedStores}

theorem getElem?_perform {counter : Int} {world : World Sys (SoftwareContainerAgent κ)}
    (intact : Intact stores world.state) (has : HasCounter counter world.state)
    {operation : Operation} (apart : operation.subject ≠ some other) {container : κ}
    (found : world.state.containers[other]? = some container) (oracle : Oracle Sys) :
    ((perform cls jsonLoads operation).run oracle world).2.state.containers[other]? =
      some container := by
  by_cases isCreation : ∃ config, operation = .createContainer config
  · obtain ⟨config, rfl⟩ := isCreation
    obtain ⟨free, has⟩ := has
    rw [perform, run_map]
    dsimp only
    cases ended : (createContainer cls jsonLoads config).run oracle world with
    | mk result after =>
        cases creation cls jsonLoads has ended with
        | rejected | exhausted | failed => exact found
        | created =>
            have new := (issue_fresh has.fresh).1
            rw [getElem?_insert, if_neg, found]
            rintro rfl
            rw [Std.ExtTreeMap.getElem?_eq_none new] at found
            cases found
  · obtain ⟨same, _⟩ := simulates_perform stores cls jsonLoads operation oracle world intact
    have left := leavesEntry_plainPerform stores cls jsonLoads apart
      (fun config isCreate => isCreation ⟨config, isCreate⟩) oracle
      ⟨forgetMemory world.state, world.history⟩
    rw [same] at left
    exact left.trans found

theorem getElem?_runAll {counter : Int} {world : World Sys (SoftwareContainerAgent κ)}
    (intact : Intact stores world.state) (has : HasCounter counter world.state)
    (operations : List Operation)
    (apart : ∀ operation ∈ operations, operation.subject ≠ some other) {container : κ}
    (found : world.state.containers[other]? = some container) (oracle : Oracle Sys) :
    (runAll (perform cls jsonLoads) oracle operations world).2.state.containers[other]? =
      some container := by
  induction operations generalizing world counter with
  | nil => exact found
  | cons operation rest ih =>
      obtain ⟨_, intactAfter⟩ :=
        simulates_perform stores cls jsonLoads operation oracle world intact
      obtain ⟨_, _, hasAfter⟩ := hasCounter_perform cls jsonLoads has operation oracle
      exact ih intactAfter hasAfter (fun later member => apart later (.tail _ member))
        (getElem?_perform cls jsonLoads intact has (apart operation (.head _)) found oracle)

/-- After any run, operations that are not about a container leave it as it is, however they
end and whichever containers they create. -/
theorem containers_are_isolated {containerConfig : SoftwareContainerConfig}
    {manifests defaultManifests : List Json} {agent : SoftwareContainerAgent κ}
    (constructed : construct containerConfig manifests defaultManifests = .ok agent)
    (oracle : Oracle Sys) (history : History Sys) (operations later : List Operation)
    (apart : ∀ operation ∈ later, operation.subject ≠ some other) {container : κ}
    (found : (runAll (perform cls jsonLoads) oracle operations
      ⟨agent, history⟩).2.state.containers[other]? = some container) :
    (runAll (perform cls jsonLoads) oracle (operations ++ later)
      ⟨agent, history⟩).2.state.containers[other]? = some container := by
  obtain ⟨stores, intact, _⟩ := construct_intact constructed
  have reached : Intact stores (runAll (perform cls jsonLoads) oracle operations
      ⟨agent, history⟩).2.state :=
    preserves_runAll (fun operation oracle world holds =>
      (simulates_perform stores cls jsonLoads operation oracle world holds).2) oracle operations
      ⟨agent, history⟩ intact
  obtain ⟨_, _, has⟩ := hasCounter_runAll cls jsonLoads ⟨agent, history⟩
    (hasCounter_constructed constructed) operations oracle
  rw [runAll_append]
  exact getElem?_runAll cls jsonLoads reached has later apart found oracle

theorem containers_are_isolated_created :
    ∃ container, (runAll (perform libraryClass emptyOptions) fortunate
      [.createContainer "[]", .createContainer "[]", .suspendContainer 1, .shutdownContainer 1]
      ⟨withoutManifests, []⟩).2.state.containers[(0 : Int)]? = some container := by
  obtain ⟨container, found⟩ : ∃ container, (runAll (perform libraryClass emptyOptions)
      fortunate [.createContainer "[]"] ⟨withoutManifests, []⟩).2.state.containers[(0 : Int)]? =
        some container := ⟨_, rfl⟩
  exact ⟨container, containers_are_isolated libraryClass emptyOptions
    constructed_withoutManifests fortunate [] [.createContainer "[]"]
    [.createContainer "[]", .suspendContainer 1, .shutdownContainer 1]
    (by simp [Operation.subject]) found⟩

end

end SoftwareContainerAgent

end SoftwareContainers
