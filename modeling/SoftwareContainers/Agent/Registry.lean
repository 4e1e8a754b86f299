import Mathlib
import SoftwareContainers.Agent.Answering

namespace SoftwareContainers

open Effect Effect.Act

/-! The containers that a client knows of from what it has been answered. -/

namespace SoftwareContainerAgent

/-- The container that an operation is about.  An empty list of capabilities is set for
none. -/
def Operation.subject : Operation → Option Int
  | .listContainers | .listCapabilities | .createContainer _ => none
  | .deleteContainer containerID | .shutdownContainer containerID
  | .execute containerID _ _ _ _ | .suspendContainer containerID
  | .resumeContainer containerID | .bindMount containerID _ _ _ => some containerID
  | .setCapabilities containerID capabilities =>
      if capabilities = [] then none else some containerID

namespace Registry

def next (ids : Finset Int) : Operation → Except Fault Answer → Finset Int
  | .createContainer _, .ok (.containerID containerID) => insert containerID ids
  | .deleteContainer containerID, .ok _ | .shutdownContainer containerID, .ok _ =>
      ids.erase containerID
  | _, _ => ids

structure Allows (ids : Finset Int) (operation : Operation) (result : Except Fault Answer) :
    Prop where
  listed : operation = .listContainers → result = .ok (.containerIDs ids.sort)
  fresh : ∀ config containerID, operation = .createContainer config →
    result = .ok (.containerID containerID) → containerID ∉ ids
  refused : ∀ containerID, operation.subject = some containerID → containerID ∉ ids →
    ∃ error, result = .error error ∧ Caught error

def Explains (ids : Finset Int) : List (Operation × Except Fault Answer) → Prop
  | [] => True
  | (operation, result) :: rest =>
      Allows ids operation result ∧ Explains (next ids operation result) rest

def after (ids : Finset Int) (answered : List (Operation × Except Fault Answer)) :
    Finset Int :=
  answered.foldl (fun ids answer => next ids answer.1 answer.2) ids

end Registry

variable {κ α : Type}

def registered (self : SoftwareContainerAgent κ) : Finset Int := self.containers.keys.toFinset

theorem mem_registered {self : SoftwareContainerAgent κ} {containerID : Int} :
    containerID ∈ self.registered ↔ containerID ∈ self.containers := by
  rw [registered, List.mem_toFinset, Std.ExtTreeMap.mem_keys]

theorem registered_of_ids {self before : SoftwareContainerAgent κ}
    (same : self.ids = before.ids) : self.registered = before.registered := by
  ext containerID
  rw [mem_registered, mem_registered, Std.ExtTreeMap.mem_iff_contains,
    Std.ExtTreeMap.mem_iff_contains]
  exact iff_of_eq (congrArg (· = true) (congrFun (congrArg Prod.snd same) containerID))

theorem sort_registered (self : SoftwareContainerAgent κ) :
    self.registered.sort = self.containers.keys := by
  have ordered : self.containers.keys.Pairwise (· < ·) :=
    Std.ExtTreeMap.ordered_keys.imp fun less => Int.compare_eq_lt.mp less
  rw [registered, List.toFinset_sort _ (ordered.imp fun less => Int.ne_of_lt less)]
  exact ordered.imp fun less => Int.le_of_lt less

theorem registered_insert {self : SoftwareContainerAgent κ} {containerID : Int} {container : κ}
    {after : SoftwareContainerAgent κ}
    (inserted : after.containers = self.containers.insert containerID container) :
    after.registered = insert containerID self.registered := by
  ext id
  rw [mem_registered, inserted, Std.ExtTreeMap.mem_insert, Finset.mem_insert, mem_registered,
    Std.LawfulEqOrd.compare_eq_iff_eq, eq_comm]

theorem registered_erase {self after : SoftwareContainerAgent κ} {containerID : Int}
    (erased : after.containers = self.containers.erase containerID) :
    after.registered = self.registered.erase containerID := by
  ext id
  rw [mem_registered, erased, Std.ExtTreeMap.mem_erase, Finset.mem_erase, mem_registered,
    ne_eq, ne_eq, Std.LawfulEqOrd.compare_eq_iff_eq, eq_comm]

/-! An operation on a container that is not there. -/

section

variable {containerID : Int} {oracle : Oracle Sys}
  {world : World Sys (SoftwareContainerAgent κ)}

theorem refused_assertContainerExists (missing : containerID ∉ world.state.containers) :
    ∃ error, (assertContainerExists containerID : Method κ PUnit).run oracle world =
      (.error error, world) ∧ Caught error := by
  rcases asserts_containerExists containerID oracle world with refused | ⟨isLive, _⟩
  · exact refused
  · exact absurd isLive missing

theorem refused_onContainer (missing : containerID ∉ world.state.containers)
    (method : Act Sys Fault κ α) :
    ∃ error, (onContainer containerID method).run oracle world = (.error error, world) ∧
      Caught error := by
  obtain ⟨error, asserted, caught⟩ :=
    @refused_assertContainerExists _ _ oracle _ missing
  exact ⟨error, run_bind_error asserted, caught⟩

variable {cls : ContainerClass κ} {stores : LoadedStores}
  {jsonLoads : String → Except String Json}

theorem refused_plainPerform {operation : Operation}
    (about : operation.subject = some containerID)
    (missing : containerID ∉ world.state.containers) :
    ∃ error, (plainPerform stores cls jsonLoads operation).run oracle world =
      (.error error, world) ∧ Caught error := by
  have mapped : ∀ {β : Type} {method : Method κ β} (answer : β → Answer),
      (∃ error, method.run oracle world = (.error error, world) ∧ Caught error) →
      ∃ error, (answer <$> method).run oracle world = (.error error, world) ∧
        Caught error := by
    rintro β method answer ⟨error, ended, caught⟩
    exact ⟨error, by rw [run_map, ended]; rfl, caught⟩
  have bound : ∀ {β γ : Type} {method : Method κ β} {rest : β → Method κ γ},
      (∃ error, method.run oracle world = (.error error, world) ∧ Caught error) →
      ∃ error, (method >>= rest).run oracle world = (.error error, world) ∧ Caught error :=
    fun ⟨error, ended, caught⟩ => ⟨error, run_bind_error ended, caught⟩
  cases operation with
  | listContainers | listCapabilities | createContainer => cases about
  | deleteContainer =>
      cases about
      refine mapped _ ?_
      rw [deleteContainer, run_get_bind]
      exact bound (bound (refused_assertContainerExists missing))
  | shutdownContainer =>
      cases about
      refine mapped _ ?_
      rw [shutdownContainer, run_get_bind]
      exact bound (refused_onContainer missing _)
  | execute =>
      cases about
      exact mapped _ (bound (bound (refused_onContainer missing _)))
  | suspendContainer | resumeContainer =>
      cases about
      exact mapped _ (refused_onContainer missing _)
  | bindMount =>
      cases about
      exact mapped _ (bound (refused_onContainer missing _))
  | setCapabilities id capabilities =>
      rw [Operation.subject] at about
      by_cases nothing : capabilities = []
      · rw [if_pos nothing] at about
        cases about
      · rw [if_neg nothing] at about
        cases about
        refine mapped _ ?_
        rw [plainSetCapabilities, if_neg nothing]
        split
        · exact ⟨_, run_throw _ _ _, rfl⟩
        · exact bound (bound (refused_assertContainerExists missing))

end

/-! Containers that go. -/

section

variable {shellParseArgv : String → Option (List String)} {containerID : Int}

theorem run_releaseContainer (container : Option LibraryContainer) (oracle : Oracle Sys)
    (world : World Sys (SoftwareContainerAgent LibraryContainer)) :
    ∃ history, (releaseContainer (SoftwareContainer.containerClass shellParseArgv)
      container).run oracle world = (.ok ⟨⟩, ⟨world.state, history⟩) := by
  cases container with
  | none => exact ⟨world.history, rfl⟩
  | some container =>
      obtain ⟨_, _, never⟩ := @silent_libraryClass shellParseArgv oracle
        ⟨container, world.history⟩ trivial
      cases ended : (SoftwareContainer.containerClass shellParseArgv).destructor.run oracle
          ⟨container, world.history⟩ with
      | mk result final =>
          rw [ended] at never
          cases result with
          | error error => exact (never error rfl).elim
          | ok _ =>
              refine ⟨final.history, ?_⟩
              rw [releaseContainer, destroyContainer, run_bind, run_runOn, ended]
              rfl

def Forgets (containerID : Int) (method : Method κ PUnit) : Prop :=
  ∀ oracle world,
    (∃ error, method.run oracle world = (.error error, world)) ∨
    containerID ∈ world.state.containers ∧
      method.run oracle world = (.ok ⟨⟩, ⟨{ world.state with
        containers := world.state.containers.erase containerID
        containerIdPool := world.state.containerIdPool ++ [containerID] }, world.history⟩)

theorem forgets_forgetContainer :
    Forgets containerID (forgetContainer containerID : Method κ PUnit) :=
  fun oracle world => run_forgetContainer containerID world oracle

theorem Forgets.tryCatch {method : Method κ PUnit} (forgets : Forgets containerID method)
    {passOn : Fault → Method κ PUnit}
    (throws : ∀ error oracle world, ∃ thrown,
      (passOn error).run oracle world = (.error thrown, world)) :
    Forgets containerID (tryCatch method passOn) := by
  intro oracle world
  rw [run_tryCatch]
  rcases forgets oracle world with ⟨error, failed⟩ | ⟨isLive, forgotten⟩
  · rw [failed]
    exact .inl (throws error oracle world)
  · rw [forgotten]
    exact .inr ⟨isLive, rfl⟩

theorem forgets_rethrowing :
    Forgets containerID (tryCatch (forgetContainer containerID) fun error =>
      if error.isSoftwareContainerError then
        throw (.softwareContainerError ("Could not delete the container" ++ error.what))
      else
        throw error : Method κ PUnit) := by
  refine forgets_forgetContainer.tryCatch fun error oracle world => ?_
  split
  · exact ⟨_, run_throw _ _ _⟩
  · exact ⟨_, run_throw _ _ _⟩

def Removes (containerID : Int) (method : Method κ PUnit) : Prop :=
  ∀ oracle world,
    (∃ error, (method.run oracle world).1 = .error error ∧
      (method.run oracle world).2.state.registered = world.state.registered) ∨
    (method.run oracle world).1 = .ok ⟨⟩ ∧
      (method.run oracle world).2.state.registered = world.state.registered.erase containerID

theorem Forgets.removes {method : Method κ PUnit} (forgets : Forgets containerID method) :
    Removes containerID method := by
  intro oracle world
  rcases forgets oracle world with ⟨error, failed⟩ | ⟨_, forgotten⟩
  · rw [failed]
    exact .inl ⟨error, rfl, rfl⟩
  · rw [forgotten]
    exact .inr ⟨rfl, registered_erase rfl⟩

theorem Removes.released {method : Method LibraryContainer PUnit}
    (removes : Removes containerID method) (container : Option LibraryContainer) :
    Removes containerID (do
      method
      releaseContainer (SoftwareContainer.containerClass shellParseArgv) container) := by
  intro oracle world
  rcases removes oracle world with ⟨error, failed, same⟩ | ⟨succeeded, gone⟩
  · rw [run_bind_error (Prod.ext failed rfl)]
    exact .inl ⟨error, rfl, same⟩
  · rw [run_bind_ok (Prod.ext succeeded rfl)]
    obtain ⟨history, released⟩ := @run_releaseContainer shellParseArgv container oracle
      (method.run oracle world).2
    rw [released]
    exact .inr ⟨rfl, gone⟩

theorem removes_deleteContainer :
    Removes containerID (deleteContainer (SoftwareContainer.containerClass shellParseArgv)
      containerID) := by
  intro oracle world
  rw [deleteContainer, run_get_bind]
  exact forgets_forgetContainer.removes.released _ oracle world

theorem removes_shutdownContainer :
    Removes containerID (shutdownContainer (SoftwareContainer.containerClass shellParseArgv)
      containerID) := by
  intro oracle world
  rw [shutdownContainer, run_get_bind]
  cases ended : (onContainer containerID
      ((SoftwareContainer.containerClass shellParseArgv).shutdown
        world.state.containerConfig.containerShutdownTimeout)).run oracle world with
  | mk result between =>
      have same : between.state.registered = world.state.registered := by
        refine registered_of_ids ?_
        have left := aside_ids.leaves_onContainer containerID
          ((SoftwareContainer.containerClass shellParseArgv).shutdown
            world.state.containerConfig.containerShutdownTimeout) oracle world
        rw [ended] at left
        exact left
      cases result with
      | error error =>
          rw [run_bind_error ended]
          exact .inl ⟨error, rfl, same⟩
      | ok _ =>
          rw [run_bind_ok ended, run_get_bind]
          rw [← same]
          exact forgets_rethrowing.removes.released _ oracle between

theorem next_of_removes {method : Method LibraryContainer PUnit} {operation : Operation}
    (removes : Removes containerID method)
    (taken : ∀ ids answer, Registry.next ids operation (.ok answer) = ids.erase containerID)
    (kept : ∀ ids error, Registry.next ids operation (.error error) = ids)
    (oracle : Oracle Sys) (world : World Sys (SoftwareContainerAgent LibraryContainer)) :
    (((fun _ => Answer.none) <$> method).run oracle world).2.state.registered =
      Registry.next world.state.registered operation
        (((fun _ => Answer.none) <$> method).run oracle world).1 := by
  rw [run_map]
  dsimp only
  rcases removes oracle world with ⟨error, failed, same⟩ | ⟨succeeded, gone⟩
  · rw [failed, same]
    exact (kept _ error).symm
  · rw [succeeded, gone]
    exact (taken _ _).symm

end

/-! Every answer is one that the ids allow. -/

section

variable (shellParseArgv : String → Option (List String))
  (jsonLoads : String → Except String Json)

theorem registered_perform {counter : Int}
    {world : World Sys (SoftwareContainerAgent LibraryContainer)}
    (has : HasCounter counter world.state) (operation : Operation) (oracle : Oracle Sys) :
    ((perform (SoftwareContainer.containerClass shellParseArgv) jsonLoads operation).run
        oracle world).2.state.registered =
      Registry.next world.state.registered operation
        ((perform (SoftwareContainer.containerClass shellParseArgv) jsonLoads operation).run
          oracle world).1 := by
  have left : ∀ {method : Method LibraryContainer Answer}, LeavesIds method →
      (method.run oracle world).2.state.registered = world.state.registered :=
    fun leaves => registered_of_ids (leaves oracle world)
  cases operation with
  | listContainers | listCapabilities => rfl
  | createContainer config =>
      obtain ⟨free, has⟩ := has
      rw [perform, run_map]
      dsimp only
      cases ended : (createContainer (SoftwareContainer.containerClass shellParseArgv)
          jsonLoads config).run oracle world with
      | mk result after =>
          cases creation _ jsonLoads has ended with
          | rejected => rfl
          | exhausted => rfl
          | failed => rfl
          | created => exact registered_insert rfl
  | deleteContainer =>
      exact next_of_removes removes_deleteContainer (fun _ _ => rfl) (fun _ _ => rfl) oracle
        world
  | shutdownContainer =>
      exact next_of_removes removes_shutdownContainer (fun _ _ => rfl) (fun _ _ => rfl) oracle
        world
  | execute => exact left (leaves_map (aside_ids.leaves_execute _ _ _ _ _ _))
  | suspendContainer => exact left (leaves_map (aside_ids.leaves_onContainer _ _))
  | resumeContainer => exact left (leaves_map (aside_ids.leaves_onContainer _ _))
  | bindMount => exact left (leaves_map (aside_ids.leaves_bindMount _ _ _ _ _))
  | setCapabilities => exact left (leaves_map (aside_ids.leaves_setCapabilities _ _ _))

theorem allows_perform {stores : LoadedStores} {counter : Int}
    {world : World Sys (SoftwareContainerAgent LibraryContainer)}
    (intact : Intact stores world.state) (has : HasCounter counter world.state)
    (operation : Operation) (oracle : Oracle Sys) :
    Registry.Allows world.state.registered operation
      ((perform (SoftwareContainer.containerClass shellParseArgv) jsonLoads operation).run
        oracle world).1 where
  listed isList := by
    subst isList
    rw [sort_registered]
    rfl
  fresh config containerID isCreate created := by
    subst isCreate
    obtain ⟨free, has⟩ := has
    rw [perform, run_map] at created
    dsimp only at created
    cases ended : (createContainer (SoftwareContainer.containerClass shellParseArgv)
        jsonLoads config).run oracle world with
    | mk result after =>
        rw [ended] at created
        cases creation _ jsonLoads has ended with
        | rejected => cases created
        | exhausted => cases created
        | failed => cases created
        | created =>
            cases created
            exact fun member => (issue_fresh has.fresh).1 (mem_registered.mp member)
  refused containerID about missing := by
    obtain ⟨same, _⟩ := simulates_perform stores
      (SoftwareContainer.containerClass shellParseArgv) jsonLoads operation oracle world intact
    obtain ⟨error, refused, caught⟩ := @refused_plainPerform _ containerID oracle
      ⟨forgetMemory world.state, world.history⟩
      (SoftwareContainer.containerClass shellParseArgv) stores jsonLoads operation about
      fun isLive => missing (mem_registered.mpr isLive)
    rw [refused] at same
    exact ⟨error, (congrArg Prod.fst same).symm, caught⟩

theorem explains_runAll {stores : LoadedStores} {counter : Int}
    {world : World Sys (SoftwareContainerAgent LibraryContainer)}
    (intact : Intact stores world.state) (has : HasCounter counter world.state)
    (operations : List Operation) (oracle : Oracle Sys) :
    let run := runAll (perform (SoftwareContainer.containerClass shellParseArgv) jsonLoads)
      oracle operations world
    Registry.Explains world.state.registered (operations.zip run.1) ∧
      run.2.state.registered =
        Registry.after world.state.registered (operations.zip run.1) := by
  induction operations generalizing world counter with
  | nil => exact ⟨trivial, rfl⟩
  | cons operation rest ih =>
      obtain ⟨_, intactAfter⟩ := simulates_perform stores
        (SoftwareContainer.containerClass shellParseArgv) jsonLoads operation oracle world
        intact
      obtain ⟨_, _, hasAfter⟩ := hasCounter_perform
        (SoftwareContainer.containerClass shellParseArgv) jsonLoads has operation oracle
      obtain ⟨explained, registered⟩ := ih intactAfter hasAfter
      rw [registered_perform shellParseArgv jsonLoads has operation oracle] at explained
      rw [registered_perform shellParseArgv jsonLoads has operation oracle] at registered
      exact ⟨⟨allows_perform shellParseArgv jsonLoads intact has operation oracle, explained⟩,
        registered⟩

theorem answers_follow_registry {containerConfig : SoftwareContainerConfig}
    {manifests defaultManifests : List Json} {agent : SoftwareContainerAgent LibraryContainer}
    (constructed : construct containerConfig manifests defaultManifests = .ok agent)
    (oracle : Oracle Sys) (history : History Sys) (operations : List Operation) :
    let run := runAll (perform (SoftwareContainer.containerClass shellParseArgv) jsonLoads)
      oracle operations ⟨agent, history⟩
    Registry.Explains ∅ (operations.zip run.1) ∧
      run.2.state.registered = Registry.after ∅ (operations.zip run.1) := by
  obtain ⟨stores, intact, _, _, none⟩ := construct_intact constructed
  have empty : agent.registered = ∅ := by
    rw [registered, none]
    rfl
  have explained := @explains_runAll shellParseArgv jsonLoads stores 0 ⟨agent, history⟩ intact
    (hasCounter_constructed constructed) operations oracle
  rw [empty] at explained
  exact explained

theorem answers_follow_registry_created :
    Registry.Explains ∅ ([Operation.createContainer "[]", .listContainers,
      .shutdownContainer 0].zip (runAll (perform libraryClass emptyOptions) fortunate
        [.createContainer "[]", .listContainers, .shutdownContainer 0]
        ⟨withoutManifests, []⟩).1) :=
  (answers_follow_registry (fun _ => none) emptyOptions constructed_withoutManifests fortunate
    [] _).1

end

end SoftwareContainerAgent

end SoftwareContainers
