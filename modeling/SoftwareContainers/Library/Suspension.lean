import SoftwareContainers.Library.Coupling

namespace SoftwareContainers

open Effect Effect.Act

/-! What the caller of a suspend or a resume sees when LXC fails it. -/

namespace SoftwareContainer

def FreezeFails (oracle : Oracle Sys) (world : World Sys LibraryContainer) : Prop :=
  (oracle world.history
    (.lxc world.state.container.id world.state.container.state .freeze) : Bool) = false

def UnfreezeFails (oracle : Oracle Sys) (world : World Sys LibraryContainer) : Prop :=
  (oracle world.history
    (.lxc world.state.container.id world.state.container.state .unfreeze) : Bool) = false

/-- What the header promises of a call that fails: the caller is told that the container
is broken, and from then on so is the caller of any operation. -/
structure Invalidates (oracle : Oracle Sys) (operation : Operation)
    (world : World Sys LibraryContainer) : Prop where
  thrown : ∃ message,
    ((perform operation).run oracle world).1 = .error (.containerError message)
  invalid : ((perform operation).run oracle world).2.state.containerState = .invalid
  rejected : ∀ between later, ∃ message,
    ((perform later).run oracle
      (runAll perform oracle between ((perform operation).run oracle world).2).2).1 =
      .error (.invalidContainerError message)

/-- The call ends in the exception of the inner class, and the container is as it was. -/
structure LeavesAsItWas (oracle : Oracle Sys) (operation : Operation) (message : String)
    (world : World Sys LibraryContainer) : Prop where
  thrown : ((perform operation).run oracle world).1 = .error (.softwareContainerError message)
  unchanged : ((perform operation).run oracle world).2.state = world.state

theorem LeavesAsItWas.not_invalidates {oracle : Oracle Sys} {operation : Operation}
    {message : String} {world : World Sys LibraryContainer}
    (left : LeavesAsItWas oracle operation message world) :
    ¬ Invalidates oracle operation world := by
  rintro ⟨⟨_, thrown⟩, _, _⟩
  rw [left.thrown] at thrown
  cases thrown

section

variable {oracle : Oracle Sys} {before : History Sys} {world : World Sys LibraryContainer}

theorem leavesAsItWas_suspend (coupled : CoupledSince before world)
    (ready : world.state.containerState = .ready) (fails : FreezeFails oracle world) :
    LeavesAsItWas oracle .suspend "Could not suspend the container." world := by
  obtain ⟨self, history⟩ := world
  obtain ⟨recorded, _, holds⟩ := coupled
  have ended : (perform .suspend).run oracle ⟨self, history⟩ = _ := run_suspend holds ready
  dsimp only [FreezeFails] at fails
  dsimp only at ended
  rw [fails] at ended
  exact ⟨by rw [ended]; rfl, by rw [ended]; rfl⟩

theorem leavesAsItWas_resume (coupled : CoupledSince before world)
    (suspended : world.state.containerState = .suspended)
    (fails : UnfreezeFails oracle world) :
    LeavesAsItWas oracle .resume "Could not resume the container." world := by
  obtain ⟨self, history⟩ := world
  obtain ⟨recorded, _, holds⟩ := coupled
  have ended : (perform .resume).run oracle ⟨self, history⟩ = _ := run_resume holds suspended
  dsimp only [UnfreezeFails] at fails
  dsimp only at ended
  rw [fails] at ended
  exact ⟨by rw [ended]; rfl, by rw [ended]; rfl⟩

/-- In no run does a suspend or a resume that LXC fails do what the header promises:
the inner class throws before the outer one can mark the container. -/
theorem failed_never_invalidates (reachable : Reachable oracle before world) :
    (world.state.containerState = .ready → FreezeFails oracle world →
      ¬ Invalidates oracle .suspend world ∧
        LeavesAsItWas oracle .suspend "Could not suspend the container." world) ∧
    (world.state.containerState = .suspended → UnfreezeFails oracle world →
      ¬ Invalidates oracle .resume world ∧
        LeavesAsItWas oracle .resume "Could not resume the container." world) := by
  have coupled := coupledSince_of_reachable reachable
  constructor
  · intro ready fails
    have left := leavesAsItWas_suspend coupled ready fails
    exact ⟨left.not_invalidates, left⟩
  · intro suspended fails
    have left := leavesAsItWas_resume coupled suspended fails
    exact ⟨left.not_invalidates, left⟩

end

def neverFreezes : Oracle Sys
  | _, .lxc _ _ .freeze => false
  | history, call => fortunate history call

theorem constructed_neverFreezes :
    ∃ world, Reachable neverFreezes [] world ∧ world.state.containerState = .ready ∧
      FreezeFails neverFreezes world :=
  ⟨_, @Reachable.constructed _ _ 0 .defaults _ _ rfl, rfl, rfl⟩

theorem failed_never_invalidates_neverFreezes :
    ∃ world, Reachable neverFreezes [] world ∧
      (¬ Invalidates neverFreezes .suspend world ∧
        LeavesAsItWas neverFreezes .suspend "Could not suspend the container." world) := by
  obtain ⟨world, reachable, ready, fails⟩ := constructed_neverFreezes
  exact ⟨world, reachable, (failed_never_invalidates reachable).1 ready fails⟩

/-- A ready container that LXC does not freeze is not marked as broken. -/
theorem failed_suspend_stays_ready :
    ∃ world, Reachable neverFreezes [] world ∧ world.state.containerState = .ready ∧
      FreezeFails neverFreezes world ∧ ¬ Invalidates neverFreezes .suspend world := by
  obtain ⟨world, reachable, ready, fails⟩ := constructed_neverFreezes
  have left := leavesAsItWas_suspend (coupledSince_of_reachable reachable) ready fails
  exact ⟨world, reachable, ready, fails, left.not_invalidates⟩

end SoftwareContainer

end SoftwareContainers
