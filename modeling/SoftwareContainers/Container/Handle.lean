import SoftwareContainers.Container.Lifecycle
import SoftwareContainers.Container.Serving
import SoftwareContainers.Effect.Protocol

namespace SoftwareContainers

open Effect Effect.Act

/-! The handle by which a container is known to LXC, from `lxc_container_new` to
`lxc_container_put`. -/

/-- What LXC has been asked for through the handle and has done. -/
inductive Handle where
  | released
  | acquired
  | created
  | started
  | frozen
  | destroyed
  deriving DecidableEq, Repr

namespace Handle

def isAlive : Handle → Bool
  | .started | .frozen => true
  | _ => false

/-- The calls that are in turn, and where they lead. -/
def step (self : Handle) : (call : LxcCall) → call.Answer → Option Handle
  | .containerNew, made =>
      if self = .released then some (if made then .acquired else .released) else none
  | .isDefined, _ | .loadConfig _, _ => if self = .acquired then some .acquired else none
  | .create _, made =>
      if self = .acquired then some (if made then .created else .acquired) else none
  | .start _, running =>
      if self = .created then some (if running then .started else .created) else none
  | .isRunning, _ | .attach .., _ | .setCgroupItem .., _ | .addDeviceNode _, _ =>
      if self = .started then some .started else none
  | .state, _ | .wait .., _ => if self = .started ∨ self = .created then some self else none
  | .initPid, _ => if self.isAlive then some self else none
  | .freeze, done => if self = .started then some (if done then .frozen else .started) else none
  | .unfreeze, done => if self = .frozen then some (if done then .started else .frozen) else none
  | .shutdown _, done | .stop, done =>
      if self.isAlive then some (if done then .created else self) else none
  | .destroy, done => if self = .created then some (if done then .destroyed else .created) else none
  | .put, _ => if self = .released then none else some .released

end Handle

/-- The calls to LXC, told apart by the names of the containers. -/
def lxcProtocol : Protocol Sys String Handle where
  name
    | .lxc id _ _ => some id
    | _ => none
  initial := .released
  step
    | handle, ⟨.lxc _ _ call, answer⟩ => handle.step call answer
    | handle, _ => some handle

def Container.ContainerState.handle : ContainerState → Handle
  | .default | .prepared => .acquired
  | .created => .created
  | .started => .started
  | .frozen => .frozen
  | .destroyed => .destroyed

def Container.handle (self : Container) : Handle :=
  if self.hasContainer then self.state.handle else .released

namespace Container

abbrev Any (_ : Event Sys) : Prop := True

/-- The container holds its handle, which is in a phase. -/
structure Held (name : String) (others : String → Option Handle) (state : ContainerState)
    (handle : Handle) (world : World Sys Container) : Prop where
  id : world.state.id = name
  has : world.state.hasContainer = true
  state : world.state.state = state
  isAt : lxcProtocol.At name others handle world.history

/-- The phase of the handle is what the container takes it for. -/
def Owned (name : String) (others : String → Option Handle) (world : World Sys Container) :
    Prop :=
  ∃ state, Held name others state state.handle world

/-- The phase of the handle, if there is one, is what the container takes it for. -/
structure Accounted (name : String) (others : String → Option Handle)
    (world : World Sys Container) : Prop where
  id : world.state.id = name
  isAt : lxcProtocol.At name others world.state.handle world.history

variable {α β : Type} {name : String} {others : String → Option Handle}
  {state : ContainerState} {handle : Handle}

theorem Owned.accounted {world : World Sys Container} (owned : Owned name others world) :
    Accounted name others world := by
  obtain ⟨state, held⟩ := owned
  refine ⟨held.id, ?_⟩
  rw [Container.handle, if_pos held.has, held.state]
  exact held.isAt

theorem accounted_of_released {world : World Sys Container} (id : world.state.id = name)
    (hasNot : world.state.hasContainer = false)
    (isAt : lxcProtocol.At name others .released world.history) :
    Accounted name others world := by
  refine ⟨id, ?_⟩
  rw [Container.handle, if_neg (by simp [hasNot])]
  exact isAt

theorem Held.owned {world : World Sys Container}
    (held : Held name others state state.handle world) : Owned name others world :=
  ⟨state, held⟩

theorem allowsSystem_idle (name : String) (handle : Handle) :
    AllowsSystem (lxcProtocol.Idle name handle) := by
  intro call answer isSystem
  refine .inl ?_
  cases call with
  | lxc id state call => cases isSystem
  | _ => rfl

theorem serves_held (name : String) (state : ContainerState) :
    Serves (fun self => self.id = name ∧ self.hasContainer = true ∧ self.state = state)
      (lxcProtocol.Idle name state.handle) where
  system := allowsSystem_idle name state.handle
  running self holds started call answer needs := by
    obtain ⟨rfl, _, rfl⟩ := holds
    refine .inr ⟨rfl, ?_⟩
    rw [started]
    cases call with
    | state | wait | isRunning | attach | setCgroupItem | addDeviceNode => rfl
    | _ => cases needs
  handlers _ _ holds := holds
  environment _ _ holds := holds

theorem maintains_held {method : Method α}
    (serving : Serving (fun self => self.id = name ∧ self.hasContainer = true ∧
      self.state = state) (lxcProtocol.Idle name handle) method) :
    Maintains Any (Held name others state handle) method :=
  serving.maintains_at.weaken
    (fun _ held => ⟨⟨held.id, held.has, held.state⟩, held.isAt⟩)
    fun _ _ holds => ⟨holds.1.1, holds.1.2.1, holds.1.2.2, holds.2⟩

/-! The rules for the steps of the life of a container. -/

theorem meets_owned {post : Except Fault α → World Sys Container → Prop} {method : Method α}
    (each : ∀ state, Meets Any (Held name others state state.handle) post method) :
    Meets Any (Owned name others) post method := by
  rintro oracle answers world ⟨state, held⟩
  exact each state oracle answers world held

theorem held_get_bind {post : Except Fault α → World Sys Container → Prop}
    {next : Container → Method α}
    (rest : ∀ self, self.state = state → Meets Any (Held name others state handle) post
      (next self)) :
    Meets Any (Held name others state handle) post (get >>= next) :=
  fun oracle answers world held => rest world.state held.state oracle answers world held

theorem held_lxc_bind {post : Except Fault α → World Sys Container → Prop} {call : LxcCall}
    {next : call.Answer → Method α} {after : call.Answer → Handle}
    (stepped : ∀ answer, handle.step call answer = some (after answer))
    (rest : ∀ answer, Meets Any (Held name others state (after answer)) post (next answer)) :
    Meets Any (Held name others state handle) post (lxc call >>= next) := by
  intro oracle answers ⟨self, history⟩ held
  rw [run_bind_ok (run_lxc call self oracle history)]
  refine rest _ oracle answers _ ⟨held.id, held.has, held.state, ?_⟩
  exact held.isAt.step (congrArg some held.id) (stepped _)

theorem held_setState_bind {post : Except Fault α → World Sys Container → Prop}
    {after : ContainerState} {next : PUnit → Method α}
    (rest : Meets Any (Held name others after handle) post (next ⟨⟩)) :
    Meets Any (Held name others state handle) post (setState after >>= next) :=
  fun oracle answers _ held =>
    rest oracle answers _ ⟨held.id, held.has, rfl, held.isAt⟩

abbrev Returns (holds : World Sys Container → Prop) (method : Method α) : Prop :=
  Meets Any holds (fun result world => holds world ∧ ∀ error, result ≠ .error error) method

theorem meets_bind_returns {holds : World Sys Container → Prop}
    {post : Except Fault β → World Sys Container → Prop} {method : Method α}
    {next : α → Method β} (first : Returns holds method)
    (rest : ∀ value, Meets Any holds post (next value)) :
    Meets Any holds post (method >>= next) :=
  meets_bind _ first (fun value => (rest value).strengthen fun _ => And.left)
    fun error _ never => absurd rfl (never.2 error)

theorem returns_get_bind {holds : World Sys Container → Prop} {next : Container → Method α}
    (rest : ∀ self, Returns holds (next self)) : Returns holds (get >>= next) :=
  fun oracle answers world held => rest world.state oracle answers world held

theorem returns_pure {holds : World Sys Container → Prop} (value : α) :
    Returns holds (pure value) :=
  meets_pure fun _ held => ⟨held, nofun⟩

theorem returns_sys {call : SysCall} (isSystem : call.isSystem = true) :
    Returns (Held name others state handle) (sys call : Method call.Answer) :=
  fun oracle answers world held => ⟨maintains_held
    ((allowsSystem_idle name handle).keeps isSystem) oracle answers world held, nofun⟩

/-! The end of a container. -/

theorem returns_killInit (alive : handle.isAlive = true) :
    Returns (Held name others state handle) killInit := by
  refine held_lxc_bind (fun _ => if_pos alive) fun pid =>
    meets_ite (fun _ => ?_) fun _ => returns_pure _
  exact held_lxc_bind (fun _ => if_pos alive) fun pid => returns_sys rfl

theorem returns_waitForState (inTurn : handle = .started ∨ handle = .created)
    (wanted : String) (timeout : Int) :
    Returns (Held name others state handle) (waitForState wanted timeout) := by
  refine held_lxc_bind (fun _ => if_pos inTurn) fun currentState =>
    meets_ite (fun _ => ?_) fun _ => returns_pure _
  exact held_lxc_bind (fun _ => if_pos inTurn) fun expired => returns_pure _

theorem held_stop (alive : state.handle.isAlive = true) :
    Meets Any (Held name others state state.handle)
      (Decides (Held name others state .created) (Held name others state state.handle)) stop := by
  refine held_get_bind fun self same => meets_ite (fun _ => ?_) fun _ =>
    meets_pure fun _ held => .inr ⟨rfl, held⟩
  refine held_lxc_bind (fun _ => if_pos alive) fun stopped => ?_
  cases stopped with
  | true =>
      exact meets_bind_returns (returns_waitForState (.inr rfl) _ _) fun _ =>
        meets_pure fun _ held => .inl ⟨rfl, held⟩
  | false => exact meets_pure fun _ held => .inr ⟨rfl, held⟩

theorem isAlive_of_started (high : ¬ state.value < ContainerState.started.value) :
    state.handle.isAlive = true := by
  cases state <;> first | rfl | exact absurd (by decide) high

theorem created_of_not_started (high : ¬ state.value < ContainerState.created.value)
    (low : ¬ state.value ≥ ContainerState.started.value) : state = .created := by
  cases state with
  | created => rfl
  | started | frozen => exact absurd (by decide) low
  | _ => exact absurd (by decide) high

theorem held_shutdown (timeout : Int) :
    Meets Any (Held name others state state.handle)
      (Decides (Held name others .created .created) (Held name others state state.handle))
      (shutdown timeout) := by
  refine held_get_bind fun self same => meets_ite
    (fun _ => meets_pure fun _ held => .inr ⟨rfl, held⟩) fun high => ?_
  have alive := isAlive_of_started (same ▸ high)
  refine meets_bind_returns (returns_killInit alive) fun _ =>
    held_lxc_bind (fun _ => if_pos alive) fun success => ?_
  have stopped : Meets Any
      (Held name others state (if success then .created else state.handle))
      (Decides (Held name others state .created) (Held name others state state.handle))
      (if success then pure true else stop) := by
    cases success with
    | true => exact meets_pure fun _ held => .inl ⟨rfl, held⟩
    | false => exact held_stop alive
  refine meets_decides_bind stopped ?_ (meets_pure fun _ held => .inr ⟨rfl, held⟩)
  exact held_setState_bind (meets_pure fun _ held => .inl ⟨rfl, held⟩)

theorem owned_shutdown (timeout : Int) :
    Returns (Owned name others) (shutdown timeout) := by
  refine meets_owned fun state => (held_shutdown timeout).weaken (fun _ held => held) ?_
  rintro result world (⟨ended, held⟩ | ⟨ended, held⟩)
  · exact ⟨held.owned, by simp [ended]⟩
  · exact ⟨held.owned, by simp [ended]⟩

theorem held_destroyStopped :
    Meets Any (Held name others .created .created)
      (fun result world => Owned name others world ∧ ∀ error, result ≠ .error error) (do
        if !(← unmountRootFS) then
          return false
        else if !(← lxc .destroy) then
          return false
        else
          setState .destroyed
          return true) := by
  have unmounted : Returns (Held name others .created .created) unmountRootFS :=
    held_get_bind fun _ _ => meets_ite (fun _ => returns_sys rfl) fun _ => returns_pure _
  have destroys : ∀ answer, Handle.created.step .destroy answer =
      some (if answer then .destroyed else .created) := fun _ => rfl
  refine meets_bind_returns unmounted fun _ => meets_ite
    (fun _ => meets_pure fun _ held => ⟨held.owned, nofun⟩) fun _ =>
      held_lxc_bind destroys fun destroyed => ?_
  cases destroyed with
  | true => exact held_setState_bind (meets_pure fun _ held => ⟨held.owned, nofun⟩)
  | false => exact meets_pure fun _ held => ⟨held.owned, nofun⟩

theorem owned_destroy (timeout : Int) : Returns (Owned name others) (destroy timeout) := by
  refine meets_owned fun state => held_get_bind fun self same => meets_ite
    (fun _ => meets_pure fun _ held => ⟨held.owned, nofun⟩) fun high => ?_
  have stopped : Meets Any (Held name others state state.handle)
      (Decides (Held name others .created .created) (Held name others state state.handle))
      (if self.state.value ≥ ContainerState.started.value then shutdown timeout
        else pure true) := by
    refine meets_ite (fun _ => held_shutdown timeout) fun low => meets_pure fun _ held => ?_
    have created : state = .created := created_of_not_started (same ▸ high) (same ▸ low)
    subst created
    exact .inl ⟨rfl, held⟩
  exact meets_decides_bind stopped held_destroyStopped
    (meets_pure fun _ held => ⟨held.owned, nofun⟩)

theorem step_put (state : ContainerState) (answer : Unit) :
    state.handle.step .put answer = some .released := by
  cases state <;> rfl

theorem releases_destructor : Meets Any (Accounted name others)
    (fun _ world => lxcProtocol.At name others .released world.history) destructor := by
  intro oracle answers world accounted
  rw [destructor, run_get_bind]
  have isAt := accounted.isAt
  cases has : world.state.hasContainer with
  | false =>
      rw [handle, has] at isAt
      exact isAt
  | true =>
      rw [handle, has] at isAt
      have shut : Returns (Owned name others) shutdownIfStarted :=
        returns_get_bind fun _ => meets_ite (fun _ => meets_bind_returns (owned_shutdown _)
          fun _ => returns_pure _) fun _ => returns_pure _
      have destroyed : Returns (Owned name others) destroyIfCreated :=
        returns_get_bind fun _ => meets_ite (fun _ => meets_bind_returns (owned_destroy _)
          fun _ => returns_pure _) fun _ => returns_pure _
      have put : Meets Any (Owned name others)
          (fun _ world => lxcProtocol.At name others .released world.history) (do
            lxc .put
            modify fun self => { self with hasContainer := false }) :=
        meets_owned fun state =>
          held_lxc_bind (step_put state) fun _ => meets_modify fun _ held => held.isAt
      exact meets_bind_returns shut (fun _ => meets_bind_returns destroyed fun _ => put) oracle
        answers world ⟨_, accounted.id, has, rfl, isAt⟩

/-! Suspension. -/

theorem owned_suspend : Maintains Any (Owned name others) suspend := by
  refine meets_owned fun state => held_get_bind fun self same =>
    meets_ite (fun _ => meets_pure fun _ held => held.owned)
    fun high => meets_ite (fun _ => meets_pure fun _ held => held.owned) fun thawed => ?_
  have started : state = .started := by
    subst same
    cases is : self.state with
    | started => rfl
    | frozen => exact absurd is thawed
    | _ => exact absurd (by rw [is]; decide) high
  subst started
  have freezes : ∀ answer, ContainerState.started.handle.step .freeze answer =
      some (if answer then .frozen else .started) := fun _ => rfl
  refine held_lxc_bind freezes fun done => ?_
  cases done with
  | true => exact held_setState_bind (meets_pure fun _ held => held.owned)
  | false => exact meets_throw fun _ held => held.owned

theorem owned_resume : Maintains Any (Owned name others) resume := by
  refine meets_owned fun state => held_get_bind fun self same =>
    meets_ite (fun _ => meets_pure fun _ held => held.owned)
    fun high => ?_
  have isFrozen : state = .frozen := by
    subst same
    cases is : self.state with
    | frozen => rfl
    | _ => exact absurd (by rw [is]; decide) high
  subst isFrozen
  have thaws : ∀ answer, ContainerState.frozen.handle.step .unfreeze answer =
      some (if answer then .started else .frozen) := fun _ => rfl
  refine held_lxc_bind thaws fun done => ?_
  cases done with
  | true => exact held_setState_bind (meets_pure fun _ held => held.owned)
  | false => exact meets_throw fun _ held => held.owned

/-! The beginning. -/

structure Fresh (name : String) (others : String → Option Handle) (world : World Sys Container) :
    Prop where
  id : world.state.id = name
  hasNot : world.state.hasContainer = false
  early : world.state.state = .default ∨ world.state.state = .prepared
  isAt : lxcProtocol.At name others .released world.history

def Created (name : String) (others : String → Option Handle) (result : Except Fault Bool)
    (world : World Sys Container) : Prop :=
  (result = .ok true ∧ Held name others .created .created world) ∨
    (result = .ok false ∧ Accounted name others world)

theorem Fresh.accounted {world : World Sys Container} (fresh : Fresh name others world) :
    Accounted name others world :=
  accounted_of_released fresh.id fresh.hasNot fresh.isAt

theorem returns_initializeContainer : Returns (Fresh name others) initializeContainer := by
  have system := allowsSystem_idle name .released
  have early : Keeps (fun self : Container => self.id = name ∧ self.hasContainer = false ∧
      (self.state = .default ∨ self.state = .prepared))
      (lxcProtocol.Idle name .released) Fault.OfContainer initializeContainer := by
    refine keeps_get_bind fun self _ => keeps_ite (fun _ => ?_) fun _ => keeps_pure _
    refine keeps_bind (system.keeps rfl) fun _ => keeps_ite (fun _ => keeps_pure _) fun _ => ?_
    refine keeps_bind (keeps_zoom (fun _ _ => trivial) (fun _ _ holds _ => holds)
      (Toolkit.bare_createSharedMountPoint system _)) fun _ =>
      keeps_ite (fun _ => keeps_pure _) fun _ => ?_
    exact keeps_bind (keeps_modify fun _ holds => ⟨holds.1, holds.2.1, .inr rfl⟩)
      fun _ => keeps_pure _
  have silent : Keeps (fun _ => True) Steady (fun _ => False) initializeContainer :=
    steady_initializeContainer
  intro oracle answers world fresh
  obtain ⟨after, isAt⟩ := early.maintains_at oracle answers world
    ⟨⟨fresh.id, fresh.hasNot, fresh.early⟩, fresh.isAt⟩
  exact ⟨⟨after.1, after.2.1, after.2.2, isAt⟩, (silent oracle world trivial).2.2⟩

theorem created_rollbackCreate (stepped : ∀ answer, handle.step .put answer = some .released) :
    Meets Any (Held name others state handle) (Created name others) rollbackCreate := by
  intro oracle answers world held
  have put : Meets Any (Held name others state handle) (Created name others) (do
      lxc .put
      modify fun self => { self with hasContainer := false }
      return false) :=
    held_lxc_bind stepped fun _ => meets_bind
      (fun result world => result = .ok ⟨⟩ ∧ world.state.id = name ∧
        world.state.hasContainer = false ∧ lxcProtocol.At name others .released world.history)
      (meets_modify fun _ held => ⟨rfl, held.id, rfl, held.isAt⟩)
      (fun _ => meets_pure fun _ released =>
        .inr ⟨rfl, accounted_of_released released.2.1 released.2.2.1 released.2.2.2⟩)
      fun _ _ released => nomatch released.1
  rw [rollbackCreate, run_get_bind, if_pos held.has]
  exact put oracle answers world held

theorem returns_mountRootFS : Returns (Held name others state handle) mountRootFS := by
  have system := allowsSystem_idle name handle
  have serving : Serving (fun self => self.id = name ∧ self.hasContainer = true ∧
      self.state = state) (lxcProtocol.Idle name handle) mountRootFS := by
    refine keeps_bind (system.keeps rfl) fun _ => keeps_bind (keeps_modify fun _ holds => holds)
      fun _ => keeps_get_bind fun self _ => keeps_ite (fun _ => ?_) fun _ => keeps_pure _
    exact keeps_bind (keeps_zoom (fun _ _ => trivial) (fun _ _ holds _ => holds)
      (Toolkit.bare_overlayMount system _ _ _ _)) fun _ => keeps_pure _
  have silent : Keeps (fun _ => True) Steady (fun _ => False) mountRootFS :=
    steady_mountRootFS
  exact fun oracle answers world held => ⟨maintains_held serving oracle answers world held,
    (silent oracle world trivial).2.2⟩

theorem created_acquired (early : ContainerState) (configFile : String) :
    Meets Any (Held name others early .acquired) (Created name others) (do
      if ← lxc .isDefined then
        rollbackCreate
      else if !(← lxc (.loadConfig configFile)) then
        rollbackCreate
      else
        mountRootFS
        if !(← lxc (.create LXCTEMPLATE)) then
          modify fun self => { self with rootFSPath := "" }
          rollbackCreate
        else
          setState .created
          return true) := by
  have rolledBack : Meets Any (Held name others early .acquired) (Created name others)
      rollbackCreate :=
    created_rollbackCreate fun _ => rfl
  refine held_lxc_bind (fun _ => rfl) fun _ => meets_ite (fun _ => rolledBack) fun _ => ?_
  refine held_lxc_bind (fun _ => rfl) fun _ => meets_ite (fun _ => rolledBack) fun _ => ?_
  have creates : ∀ answer, Handle.acquired.step (.create LXCTEMPLATE) answer =
      some (if answer then .created else .acquired) := fun _ => rfl
  refine meets_bind_returns returns_mountRootFS fun _ => held_lxc_bind creates fun made => ?_
  cases made with
  | true => exact held_setState_bind (meets_pure fun _ held => .inl ⟨rfl, held⟩)
  | false =>
      exact meets_bind (fun result world => match result with
          | .ok _ => Held name others early .acquired world
          | .error _ => False)
        (meets_modify fun _ held => ⟨held.id, held.has, held.state, held.isAt⟩)
        (fun _ => rolledBack) fun _ _ => False.elim

theorem fresh_not_created {self : Container}
    (early : self.state = .default ∨ self.state = .prepared) :
    ¬ self.state.value ≥ ContainerState.created.value := by
  rcases early with same | same <;> rw [same] <;> decide

theorem created_create : Meets Any (Fresh name others) (Created name others) create := by
  refine meets_get_bind fun self => meets_ite (fun high => ?_) fun _ =>
    meets_ite (fun _ => ?_) fun _ => ?_
  · exact meets_pure fun _ fresh =>
      absurd high (fresh_not_created (fresh.2 ▸ fresh.1.early))
  · exact meets_pure fun _ fresh => .inr ⟨rfl, fresh.1.accounted⟩
  · have exported : Returns (Fresh name others)
        (sys (.setenv "GATEWAY_DIR" self.gatewaysDir) : Method Unit) := by
      refine fun oracle _ world fresh => ⟨⟨fresh.id, fresh.hasNot, fresh.early, ?_⟩, nofun⟩
      refine fresh.isAt.append fun event member => ?_
      cases List.mem_singleton.mp member
      exact allowsSystem_idle name .released _ _ rfl
    refine Meets.strengthen ?_ fun _ => And.left
    refine meets_bind_returns exported fun _ oracle answers world fresh => ?_
    rw [run_bind_ok (run_lxc .containerNew world.state oracle world.history)]
    have acquired : ∀ made : Bool, lxcProtocol.At name others
        (if made then .acquired else .released) (world.history ++
          [⟨.lxc world.state.id world.state.state .containerNew, made⟩]) :=
      fun made => fresh.isAt.step (congrArg some fresh.id) rfl
    generalize (oracle world.history
      (.lxc world.state.id world.state.state .containerNew) : Bool) = made
    cases made with
    | true =>
        exact created_acquired _ _ oracle answers _ ⟨fresh.id, rfl, rfl, acquired true⟩
    | false =>
        have hasNot : ¬ world.state.hasContainer = true := by simp [fresh.hasNot]
        rw [if_pos (by decide), rollbackCreate, run_get_bind, if_neg hasNot]
        exact .inr ⟨rfl, accounted_of_released fresh.id fresh.hasNot (acquired false)⟩

theorem owned_start : Meets Any (Held name others .created .created)
    (fun result world => Owned name others world ∧ ∀ error, result ≠ .error error) start := by
  refine held_get_bind fun self same => meets_ite (fun low => ?_) fun _ => ?_
  · exact meets_pure fun _ held => ⟨held.owned, nofun⟩
  · have starts : ∀ answer, Handle.created.step (.start ["env", "/bin/sleep", "100000000"])
        answer = some (if answer then .started else .created) := fun _ => rfl
    refine held_lxc_bind starts fun started => ?_
    cases started with
    | false => exact meets_pure fun _ held => ⟨held.owned, nofun⟩
    | true =>
        have serves := serves_held name .started
        have running : Maintains Any (Held name others .started .started)
            ensureContainerRunning :=
          maintains_held (serving_ensureRunning (serves.usable fun _ holds => holds.2.2))
        have silent : Quiet (fun _ => False) ensureContainerRunning :=
          quiet_ensureContainerRunning
        refine held_lxc_bind (fun _ => rfl) fun _ => held_setState_bind ?_
        exact fun oracle answers world held => ⟨(running oracle answers world held).owned,
          (silent world.state.state oracle world rfl).2.2⟩

end Container

end SoftwareContainers
