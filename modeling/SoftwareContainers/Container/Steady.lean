import SoftwareContainers.Container.Container

namespace SoftwareContainers

open Effect Effect.Act

/-! What gateways and jobs do to a container: none of it moves its state machine. -/

/-- The calls that move LXC's own state machine. -/
def LxcCall.isLifecycle : LxcCall → Bool
  | .freeze | .unfreeze | .shutdown _ | .stop | .destroy => true
  | _ => false

def SysCall.isLifecycle : SysCall → Bool
  | .lxc _ _ call => call.isLifecycle
  | _ => false

def Steady (event : Event Sys) : Prop := event.call.isLifecycle = false

theorem steady_sys {ε σ : Type} {inv : σ → Prop} {may : ε → Prop} {call : SysCall}
    (steady : call.isLifecycle = false) :
    Keeps inv Steady may (sys call : Act Sys ε σ call.Answer) :=
  keeps_ask fun _ => steady

namespace Toolkit

variable {inv : List CleanUpHandler → Prop} {may : Fault → Prop}

abbrev Quiet (may : Fault → Prop) {α : Type} (act : Toolkit α) : Prop :=
  Keeps (fun _ => True) Steady may act

theorem quiet_addHandlers (handlers : List CleanUpHandler) :
    Quiet may (addHandlers handlers) :=
  keeps_modify fun _ _ => trivial

theorem quiet_pathInList (path : String) : Quiet may (pathInList path) :=
  keeps_get_bind fun _ _ => keeps_pure _

theorem quiet_createTempDirectory (template : String) :
    Quiet (·.isSoftwareContainerError = true) (createTempDirectory template) :=
  keeps_bind (steady_sys rfl) fun made =>
    match made with
    | some _ => keeps_pure _
    | none => keeps_throw rfl

theorem quiet_firstBindMount (src dst tmpContainerRoot : String)
    (writeBufferEnabled : Bool) :
    Quiet (·.isSoftwareContainerError = true)
      (firstBindMount src dst tmpContainerRoot writeBufferEnabled) := by
  refine keeps_bind (keeps_ite (fun _ => steady_sys rfl) fun _ => keeps_pure _)
    fun overlay => keeps_ite (fun _ => ?_) fun _ => steady_sys rfl
  exact keeps_bind (quiet_createTempDirectory _) fun upperDir =>
    keeps_bind (quiet_createTempDirectory _) fun workDir => steady_sys rfl

theorem quiet_bindMount (src dst tmpContainerRoot : String)
    (readOnly writeBufferEnabled : Bool) :
    Quiet (·.isSoftwareContainerError = true)
      (bindMount src dst tmpContainerRoot readOnly writeBufferEnabled) := by
  refine keeps_bind (steady_sys rfl) fun srcExists =>
    keeps_ite (fun _ => keeps_pure _) fun _ => ?_
  refine keeps_bind (steady_sys rfl) fun dstExists =>
    keeps_ite (fun _ => keeps_pure _) fun _ => ?_
  refine keeps_bind (quiet_firstBindMount _ _ _ _) fun mounted =>
    keeps_ite (fun _ => keeps_pure _) fun _ => ?_
  exact keeps_ite (fun _ => steady_sys rfl) fun _ => keeps_pure _

theorem quiet_createDirectories (directories : List String) :
    Quiet may (createDirectories directories) := by
  induction directories with
  | nil => exact keeps_pure _
  | cons path rest ih =>
      exact keeps_bind (steady_sys rfl) fun _ => keeps_ite (fun _ => keeps_pure _) fun _ => ih

theorem quiet_overlayMount (lower upper work dst : String) :
    Quiet may (overlayMount lower upper work dst) := by
  refine keeps_bind (quiet_createDirectories _) fun _ =>
    keeps_ite (fun _ => keeps_pure _) fun _ => ?_
  exact keeps_bind (steady_sys rfl) fun _ => keeps_ite (fun _ => keeps_pure _) fun _ =>
    keeps_bind (quiet_addHandlers _) fun _ => keeps_pure _

theorem quiet_tmpfsMount (dst : String) (maxSize : Int) :
    Quiet may (tmpfsMount dst maxSize) := by
  refine keeps_bind (steady_sys rfl) fun _ => keeps_ite (fun _ => keeps_pure _) fun _ => ?_
  exact keeps_bind (steady_sys rfl) fun _ => keeps_ite (fun _ => keeps_pure _) fun _ =>
    keeps_bind (quiet_addHandlers _) fun _ => keeps_pure _

theorem quiet_createSharedMountPoint (path : String) :
    Quiet may (createSharedMountPoint path) := by
  refine keeps_bind (steady_sys rfl) fun _ => keeps_ite (fun _ => keeps_pure _) fun _ => ?_
  refine keeps_bind (steady_sys rfl) fun _ => keeps_ite (fun _ => keeps_pure _) fun _ => ?_
  exact keeps_bind (steady_sys rfl) fun _ => keeps_ite (fun _ => keeps_pure _) fun _ =>
    keeps_bind (quiet_addHandlers _) fun _ => keeps_pure _

theorem quiet_writeToFile (path content : String) :
    Quiet may (writeToFile path content) := by
  refine keeps_bind (steady_sys rfl) fun written =>
    keeps_ite (fun _ => keeps_pure _) fun _ => ?_
  refine keeps_bind (quiet_pathInList path) fun listed =>
    keeps_ite (fun _ => keeps_pure _) fun _ => ?_
  exact keeps_bind (quiet_addHandlers _) fun _ => keeps_pure _

end Toolkit

/-! Processes in the container. -/

namespace Child

variable {σ : Type} {inv : σ → Prop}

abbrev Quiet (inv : σ → Prop) {α : Type} (act : Child σ α) : Prop :=
  Keeps inv Steady (fun _ => True) act

theorem quiet_step (call : ChildCall) : Quiet inv (step call) :=
  keeps_bind (steady_sys rfl) fun answered =>
    match answered with
    | some _ => keeps_pure _
    | none => keeps_throw trivial

theorem quiet_insertCommand (command : String) : Quiet inv (insertCommand command) :=
  keeps_bind (quiet_step _) fun outcome =>
    match outcome with
    | .spawned _ => keeps_pure _
    | .spawnError => keeps_pure _
    | .shellError => keeps_pure _

theorem quiet_insertProtocols (entry : IPTableEntry) (rule : IPTableEntry.Rule)
    (protocols : List String) : Quiet inv (insertProtocols entry rule protocols) := by
  induction protocols with
  | nil => exact keeps_pure _
  | cons proto rest ih =>
      exact keeps_bind (quiet_insertCommand _) fun _ =>
        keeps_ite (fun _ => keeps_pure _) fun _ => ih

theorem quiet_insertRules (entry : IPTableEntry) (rules : List IPTableEntry.Rule) :
    Quiet inv (insertRules entry rules) := by
  induction rules with
  | nil => exact keeps_pure _
  | cons rule rest ih =>
      refine keeps_bind (keeps_ite (fun _ => quiet_insertProtocols _ _ _)
        fun _ => quiet_insertCommand _) fun _ => ?_
      exact keeps_ite (fun _ => keeps_pure _) fun _ => ih

theorem quiet_applyRules (entry : IPTableEntry) : Quiet inv (applyRules entry) := by
  refine keeps_bind (quiet_insertRules _ _) fun _ =>
    keeps_ite (fun _ => keeps_pure _) fun _ => ?_
  exact keeps_bind (quiet_insertCommand _) fun _ =>
    keeps_ite (fun _ => keeps_pure _) fun _ => keeps_pure _

theorem quiet_function (job : Job) : Quiet inv (function job) := by
  cases job with
  | bringUpEthernet address netmask =>
      refine keeps_bind (quiet_step _) fun _ =>
        keeps_ite (fun _ => keeps_pure _) fun _ => ?_
      refine keeps_bind (quiet_step _) fun _ =>
        keeps_ite (fun _ => keeps_pure _) fun _ => ?_
      exact keeps_bind (quiet_step _) fun _ =>
        keeps_ite (fun _ => keeps_pure _) fun _ => keeps_pure _
  | setDefaultGateway gateway =>
      exact keeps_bind (quiet_step _) fun _ => keeps_pure _
  | applyRules entry =>
      exact keeps_bind (quiet_applyRules entry) fun _ => keeps_pure _
  | _ => exact quiet_step _

theorem quiet_entryFunction (job : Job) : Quiet inv (entryFunction job) := by
  refine keeps_bind (quiet_step _) fun _ => ?_
  refine keeps_bind (keeps_ite (fun _ => keeps_pure _) fun _ => quiet_function job)
    fun _ => ?_
  exact keeps_bind (quiet_step _) fun _ => keeps_pure _

theorem quiet_run {may : Fault → Prop} (job : Job) :
    Keeps inv Steady may (run job) :=
  keeps_bind (keeps_attempt (quiet_entryFunction job)) fun ended =>
    match ended with
    | .ok _ => keeps_pure _
    | .error _ => keeps_pure _

end Child

/-! The methods of the container. -/

namespace Container

variable {may : Fault → Prop}

abbrev Quiet (may : Fault → Prop) {α : Type} (method : Method α) : Prop :=
  ∀ state, Keeps (fun self => self.state = state) Steady may method

def AllowsLxc (allowed : Event Sys → Prop) : Prop :=
  ∀ id state (call : LxcCall) answer, call.isLifecycle = false →
    allowed ⟨.lxc id state call, answer⟩

theorem allowsLxc_steady : AllowsLxc Steady :=
  fun _ _ _ _ steady => steady

section

variable {allowed : Event Sys → Prop}

theorem keeps_lxc {inv : Container → Prop} {call : LxcCall} (allows : AllowsLxc allowed)
    (steady : call.isLifecycle = false) :
    Keeps inv allowed may (lxc call) :=
  keeps_get_bind fun _ _ => keeps_ask fun _ => allows _ _ _ _ steady

theorem keeps_waitForState {inv : Container → Prop} (allows : AllowsLxc allowed)
    (state : String) (timeout : Int) :
    Keeps inv allowed may (waitForState state timeout) :=
  keeps_bind (keeps_lxc allows rfl) fun _ => keeps_ite
    (fun _ => keeps_bind (keeps_lxc allows rfl) fun _ => keeps_pure _) fun _ => keeps_pure _

theorem keeps_ensureContainerRunning {inv : Container → Prop}
    (allows : AllowsLxc allowed) : Keeps inv allowed may ensureContainerRunning := by
  refine keeps_get_bind fun self _ => keeps_ite (fun _ => keeps_pure _) fun _ => ?_
  refine keeps_ite (fun _ => keeps_pure _) fun _ => ?_
  exact keeps_bind (keeps_lxc allows rfl) fun _ =>
    keeps_ite (fun _ => keeps_waitForState allows _ _) fun _ => keeps_pure _

theorem keeps_execute {inv : Container → Prop} (allows : AllowsLxc allowed)
    (function : Job) (pid : Int) (environment : EnvironmentVariables)
    (stdin stdout stderr : Int) :
    Keeps inv allowed may (execute function pid environment stdin stdout stderr) := by
  refine keeps_bind (keeps_ensureContainerRunning allows) fun _ =>
    keeps_ite (fun _ => keeps_pure _) fun _ => ?_
  refine keeps_get_bind fun self _ => keeps_bind (keeps_lxc allows rfl) fun attached => ?_
  exact match attached with
    | some _ => keeps_pure _
    | none => keeps_pure _

end

theorem steady_lxc {inv : Container → Prop} {call : LxcCall}
    (steady : call.isLifecycle = false) :
    Keeps inv Steady may (lxc call) :=
  keeps_lxc allowsLxc_steady steady

theorem quiet_toolkit {α : Type} {act : Toolkit α} (quiet : Toolkit.Quiet may act) :
    Quiet may (toolkit act) :=
  fun _ => keeps_zoom (fun _ _ => trivial) (fun _ _ same _ => same) quiet

theorem quiet_waitForState (state : String) (timeout : Int) :
    Quiet may (waitForState state timeout) :=
  fun _ => keeps_waitForState allowsLxc_steady state timeout

theorem quiet_ensureContainerRunning : Quiet may ensureContainerRunning :=
  fun _ => keeps_ensureContainerRunning allowsLxc_steady

theorem quiet_setCgroupItem (subsys value : String) :
    Quiet may (setCgroupItem subsys value) :=
  fun _ => steady_lxc rfl

theorem quiet_execute (function : Job) (pid : Int) (environment : EnvironmentVariables)
    (stdin stdout stderr : Int) :
    Quiet may (execute function pid environment stdin stdout stderr) :=
  fun _ => keeps_execute allowsLxc_steady function pid environment stdin stdout stderr

theorem quiet_runFunction (function : Job) (pid stdin stdout stderr : Int) :
    Quiet may (runFunction function pid stdin stdout stderr) := by
  intro value
  refine keeps_bind (quiet_execute _ _ _ _ _ _ value) fun _ => ?_
  refine keeps_bind (keeps_ite (fun _ => keeps_map (Child.quiet_run function))
    fun _ => keeps_pure _) fun _ => ?_
  exact keeps_bind (steady_sys rfl) fun _ => keeps_pure _

theorem quiet_executeSync (function : Job) (pid : Int) :
    Quiet may (executeSync function pid) :=
  fun value => keeps_bind (quiet_runFunction _ _ _ _ _ value) fun _ => keeps_pure _

theorem quiet_runFunctionJob (function : Job) : Quiet may (runFunctionJob function) :=
  quiet_runFunction _ _ _ _ _

theorem quiet_remountReadOnlyInContainer (path : String) :
    Quiet may (remountReadOnlyInContainer path) :=
  fun value => keeps_bind (quiet_executeSync _ _ value) fun _ => keeps_pure _

theorem quiet_moveMount
    (pathInContainer tempDirInContainer tempDirInContainerOnHost : String) :
    Quiet may (moveMount pathInContainer tempDirInContainer tempDirInContainerOnHost) := by
  intro value
  refine keeps_bind (quiet_executeSync _ _ value) fun _ =>
    keeps_ite (fun _ => keeps_pure _) fun _ => ?_
  refine keeps_bind (steady_sys rfl) fun _ => ?_
  refine keeps_bind (quiet_executeSync _ _ value) fun _ =>
    keeps_ite (fun _ => keeps_pure _) fun _ => ?_
  exact keeps_bind (quiet_executeSync _ _ value) fun _ => keeps_pure _

/-- A bind mount throws the program's own errors; looking at the first character of
an empty path is undefined. -/
def MountMay (pathInContainer : String) (error : Fault) : Prop :=
  error.isSoftwareContainerError = true ∨ pathInContainer = ""

theorem quiet_bindMountCore
    (pathInHost pathInContainer tempDirInContainerOnHost : String) (readonly : Bool) :
    Quiet (MountMay pathInContainer)
      (bindMountCore pathInHost pathInContainer tempDirInContainerOnHost readonly) := by
  intro value
  refine keeps_bind (quiet_ensureContainerRunning value) fun _ =>
    keeps_ite (fun _ => keeps_pure _) fun _ => ?_
  split
  · rename_i empty
    exact keeps_throw (.inr (by simpa using empty))
  · refine keeps_get_bind fun self _ => keeps_ite (fun _ => keeps_pure _) fun _ => ?_
    have mounted := quiet_toolkit (Toolkit.quiet_bindMount pathInHost
      tempDirInContainerOnHost self.containerRoot readonly self.writeBufferEnabled) value
    refine keeps_bind (mounted.weaken (fun _ steady => steady) fun _ => .inl) fun _ =>
      keeps_ite (fun _ => keeps_pure _) fun _ => ?_
    refine keeps_bind (keeps_ite (fun _ => quiet_moveMount _ _ _ value)
      fun _ => keeps_pure _) fun _ => keeps_ite (fun _ => keeps_pure _) fun _ => ?_
    exact keeps_ite (fun _ => quiet_remountReadOnlyInContainer _ value)
      fun _ => keeps_pure _

theorem quiet_createMountTarget (pathIsDirectory : Bool) (tempPath : String) :
    Quiet may (createMountTarget pathIsDirectory tempPath) := by
  intro value
  refine keeps_ite (fun _ => steady_sys rfl) fun _ => ?_
  exact keeps_bind (quiet_toolkit (Toolkit.quiet_pathInList _) value) fun _ =>
    keeps_ite (fun _ => keeps_pure _) fun _ => steady_sys rfl

theorem steady_cleanMount {σ : Type} {inv : σ → Prop} (path : String) :
    Keeps inv Steady may (Toolkit.cleanMount path) :=
  keeps_bind (steady_sys rfl) fun _ => keeps_ite (fun _ => keeps_pure _) fun _ => steady_sys rfl

theorem quiet_bindMountInContainer (pathInHost pathInContainer : String)
    (readOnly : Bool) :
    Quiet (MountMay pathInContainer)
      (bindMountInContainer pathInHost pathInContainer readOnly) := by
  intro value
  refine keeps_bind (steady_sys rfl) fun _ => keeps_ite (fun _ => keeps_pure _) fun _ => ?_
  refine keeps_bind (quiet_executeSync _ _ value) fun _ =>
    keeps_ite (fun _ => keeps_pure _) fun _ => ?_
  refine keeps_get_bind fun self _ => keeps_bind (steady_sys rfl) fun _ => ?_
  refine keeps_bind (quiet_createMountTarget _ _ value) fun _ =>
    keeps_ite (fun _ => keeps_pure _) fun _ => ?_
  refine keeps_bind (quiet_bindMountCore _ _ _ _ value) fun _ =>
    keeps_ite (fun _ => ?_) fun _ => ?_
  · exact keeps_bind (steady_cleanMount _) fun _ => keeps_pure _
  · exact keeps_bind (quiet_toolkit (Toolkit.quiet_addHandlers _) value)
      fun _ => keeps_pure _

theorem quiet_mountDevice (pathInHost : String) : Quiet may (mountDevice pathInHost) :=
  fun value => keeps_bind (quiet_ensureContainerRunning value) fun _ =>
    keeps_ite (fun _ => keeps_pure _) fun _ => steady_lxc rfl

theorem quiet_setEnvironmentVariable (var val : String) :
    Quiet may (setEnvironmentVariable var val) := by
  intro value
  refine keeps_get_bind fun _ _ => keeps_ite (fun _ => keeps_pure _) fun _ => ?_
  refine keeps_bind (keeps_modify fun _ same => same) fun _ => ?_
  refine keeps_get_bind fun self _ => ?_
  exact keeps_bind (quiet_toolkit (Toolkit.quiet_writeToFile _ _) value)
    fun _ => keeps_pure _

end Container

end SoftwareContainers
