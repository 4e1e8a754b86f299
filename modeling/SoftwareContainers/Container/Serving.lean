import SoftwareContainers.Container.BindMounts

namespace SoftwareContainers

open Effect Effect.Act

/-! What is asked of LXC by all that is no step of the life of a container: only what needs
a running container. -/

def LxcCall.needsRunning : LxcCall → Bool
  | .state | .wait .. | .isRunning | .attach .. | .setCgroupItem .. | .addDeviceNode _ => true
  | _ => false

def SysCall.isSystem : SysCall → Bool
  | .lxc .. | .child (.setIP ..) => false
  | _ => true

def Job.isSystem : Job → Bool
  | .bringUpEthernet .. => false
  | _ => true

/-- What a container throws once it has been constructed: of the class `SoftwareContainerError`
itself, these. -/
def Fault.OfContainer : Fault → Prop
  | .softwareContainerError message =>
      message = "Failed to create directory from template: " ∨
        message = "Could not suspend the container." ∨
        message = "Could not resume the container."
  | _ => True

def AllowsSystem (allowed : Event Sys → Prop) : Prop :=
  ∀ (call : SysCall) answer, call.isSystem = true → allowed ⟨call, answer⟩

theorem AllowsSystem.asked {allowed : Event Sys → Prop} (system : AllowsSystem allowed)
    {job : Job} (isSystem : job.isSystem = true) :
    ∀ event, job.Asks event → allowed event := by
  rintro ⟨_, answer⟩ ⟨call, member, rfl⟩
  refine system _ answer ?_
  cases job with
  | bringUpEthernet => cases isSystem
  | applyRules entry =>
      obtain ⟨command, _, rfl⟩ := List.mem_map.mp member
      rfl
  | _ =>
      cases List.mem_singleton.mp member
      rfl

section

variable {allowed : Event Sys → Prop} (system : AllowsSystem allowed)

include system

theorem AllowsSystem.keeps {σ ε : Type} {inv : σ → Prop} {may : ε → Prop} {call : SysCall}
    (isSystem : call.isSystem = true) :
    Keeps inv allowed may (sys call : Act Sys ε σ call.Answer) :=
  keeps_ask fun answer => system call answer isSystem

namespace Toolkit

abbrev Bare (allowed : Event Sys → Prop) {α : Type} (act : Toolkit α) : Prop :=
  Keeps (fun _ => True) allowed Fault.OfContainer act

omit system in
theorem bare_addHandlers (handlers : List CleanUpHandler) :
    Bare allowed (addHandlers handlers) :=
  keeps_modify fun _ _ => trivial

omit system in
theorem bare_pathInList (path : String) : Bare allowed (pathInList path) :=
  keeps_get_bind fun _ _ => keeps_pure _

theorem bare_createTempDirectory (template : String) :
    Bare allowed (createTempDirectory template) :=
  keeps_bind (system.keeps rfl) fun made =>
    match made with
    | some _ => keeps_pure _
    | none => keeps_throw (.inl rfl)

theorem bare_firstBindMount (src dst tmpContainerRoot : String) (writeBufferEnabled : Bool) :
    Bare allowed (firstBindMount src dst tmpContainerRoot writeBufferEnabled) := by
  refine keeps_bind (keeps_ite (fun _ => system.keeps rfl) fun _ => keeps_pure _)
    fun overlay => keeps_ite (fun _ => ?_) fun _ => system.keeps rfl
  exact keeps_bind (bare_createTempDirectory system _) fun upperDir =>
    keeps_bind (bare_createTempDirectory system _) fun workDir => system.keeps rfl

theorem bare_bindMount (src dst tmpContainerRoot : String) (readOnly writeBufferEnabled : Bool) :
    Bare allowed (bindMount src dst tmpContainerRoot readOnly writeBufferEnabled) := by
  refine keeps_bind (system.keeps rfl) fun srcExists =>
    keeps_ite (fun _ => keeps_pure _) fun _ => ?_
  refine keeps_bind (system.keeps rfl) fun dstExists =>
    keeps_ite (fun _ => keeps_pure _) fun _ => ?_
  refine keeps_bind (bare_firstBindMount system _ _ _ _) fun mounted =>
    keeps_ite (fun _ => keeps_pure _) fun _ => ?_
  exact keeps_ite (fun _ => system.keeps rfl) fun _ => keeps_pure _

theorem bare_createDirectories (directories : List String) :
    Bare allowed (createDirectories directories) := by
  induction directories with
  | nil => exact keeps_pure _
  | cons path rest ih =>
      exact keeps_bind (system.keeps rfl) fun _ =>
        keeps_ite (fun _ => keeps_pure _) fun _ => ih

theorem bare_overlayMount (lower upper work dst : String) :
    Bare allowed (overlayMount lower upper work dst) := by
  refine keeps_bind (bare_createDirectories system _) fun _ =>
    keeps_ite (fun _ => keeps_pure _) fun _ => ?_
  exact keeps_bind (system.keeps rfl) fun _ => keeps_ite (fun _ => keeps_pure _) fun _ =>
    keeps_bind (bare_addHandlers _) fun _ => keeps_pure _

theorem bare_tmpfsMount (dst : String) (maxSize : Int) :
    Bare allowed (tmpfsMount dst maxSize) := by
  refine keeps_bind (system.keeps rfl) fun _ => keeps_ite (fun _ => keeps_pure _) fun _ => ?_
  exact keeps_bind (system.keeps rfl) fun _ => keeps_ite (fun _ => keeps_pure _) fun _ =>
    keeps_bind (bare_addHandlers _) fun _ => keeps_pure _

theorem bare_createSharedMountPoint (path : String) :
    Bare allowed (createSharedMountPoint path) := by
  refine keeps_bind (system.keeps rfl) fun _ => keeps_ite (fun _ => keeps_pure _) fun _ => ?_
  refine keeps_bind (system.keeps rfl) fun _ => keeps_ite (fun _ => keeps_pure _) fun _ => ?_
  exact keeps_bind (system.keeps rfl) fun _ => keeps_ite (fun _ => keeps_pure _) fun _ =>
    keeps_bind (bare_addHandlers _) fun _ => keeps_pure _

theorem bare_writeToFile (path content : String) :
    Bare allowed (writeToFile path content) := by
  refine keeps_bind (system.keeps rfl) fun _ => keeps_ite (fun _ => keeps_pure _) fun _ => ?_
  refine keeps_bind (bare_pathInList path) fun _ => keeps_ite (fun _ => keeps_pure _) fun _ => ?_
  exact keeps_bind (bare_addHandlers _) fun _ => keeps_pure _

end Toolkit

end

namespace Container

/-- What holds of a container whatever its gateways and jobs do to it, and the events that
are allowed as long as it does. -/
structure Serves (inv : Container → Prop) (allowed : Event Sys → Prop) : Prop where
  system : AllowsSystem allowed
  running : ∀ self, inv self → self.state = .started → ∀ (call : LxcCall) answer,
    call.needsRunning = true → allowed ⟨.lxc self.id self.state call, answer⟩
  handlers : ∀ self cleanupHandlers, inv self → inv { self with cleanupHandlers }
  environment : ∀ self gatewayEnvironmentVariables, inv self →
    inv { self with gatewayEnvironmentVariables }

abbrev Usable (inv : Container → Prop) (allowed : Event Sys → Prop) : Prop :=
  ∀ self, inv self → ∀ (call : LxcCall) answer, call.needsRunning = true →
    allowed ⟨.lxc self.id self.state call, answer⟩

abbrev Serving (inv : Container → Prop) (allowed : Event Sys → Prop) {α : Type}
    (method : Method α) : Prop :=
  Keeps inv allowed Fault.OfContainer method

variable {inv : Container → Prop} {allowed : Event Sys → Prop}

theorem Serves.whileRunning (serves : Serves inv allowed) :
    Serves (fun self => inv self ∧ self.state = .started) allowed where
  system := serves.system
  running self holds := serves.running self holds.1
  handlers self handlers holds := ⟨serves.handlers self handlers holds.1, holds.2⟩
  environment self environment holds := ⟨serves.environment self environment holds.1, holds.2⟩

theorem serving_lxc {call : LxcCall} (usable : Usable inv allowed)
    (needs : call.needsRunning = true) : Serving inv allowed (lxc call) :=
  keeps_get_bind fun self holds => keeps_ask fun answer => usable self holds call answer needs

theorem serving_ensureRunning (usable : Usable inv allowed) :
    Serving inv allowed ensureContainerRunning := by
  refine keeps_get_bind fun self _ => keeps_ite (fun _ => keeps_pure _) fun _ => ?_
  refine keeps_ite (fun _ => keeps_pure _) fun _ => ?_
  refine keeps_bind (serving_lxc usable rfl) fun _ =>
    keeps_ite (fun _ => ?_) fun _ => keeps_pure _
  refine keeps_bind (serving_lxc usable rfl) fun _ =>
    keeps_ite (fun _ => ?_) fun _ => keeps_pure _
  exact keeps_bind (serving_lxc usable rfl) fun _ => keeps_pure _

variable (serves : Serves inv allowed)

include serves

theorem Serves.usable (running : ∀ self, inv self → self.state = .started) :
    Usable inv allowed :=
  fun self holds => serves.running self holds (running self holds)

theorem serving_toolkit {α : Type} {act : Toolkit α} (bare : Toolkit.Bare allowed act) :
    Serving inv allowed (toolkit act) :=
  keeps_zoom (fun _ _ => trivial) (fun self _ holds _ => serves.handlers self _ holds) bare

omit serves in
theorem run_ensureContainerRunning_of_not_started {self : Container}
    (notStarted : self.state ≠ .started) (oracle : Oracle Sys) (history : History Sys) :
    ensureContainerRunning.run oracle ⟨self, history⟩ = (.ok false, ⟨self, history⟩) := by
  rw [ensureContainerRunning, run_get_bind]
  cases state : self.state with
  | started => exact absurd state notStarted
  | _ => simp [ContainerState.value]

theorem serving_ensureRunning_bind {α : Type} {next : Bool → Method α} {value : α}
    (stopped : next false = pure value)
    (whenRunning : Serving (fun self => inv self ∧ self.state = .started) allowed (next true)) :
    Serving inv allowed (ensureContainerRunning >>= next) := by
  intro oracle ⟨self, history⟩ holds
  by_cases started : self.state = .started
  · have both : Serving (fun self => inv self ∧ self.state = .started) allowed
        (ensureContainerRunning >>= next) := by
      refine keeps_bind (serving_ensureRunning
        (serves.whileRunning.usable fun _ holds => holds.2))
        fun answer => ?_
      cases answer with
      | true => exact whenRunning
      | false =>
          rw [stopped]
          exact keeps_pure value
    obtain ⟨after, recorded, thrown⟩ := both oracle ⟨self, history⟩ ⟨holds, started⟩
    exact ⟨after.1, recorded, thrown⟩
  · rw [run_bind_ok (run_ensureContainerRunning_of_not_started started oracle history), stopped]
    exact keeps_pure value oracle ⟨self, history⟩ holds

theorem serving_execute (function : Job) (pid : Int) (environment : EnvironmentVariables)
    (stdin stdout stderr : Int) :
    Serving inv allowed (execute function pid environment stdin stdout stderr) := by
  refine serving_ensureRunning_bind serves rfl (keeps_get_bind fun self _ => ?_)
  refine keeps_bind (serving_lxc (serves.whileRunning.usable fun _ holds => holds.2) rfl)
    fun attached => ?_
  exact match attached with
    | some _ => keeps_pure _
    | none => keeps_pure _

theorem serving_executeCommand (shellParseArgv : String → Option (List String))
    (commandLine : String) (pid : Int) (environment : EnvironmentVariables)
    (workingDirectory : String) (stdin stdout stderr : Int) :
    Serving inv allowed (executeCommand shellParseArgv commandLine pid environment
      workingDirectory stdin stdout stderr) := by
  refine serving_ensureRunning_bind serves rfl ?_
  cases shellParseArgv commandLine with
  | none => exact keeps_throw trivial
  | some arguments => exact serving_execute serves.whileRunning _ _ _ _ _ _

theorem serving_runFunction {function : Job}
    (asked : ∀ event, function.Asks event → allowed event) (pid stdin stdout stderr : Int) :
    Serving inv allowed (runFunction function pid stdin stdout stderr) := by
  refine keeps_bind (serving_execute serves _ _ _ _ _ _) fun started => ?_
  refine keeps_bind (keeps_ite (fun _ => keeps_map (Child.keeps_run ?_ ?_ asked))
    fun _ => keeps_pure _) fun fate => ?_
  · exact fun error => serves.system (.child .unlimitCoreDump) error rfl
  · exact fun code answer => serves.system (.child (.exit code)) answer rfl
  · exact keeps_bind (serves.system.keeps rfl) fun _ => keeps_pure _

theorem serving_executeSync {function : Job} (isSystem : function.isSystem = true) (pid : Int) :
    Serving inv allowed (executeSync function pid) :=
  keeps_bind (serving_runFunction serves (serves.system.asked isSystem) _ _ _ _)
    fun _ => keeps_pure _

theorem serving_runFunctionJob {function : Job}
    (asked : ∀ event, function.Asks event → allowed event) :
    Serving inv allowed (runFunctionJob function) :=
  serving_runFunction serves asked _ _ _ _

theorem serving_moveMount
    (pathInContainer tempDirInContainer tempDirInContainerOnHost : String) :
    Serving inv allowed
      (moveMount pathInContainer tempDirInContainer tempDirInContainerOnHost) := by
  refine keeps_bind (serving_executeSync serves rfl _) fun _ =>
    keeps_ite (fun _ => keeps_pure _) fun _ => ?_
  refine keeps_bind (serves.system.keeps rfl) fun pathIsDirectory => ?_
  refine keeps_bind (serving_executeSync serves (by cases pathIsDirectory <;> rfl) _) fun _ =>
    keeps_ite (fun _ => keeps_pure _) fun _ => ?_
  exact keeps_bind (serving_executeSync serves rfl _) fun _ => keeps_pure _

theorem serving_bindMountCore (pathInHost pathInContainer tempDirInContainerOnHost : String)
    (readonly : Bool) : Serving inv allowed
      (bindMountCore pathInHost pathInContainer tempDirInContainerOnHost readonly) := by
  refine serving_ensureRunning_bind serves rfl ?_
  have running := serves.whileRunning
  dsimp only
  rw [if_neg (by decide)]
  split
  · exact keeps_throw trivial
  · refine keeps_get_bind fun self _ => keeps_ite (fun _ => keeps_pure _) fun _ => ?_
    refine keeps_bind (serving_toolkit running (Toolkit.bare_bindMount serves.system _ _ _ _ _))
      fun _ => keeps_ite (fun _ => keeps_pure _) fun _ => ?_
    refine keeps_bind (keeps_ite (fun _ => serving_moveMount running _ _ _)
      fun _ => keeps_pure _) fun _ => keeps_ite (fun _ => keeps_pure _) fun _ => ?_
    exact keeps_ite (fun _ => keeps_bind (serving_executeSync running rfl _)
      fun _ => keeps_pure _) fun _ => keeps_pure _

theorem serving_bindMountInContainer (pathInHost pathInContainer : String) (readOnly : Bool) :
    Serving inv allowed (bindMountInContainer pathInHost pathInContainer readOnly) := by
  refine keeps_bind (serves.system.keeps rfl) fun _ =>
    keeps_ite (fun _ => keeps_pure _) fun _ => ?_
  refine keeps_bind (serving_executeSync serves rfl _) fun _ =>
    keeps_ite (fun _ => keeps_pure _) fun _ => ?_
  refine keeps_get_bind fun self _ => keeps_bind (serves.system.keeps rfl)
    fun pathIsDirectory => ?_
  refine keeps_bind (keeps_ite (fun _ => serves.system.keeps rfl) fun _ => ?_)
    fun created => keeps_ite (fun _ => keeps_pure _) fun _ => ?_
  · exact keeps_bind (serving_toolkit serves (Toolkit.bare_pathInList _)) fun _ =>
      keeps_ite (fun _ => keeps_pure _) fun _ => serves.system.keeps rfl
  · refine keeps_bind (serving_bindMountCore serves _ _ _ _) fun mounted =>
      keeps_ite (fun _ => ?_) fun _ => ?_
    · refine keeps_bind (keeps_bind (serves.system.keeps rfl) fun _ => ?_)
        fun _ => keeps_pure _
      exact keeps_ite (fun _ => keeps_pure _) fun _ => serves.system.keeps rfl
    · exact keeps_bind (serving_toolkit serves (Toolkit.bare_addHandlers _))
        fun _ => keeps_pure _

theorem serving_mountDevice (pathInHost : String) :
    Serving inv allowed (mountDevice pathInHost) :=
  serving_ensureRunning_bind serves rfl
    (serving_lxc (serves.whileRunning.usable fun _ holds => holds.2) rfl)

theorem serving_setEnvironmentVariable (var val : String) :
    Serving inv allowed (setEnvironmentVariable var val) := by
  refine keeps_get_bind fun _ _ => keeps_ite (fun _ => keeps_pure _) fun _ => ?_
  refine keeps_bind (keeps_modify fun self holds => serves.environment self _ holds)
    fun _ => keeps_get_bind fun self _ => ?_
  exact keeps_bind (serving_toolkit serves (Toolkit.bare_writeToFile serves.system _ _))
    fun _ => keeps_pure _

end Container

end SoftwareContainers
