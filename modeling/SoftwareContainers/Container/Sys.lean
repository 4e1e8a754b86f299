import SoftwareContainers.Base.Fault
import SoftwareContainers.Base.Json
import SoftwareContainers.Effect.Contract
import SoftwareContainers.Network.IPTableEntry

namespace SoftwareContainers

open Effect Effect.Act

/-! The environment of the library: LXC, the kernel, glib's process functions, and
the processes started in a container. -/

abbrev EnvironmentVariables := Std.ExtTreeMap String String

namespace Container

/-- `Container::ContainerState`, in the order of the enumerator values. -/
inductive ContainerState where
  | default
  | prepared
  | destroyed
  | created
  | started
  | frozen
  deriving DecidableEq, Repr

def ContainerState.value : ContainerState → Nat
  | .default => 0
  | .prepared => 1
  | .destroyed => 2
  | .created => 3
  | .started => 4
  | .frozen => 5

end Container

/-- The functions the program runs in a container, by what they capture. -/
inductive Job where
  | command (arguments : List String) (workingDirectory : String)
  | checkMountpoint (path : String)
  | createParentDirectories (path : String)
  | touch (path : String)
  | moveMount (source target : String)
  | remountReadOnly (path : String)
  | chmod (name : String) (mode : Int)
  | bringUpEthernet (address netmask : Nat)
  | setDefaultGateway (gateway : String)
  | applyRules (entry : IPTableEntry)

inductive WaitStatus where
  | exited (code : Nat)
  | signaled
  deriving DecidableEq, Repr

/-- `WEXITSTATUS`: the bits of the exit code, which are 0 after a signal. -/
def WaitStatus.exitStatus : WaitStatus → Nat
  | .exited code => code % 256
  | .signaled => 0

/-- The members of `struct lxc_container` the program uses. -/
inductive LxcCall where
  | containerNew
  | isDefined
  | loadConfig (configFile : String)
  | create (template : String)
  | state
  | wait (state : String) (timeout : Int)
  | isRunning
  | start (arguments : List String)
  | initPid
  | attach (job : Job) (environment : List String) (stdin stdout stderr : Int)
  | stop
  | shutdown (timeout : Int)
  | destroy
  | freeze
  | unfreeze
  | setCgroupItem (subsys value : String)
  | addDeviceNode (path : String)
  | put

/-- `attach` answers the pid of the new process when it succeeds. -/
abbrev LxcCall.Answer : LxcCall → Type
  | .state => String
  | .initPid => Int
  | .attach .. => Option Int
  | .put => Unit
  | _ => Bool

inductive SpawnOutcome where
  | spawned (status : Int)
  | spawnError
  | shellError
  deriving DecidableEq, Repr

inductive ChildCall where
  | unlimitCoreDump
  | run (job : Job)
  | spawnCommandLine (command : String)
  | findLink (interface : String)
  | linkUp
  | setIP (address netmask : Nat)
  | setDefaultGateway (gateway : String)
  | exit (code : Int)

/-- `unlimitCoreDump` answers the error number, or 0. -/
abbrev ChildCall.Answer : ChildCall → Type
  | .unlimitCoreDump => Int
  | .run _ => Int
  | .spawnCommandLine _ => SpawnOutcome
  | .findLink _ | .linkUp | .setIP .. | .setDefaultGateway _ => Bool
  | .exit _ => Unit

/-- What a `write` to the standard input of dbus-proxy does. -/
inductive WriteOutcome where
  | whole
  | part
  | failed
  deriving DecidableEq, Repr

inductive SysCall where
  | lxc (container : String) (state : Container.ContainerState) (call : LxcCall)
  | child (call : ChildCall)
  | globalConfigItem (key : String)
  | setenv (name value : String)
  | getenv (name : String)
  | kill (pid : Int)
  | waitpid (pid : Int)
  | existsInFileSystem (path : String)
  | isDirectory (path : String)
  | isDirectoryEmpty (path : String)
  | createDirectory (path : String)
  | mkdtemp (template : String)
  | mount (source target fstype : String) (flags : List String) (data : String)
  | umount (path : String)
  | umount2 (path flag : String)
  | touch (path : String)
  | writeToFile (path content : String)
  | openFile (path : String)
  | access (path : String)
  | unlink (path : String)
  | close (fd : Int)
  | spawnSync (arguments : List String)
  | spawnAsyncWithPipes (arguments environment : List String)
  | writeConfig (fd : Int) (config : Json)
  | findLink (interface : String)
  | findAddresses (interface : String)
  | hasAddress (interface gateway : String)
  | indeterminateBool
  | errnoIsRange

/-- `waitpid` answers nothing when it fails, `spawnAsyncWithPipes` the pid and the
file descriptor of the standard input. -/
abbrev SysCall.Answer : SysCall → Type
  | .lxc _ _ call => call.Answer
  | .child call => Option call.Answer
  | .globalConfigItem _ => String
  | .setenv .. | .kill _ => Unit
  | .getenv _ => Option String
  | .waitpid _ => Option WaitStatus
  | .mkdtemp _ => Option String
  | .openFile _ => Int
  | .spawnSync _ => SpawnOutcome
  | .spawnAsyncWithPipes .. => Option (Int × Int)
  | .writeConfig .. => WriteOutcome
  | _ => Bool

abbrev Sys : Interface := ⟨SysCall, SysCall.Answer⟩

/-- An environment in which everything succeeds. -/
def fortunate : Oracle Sys
  | _, .lxc _ _ call => match call with
    | .state => "RUNNING"
    | .initPid => 1
    | .attach .. => some 1
    | .put => ⟨⟩
    | .isDefined | .wait .. => false
    | .containerNew | .loadConfig _ | .create _ | .isRunning | .start _ | .stop
    | .shutdown _ | .destroy | .freeze | .unfreeze | .setCgroupItem ..
    | .addDeviceNode _ => true
  | _, .child call => match call with
    | .unlimitCoreDump | .run _ => some 0
    | .spawnCommandLine _ => some (.spawned 0)
    | .findLink _ | .linkUp | .setIP .. | .setDefaultGateway _ => some true
    | .exit _ => some ⟨⟩
  | _, .globalConfigItem _ => "/var/lib/lxc"
  | _, .setenv .. | _, .kill _ => ⟨⟩
  | _, .getenv _ => some ""
  | _, .waitpid _ => some (.exited 0)
  | _, .mkdtemp template => some template
  | _, .openFile _ => 3
  | _, .spawnSync _ => .spawned 0
  | _, .spawnAsyncWithPipes .. => some (1, 3)
  | _, .writeConfig .. => .whole
  | _, .indeterminateBool | _, .errnoIsRange => false
  | _, .existsInFileSystem _ | _, .isDirectory _ | _, .isDirectoryEmpty _
  | _, .createDirectory _ | _, .mount .. | _, .umount _ | _, .umount2 .. | _, .touch _
  | _, .writeToFile .. | _, .access _ | _, .unlink _ | _, .close _ | _, .findLink _
  | _, .findAddresses _ | _, .hasAddress .. => true

abbrev sys {ε σ : Type} (call : SysCall) : Act Sys ε σ call.Answer :=
  ask (I := Sys) call

end SoftwareContainers
