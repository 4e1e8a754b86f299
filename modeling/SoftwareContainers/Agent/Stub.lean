import SoftwareContainers.Agent.Agent

namespace SoftwareContainers

open Effect Effect.Act

/-! The D-Bus stub of the agent, and the adaptor that calls the agent for it. -/

inductive Variant where
  | int32 (value : Int)
  | boolean (value : Bool)
  | string (value : String)
  | strings (value : List String)
  | stringMap (value : EnvironmentVariables)

namespace Variant

def int32? : Variant → Option Int
  | .int32 value => some value
  | _ => none

def boolean? : Variant → Option Bool
  | .boolean value => some value
  | _ => none

def string? : Variant → Option String
  | .string value => some value
  | _ => none

def strings? : Variant → Option (List String)
  | .strings value => some value
  | _ => none

def stringMap? : Variant → Option EnvironmentVariables
  | .stringMap value => some value
  | _ => none

end Variant

inductive Reply where
  | value (answer : SoftwareContainerAgent.Answer)
  | error (message : String)
  deriving DecidableEq

/-- The replies are what has been sent so far. -/
structure SoftwareContainerAgentAdaptor (κ : Type) where
  agent : SoftwareContainerAgent κ
  replies : List Reply

namespace SoftwareContainerAgentAdaptor

variable {κ α : Type}

abbrev Method (κ : Type) := Act Sys Fault (SoftwareContainerAgentAdaptor κ)

def agentLens : Lens (SoftwareContainerAgentAdaptor κ) (SoftwareContainerAgent κ) where
  get self := self.agent
  set agent self := { self with agent }
  get_set _ _ := rfl
  set_set _ _ _ := rfl

def returnValue (answer : SoftwareContainerAgent.Answer) : Method κ PUnit :=
  modify fun self => { self with replies := self.replies ++ [.value answer] }

def returnError (message : String) : Method κ PUnit :=
  modify fun self => { self with replies := self.replies ++ [.error message] }

/-! The methods of the adaptor.  Each calls one of the agent, and returns what it gets. -/

def forward (method : SoftwareContainerAgent.Method κ α)
    (answer : α → SoftwareContainerAgent.Answer) : Method κ PUnit := do
  returnValue (answer (← zoom agentLens method))

def list : Method κ PUnit :=
  forward SoftwareContainerAgent.listContainers .containerIDs

def listCapabilities : Method κ PUnit :=
  forward SoftwareContainerAgent.listCapabilities .capabilities

section

variable (cls : ContainerClass κ) (jsonLoads : String → Except String Json)

def create (config : String) : Method κ PUnit :=
  forward (SoftwareContainerAgent.createContainer cls jsonLoads config) .containerID

def execute (containerID : Int) (commandLine workingDirectory outputFile : String)
    (env : EnvironmentVariables) : Method κ PUnit :=
  forward (SoftwareContainerAgent.execute cls containerID commandLine workingDirectory
    outputFile env) .pid

def suspend (containerID : Int) : Method κ PUnit :=
  forward (SoftwareContainerAgent.suspendContainer cls containerID) fun _ => .none

def resume (containerID : Int) : Method κ PUnit :=
  forward (SoftwareContainerAgent.resumeContainer cls containerID) fun _ => .none

def destroy (containerID : Int) : Method κ PUnit :=
  forward (SoftwareContainerAgent.shutdownContainer cls containerID) fun _ => .none

def bindMount (containerID : Int) (pathInHost pathInContainer : String) (readOnly : Bool) :
    Method κ PUnit :=
  forward (SoftwareContainerAgent.bindMount cls containerID pathInHost pathInContainer
    readOnly) fun _ => .none

def setCapabilities (containerID : Int) (capabilities : List String) : Method κ PUnit :=
  forward (SoftwareContainerAgent.setCapabilities cls containerID capabilities)
    fun _ => .none

end

/-! The stub. -/

def getChild (parameters : List Variant) (index : Nat) : Method κ Variant :=
  match parameters[index]? with
  | none => throw .outOfRange
  | some child => return child

/-- A parameter of another type is not checked for. -/
def readChild (type : Variant → Option α) (parameters : List Variant) (index : Nat) :
    Method κ α := do
  match type (← getChild parameters index) with
  | none => throw .undefined
  | some value => return value

def whenCalled (methodName name : String) (call : Method κ PUnit) : Method κ PUnit :=
  if methodName = name then call else return ⟨⟩

section

variable (cls : ContainerClass κ) (jsonLoads : String → Except String Json)

def callMethod (methodName : String) (parameters : List Variant) : Method κ PUnit := do
  whenCalled methodName "List" list
  whenCalled methodName "Create" do
    let config ← readChild Variant.string? parameters 0
    create cls jsonLoads config
  whenCalled methodName "Execute" do
    let containerID ← readChild Variant.int32? parameters 0
    let commandLine ← readChild Variant.string? parameters 1
    let workingDirectory ← readChild Variant.string? parameters 2
    let outputFile ← readChild Variant.string? parameters 3
    let env ← readChild Variant.stringMap? parameters 4
    execute cls containerID commandLine workingDirectory outputFile env
  whenCalled methodName "Suspend" do
    let containerID ← readChild Variant.int32? parameters 0
    suspend cls containerID
  whenCalled methodName "Resume" do
    let containerID ← readChild Variant.int32? parameters 0
    resume cls containerID
  whenCalled methodName "Destroy" do
    let containerID ← readChild Variant.int32? parameters 0
    destroy cls containerID
  whenCalled methodName "BindMount" do
    let containerID ← readChild Variant.int32? parameters 0
    let pathInHost ← readChild Variant.string? parameters 1
    let pathInContainer ← readChild Variant.string? parameters 2
    let readOnly ← readChild Variant.boolean? parameters 3
    bindMount cls containerID pathInHost pathInContainer readOnly
  whenCalled methodName "ListCapabilities" listCapabilities
  whenCalled methodName "SetCapabilities" do
    let containerID ← readChild Variant.int32? parameters 0
    let capabilities ← readChild Variant.strings? parameters 1
    setCapabilities cls containerID capabilities

/-- Only the program's own errors are caught. -/
def onMethodCall (methodName : String) (parameters : List Variant) : Method κ PUnit :=
  tryCatch (callMethod cls jsonLoads methodName parameters) fun err =>
    if err.isSoftwareContainerError then
      returnError err.what
    else
      throw err

end

inductive Call where
  | list
  | create (config : String)
  | execute (containerID : Int) (commandLine workingDirectory outputFile : String)
      (env : EnvironmentVariables)
  | suspend (containerID : Int)
  | resume (containerID : Int)
  | destroy (containerID : Int)
  | bindMount (containerID : Int) (pathInHost pathInContainer : String) (readOnly : Bool)
  | listCapabilities
  | setCapabilities (containerID : Int) (capabilities : List String)

namespace Call

def methodName : Call → String
  | .list => "List"
  | .create _ => "Create"
  | .execute _ _ _ _ _ => "Execute"
  | .suspend _ => "Suspend"
  | .resume _ => "Resume"
  | .destroy _ => "Destroy"
  | .bindMount _ _ _ _ => "BindMount"
  | .listCapabilities => "ListCapabilities"
  | .setCapabilities _ _ => "SetCapabilities"

def parameters : Call → List Variant
  | .list | .listCapabilities => []
  | .create config => [.string config]
  | .execute containerID commandLine workingDirectory outputFile env =>
      [.int32 containerID, .string commandLine, .string workingDirectory, .string outputFile,
        .stringMap env]
  | .suspend containerID | .resume containerID | .destroy containerID => [.int32 containerID]
  | .bindMount containerID pathInHost pathInContainer readOnly =>
      [.int32 containerID, .string pathInHost, .string pathInContainer, .boolean readOnly]
  | .setCapabilities containerID capabilities => [.int32 containerID, .strings capabilities]

def operation : Call → SoftwareContainerAgent.Operation
  | .list => .listContainers
  | .create config => .createContainer config
  | .execute containerID commandLine workingDirectory outputFile env =>
      .execute containerID commandLine workingDirectory outputFile env
  | .suspend containerID => .suspendContainer containerID
  | .resume containerID => .resumeContainer containerID
  | .destroy containerID => .shutdownContainer containerID
  | .bindMount containerID pathInHost pathInContainer readOnly =>
      .bindMount containerID pathInHost pathInContainer readOnly
  | .listCapabilities => .listCapabilities
  | .setCapabilities containerID capabilities => .setCapabilities containerID capabilities

end Call

section

variable (cls : ContainerClass κ) (jsonLoads : String → Except String Json)

def handle (call : Call) : Method κ PUnit :=
  onMethodCall cls jsonLoads call.methodName call.parameters

theorem run_forward (method : SoftwareContainerAgent.Method κ α)
    (answer : α → SoftwareContainerAgent.Answer) (oracle : Oracle Sys)
    (world : World Sys (SoftwareContainerAgentAdaptor κ)) :
    (forward method answer).run oracle world =
      let ended := method.run oracle ⟨world.state.agent, world.history⟩
      (ended.1.map fun _ => ⟨⟩, ⟨⟨ended.2.state, match ended.1 with
        | .ok value => world.state.replies ++ [.value (answer value)]
        | .error _ => world.state.replies⟩, ended.2.history⟩) := by
  rw [forward, run_bind, run_zoom]
  dsimp only [agentLens]
  cases method.run oracle ⟨world.state.agent, world.history⟩ with
  | mk result after => cases result <;> rfl

theorem run_forward_map (method : SoftwareContainerAgent.Method κ α)
    (answer : α → SoftwareContainerAgent.Answer) (oracle : Oracle Sys)
    (world : World Sys (SoftwareContainerAgentAdaptor κ)) :
    (forward method answer).run oracle world =
      (forward (answer <$> method) id).run oracle world := by
  rw [run_forward, run_forward, run_map]
  dsimp only
  cases (method.run oracle ⟨world.state.agent, world.history⟩).1 <;> rfl

theorem run_last {call rest : Method κ PUnit}
    (nothing : ∀ oracle world, rest.run oracle world = (.ok ⟨⟩, world)) (oracle : Oracle Sys)
    (world : World Sys (SoftwareContainerAgentAdaptor κ)) :
    (do
      call
      rest : Method κ PUnit).run oracle world = call.run oracle world := by
  rw [run_bind]
  cases call.run oracle world with
  | mk result after =>
      cases result with
      | ok value => exact nothing oracle after
      | error error => rfl

theorem run_callMethod (call : Call) (oracle : Oracle Sys)
    (world : World Sys (SoftwareContainerAgentAdaptor κ)) :
    (callMethod cls jsonLoads call.methodName call.parameters).run oracle world =
      (forward (SoftwareContainerAgent.perform cls jsonLoads call.operation) id).run oracle
        world := by
  cases call with
  | setCapabilities containerID capabilities =>
      simp only [callMethod, whenCalled, Call.methodName, Call.parameters, Call.operation,
        readChild, getChild, String.reduceEq, ↓reduceIte, List.getElem?_cons_zero,
        List.getElem?_cons_succ, run_pure_bind]
      exact run_forward_map _ _ oracle world
  | _ =>
      simp only [callMethod, whenCalled, Call.methodName, Call.parameters, Call.operation,
        readChild, getChild, String.reduceEq, ↓reduceIte, List.getElem?_cons_zero,
        List.getElem?_cons_succ, run_pure_bind]
      exact (run_last (fun _ _ => rfl) oracle world).trans (run_forward_map _ _ oracle world)

/-- What is sent when the method of the agent has ended, if anything is. -/
def replyTo : Except Fault SoftwareContainerAgent.Answer → Option Reply
  | .ok answer => some (.value answer)
  | .error err => if err.isSoftwareContainerError then some (.error err.what) else none

theorem run_handle (call : Call) (oracle : Oracle Sys)
    (world : World Sys (SoftwareContainerAgentAdaptor κ)) :
    (handle cls jsonLoads call).run oracle world =
      let ended := (SoftwareContainerAgent.perform cls jsonLoads call.operation).run oracle
        ⟨world.state.agent, world.history⟩
      (if (replyTo ended.1).isSome then .ok ⟨⟩ else ended.1.map fun _ => ⟨⟩,
        ⟨⟨ended.2.state, world.state.replies ++ (replyTo ended.1).toList⟩,
          ended.2.history⟩) := by
  rw [handle, onMethodCall, run_tryCatch, run_callMethod, run_forward]
  dsimp only [id]
  cases (SoftwareContainerAgent.perform cls jsonLoads call.operation).run oracle
      ⟨world.state.agent, world.history⟩ with
  | mk result after =>
      cases result with
      | ok answer => rfl
      | error err =>
          cases caught : err.isSoftwareContainerError with
          | true => simp [replyTo, caught, returnError, Except.map]
          | false => simp [replyTo, caught, Except.map]

/-- Calls on the bus do to the agent what its operations do, and the replies are how these
have ended, in their order. -/
theorem runAll_handle (oracle : Oracle Sys) (calls : List Call)
    (world : World Sys (SoftwareContainerAgentAdaptor κ)) :
    runAll (handle cls jsonLoads) oracle calls world =
      let run := runAll (SoftwareContainerAgent.perform cls jsonLoads) oracle
        (calls.map Call.operation) ⟨world.state.agent, world.history⟩
      (run.1.map fun result =>
          if (replyTo result).isSome then .ok ⟨⟩ else result.map fun _ => ⟨⟩,
        ⟨⟨run.2.state, world.state.replies ++ run.1.filterMap replyTo⟩, run.2.history⟩) := by
  induction calls generalizing world with
  | nil => simp [runAll]
  | cons call rest ih =>
      rw [List.map_cons]
      dsimp only [runAll]
      rw [run_handle, ih]
      dsimp only
      generalize (SoftwareContainerAgent.perform cls jsonLoads call.operation).run oracle
        ⟨world.state.agent, world.history⟩ = ended
      rw [List.filterMap_cons, List.append_assoc]
      cases reply : replyTo ended.1 <;> simp [reply]

end

end SoftwareContainerAgentAdaptor

end SoftwareContainers
