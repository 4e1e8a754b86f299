import SoftwareContainers.Agent.Agent

namespace SoftwareContainers

open Effect Effect.Act

namespace SoftwareContainer

/-! The containers of the library, as the agent uses them. -/

/-- The members are destroyed in the reverse order, the gateways before the container. -/
def destructor : Method PUnit := do
  let _ ← zoom gatewaysLens (sweep destroyGateway)
  onContainer Container.destructor

/-- A job calls the container it runs in. -/
def startJob (shellParseArgv : String → Option (List String)) (job : CommandJob) :
    Method (Bool × Int) :=
  onContainer (Container.executeCommand shellParseArgv job.command job.pid job.env
    job.workingDirectory job.stdin job.stdout job.stderr)

/-- `shellParseArgv` is `Glib::shell_parse_argv`, without a result when it throws. -/
def containerClass (shellParseArgv : String → Option (List String)) :
    ContainerClass LibraryContainer where
  createContainer containerID config := construct containerID config
  startGateways gwConfig := startGateways AnyGateway.gatewayClass gwConfig
  previouslyConfigured self := self.previouslyConfigured
  createCommandJob command := .new <$> createCommandJob command
  startJob job := startJob shellParseArgv job
  bindMount pathOnHost pathInContainer readonly :=
    bindMount pathOnHost pathInContainer readonly
  suspend := suspend
  resume := resume
  shutdown timeout := shutdown timeout
  destructor := destructor

end SoftwareContainer

end SoftwareContainers
