import SoftwareContainers.Container.Sys

namespace SoftwareContainers

open Effect Effect.Act

/-! The processes that run a function in a container.  Whatever such a process asks
for, a signal may end it instead of an answer. -/

/-- The end of a process by a signal. -/
structure Killed where
  deriving DecidableEq, Repr

abbrev Child (σ : Type) := Act Sys Killed σ

namespace Child

variable {σ : Type}

def step (call : ChildCall) : Child σ call.Answer := do
  match ← sys (.child call) with
  | some answer => return answer
  | none => throw ⟨⟩

/-- `IPTableEntry::insertCommand`: the exit status of the command is not asked for. -/
def insertCommand (command : String) : Child σ Bool := do
  match ← step (.spawnCommandLine command) with
  | .spawned _ => return true
  | .spawnError => return false
  | .shellError => return false

def insertProtocols (entry : IPTableEntry) (rule : IPTableEntry.Rule) :
    List String → Child σ Bool
  | [] => return true
  | proto :: rest => do
      if !(← insertCommand (entry.interpretRuleWithProtocol rule proto)) then
        return false
      else
        insertProtocols entry rule rest

def insertRules (entry : IPTableEntry) : List IPTableEntry.Rule → Child σ Bool
  | [] => return true
  | rule :: rest => do
      let inserted ←
        (if rule.protocols.length ≠ 0 then insertProtocols entry rule rule.protocols
        else insertCommand (entry.interpretRule rule))
      if !inserted then
        return false
      else
        insertRules entry rest

def applyRules (entry : IPTableEntry) : Child σ Bool := do
  if !(← insertRules entry entry.rules) then
    return false
  else if !(← insertCommand entry.interpretPolicy) then
    return false
  else
    return true

/-! The functions of `NetworkGateway` and what they return. -/

abbrev FAILURE : Int := -1
abbrev SUCCESS : Int := 0
abbrev NO_LINK : Int := 1
abbrev BAD_LINKUP : Int := 2
abbrev BAD_SETIP : Int := 3

def bringUpEthernet (address netmask : Nat) : Child σ Int := do
  if !(← step (.findLink "eth0")) then
    return NO_LINK
  else if !(← step .linkUp) then
    return BAD_LINKUP
  else if !(← step (.setIP address netmask)) then
    return BAD_SETIP
  else
    return SUCCESS

def setDefaultGateway (gateway : String) : Child σ Int := do
  return if ← step (.setDefaultGateway gateway) then SUCCESS else FAILURE

/-- What a function returns.  Those that only touch the file system are the
environment's. -/
def function : Job → Child σ Int
  | .bringUpEthernet address netmask => bringUpEthernet address netmask
  | .setDefaultGateway gateway => setDefaultGateway gateway
  | .applyRules entry => do
      return if ← applyRules entry then SUCCESS else FAILURE
  | job => step (.run job)

/-- `executeInContainerEntryFunction`, up to the end of the process. -/
def entryFunction (job : Job) : Child σ Int := do
  let canCoreDump ← step .unlimitCoreDump
  let code ← (if canCoreDump ≠ 0 then pure canCoreDump else function job)
  step (.exit code)
  return code

def run (job : Job) : Act Sys Fault σ WaitStatus := do
  match ← (attempt (entryFunction job) : Act Sys Fault σ (Except Killed Int)) with
  | .ok code => return .exited (code % 256).toNat
  | .error _ => return .signaled

end Child

end SoftwareContainers
