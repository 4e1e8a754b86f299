import SoftwareContainers.Base.Number
import SoftwareContainers.Gateway.Hook
import SoftwareContainers.Network.Parser

namespace SoftwareContainers

open Effect Effect.Act Hook

/-! `class NetworkGateway`. -/

/-- `inet_pton` of one part of an IPv4 address. -/
def parseOctet (part : List Char) : Option Nat :=
  let value := Nat.ofDigitChars 10 part 0
  if part ≠ [] ∧ part.all Char.isDigit ∧ value ≤ 255 ∧
      (part.length = 1 ∨ part.head? ≠ some '0') then
    some value
  else
    none

/-- `inet_pton` for an IPv4 address, in host byte order. -/
def inetPton (text : String) : Option Nat := do
  match (← (text.toList.splitOn '.').mapM parseOctet) with
  | [a, b, c, d] => some (((a * 256 + b) * 256 + c) * 256 + d)
  | _ => none

/-- `NetworkGatewayFunctions::generateIP`, in 32-bit arithmetic and host byte order.
The text of the first error is a literal with the netmask as an offset into it. -/
def generateIP (netmask : Nat) (gatewayIP : String) (containerID : Int) :
    Except Fault Nat := do
  if netmask > 31 then
    throw .undefined
  else if netmask < 1 then
    throw (.ipAllocationError "inappropriate netmask : ")
  else
    let maskBits := 2 ^ (32 - netmask) - 1
    match inetPton gatewayIP with
    | none =>
        throw (.ipAllocationError
          (gatewayIP ++ " does not represent a valid network address"))
    | some internetAddress =>
        let generated := ((internetAddress + containerID + 1) % 2 ^ 32).toNat
        if internetAddress ||| maskBits < generated then
          throw (.ipAllocationError
            "There is no suitable IP address for this container.")
        else
          return generated

structure NetworkGateway where
  base : GatewayBase
  ip : Nat
  netmask : Nat
  gateway : String
  bridgeDevice : String
  entries : List IPTableEntry
  interfaceInitialized : Bool
  containerID : Int

namespace NetworkGateway

abbrev ID := "network"

def new (id : Int) (bridgeDevice gateway : String) (maskBits : Nat) :
    NetworkGateway where
  base := .new ID false
  ip := 0
  netmask := maskBits
  gateway := gateway
  bridgeDevice := bridgeDevice
  entries := []
  interfaceInitialized := false
  containerID := id

def readConfigElement (element : Json) : Hook NetworkGateway Bool := do
  match NetworkGatewayParser.parseNetworkGatewayConfiguration element .new with
  | .error error => throw error
  | .ok (false, _) => return false
  | .ok (true, entry) =>
      modifyGateway fun self => { self with entries := self.entries ++ [entry] }
      return true

/-- Only the address of the bridge decides. -/
def isBridgeAvailable : Hook NetworkGateway Bool := do
  let self ← getGateway
  let _ ← sys (.findLink self.bridgeDevice)
  let _ ← sys (.findAddresses self.bridgeDevice)
  sys (.hasAddress self.bridgeDevice self.gateway)

def setDefaultGateway : Hook NetworkGateway Bool := do
  let self ← getGateway
  let job ← onContainer (Container.runFunctionJob (.setDefaultGateway self.gateway))
  return job.exitStatus == 0

def up : Hook NetworkGateway Bool := do
  let self ← getGateway
  if self.interfaceInitialized then
    return true
  else
    let job ←
      onContainer (Container.runFunctionJob (.bringUpEthernet self.ip self.netmask))
    if job.exitStatus = Child.SUCCESS then
      modifyGateway fun self => { self with interfaceInitialized := true }
      setDefaultGateway
    else
      return false

/-- One job for each entry, up to the first that is seen to fail. -/
def applyEntries : List IPTableEntry → Hook NetworkGateway Bool
  | [] => return true
  | entry :: rest => do
      let job ← onContainer (Container.runFunctionJob (.applyRules entry))
      if job.exitStatus ≠ 0 then
        return false
      else
        applyEntries rest

def activateGateway : Hook NetworkGateway Bool := do
  let self ← getGateway
  if self.gateway = "" then
    return true
  else if !(← isBridgeAvailable) then
    return false
  else
    match generateIP self.netmask self.gateway self.containerID with
    | .error (.ipAllocationError _) => return false
    | .error error => throw error
    | .ok ip =>
        modifyGateway fun self => { self with ip }
        if !(← up) then
          return false
        else
          applyEntries self.entries

def hooks : GatewayHooks Sys NetworkGateway Container where
  base := ⟨base, fun base self => { self with base }, fun _ _ => rfl,
    fun _ _ _ => rfl⟩
  readConfigElement := readConfigElement
  activateGateway := activateGateway
  teardownGateway := nothingToTearDown

end NetworkGateway

end SoftwareContainers
