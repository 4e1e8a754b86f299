import SoftwareContainers.Gateway.Hook

namespace SoftwareContainers

open Effect Effect.Act Hook

/-! `class Device`, the list of devices, and the gateway that mounts them. -/

structure Device where
  name : String
  mode : Int
  isConfigured : Bool
  deriving DecidableEq, Repr

namespace Device

def parse (element : Json) : Option Device := do
  let name ← JSONParser.readString element "name"
  let mode ←
    if JSONParser.hasKey element "mode" then JSONParser.readInt element "mode"
    else some (-1)
  return { name, mode, isConfigured := false }

def copy (device : Device) : Device := { device with isConfigured := false }

/-- For the owner, the group and the others, the larger of the two digits.  A sum that is no
`int` wraps around. -/
def combinedMode (appliedMode mode : Int) : Int :=
  let larger := fun applied stored : Int =>
    if applied ≥ stored then applied else stored
  toInt (larger (appliedMode.tdiv 100) (mode.tdiv 100) * 100 +
    larger ((appliedMode.tdiv 10).tmod 10) ((mode.tdiv 10).tmod 10) * 10 +
    larger (appliedMode.tmod 10) (mode.tmod 10))

def calculateDeviceMode (appliedMode : Int) (device : Device) : Device :=
  let modeResult :=
    if device.mode ≠ appliedMode then combinedMode appliedMode device.mode
    else device.mode
  if modeResult > device.mode then
    { device with isConfigured := false, mode := modeResult }
  else
    device

/-- Mount the device and set its mode; whether it is mounted, and the device. -/
def activate (device : Device) : Container.Method (Bool × Device) := do
  if device.isConfigured then
    return (true, device)
  else if !(← Container.mountDevice device.name) then
    return (false, device)
  else
    let isError ←
      (if device.mode ≠ -1 then do
        let job ← Container.runFunctionJob (.chmod device.name device.mode)
        return job.exitStatus != 0
      else
        return false)
    if isError then
      return (false, device)
    else
      return (true, { device with isConfigured := true })

end Device

/-- `DeviceNodeLogic::updateDeviceList`. -/
def updateDeviceList (device : Device) : List Device → List Device
  | [] => [device.copy]
  | first :: rest =>
      if first.name = device.name then
        first.calculateDeviceMode device.mode :: rest
      else
        first :: updateDeviceList device rest

structure DeviceNodeGateway where
  base : GatewayBase
  devices : List Device

namespace DeviceNodeGateway

abbrev ID := "devicenode"

def new : DeviceNodeGateway := ⟨.new ID true, []⟩

def readConfigElement (element : Json) : Hook DeviceNodeGateway Bool := do
  match Device.parse element with
  | none => return false
  | some device =>
      modifyGateway fun self =>
        { self with devices := updateDeviceList device self.devices }
      return true

/-- The loop over the devices; `done` are those it has passed. -/
def activateDevices (done : List Device) : List Device → Hook DeviceNodeGateway Bool
  | [] => return true
  | device :: rest => do
      let (activated, device) ← onContainer device.activate
      modifyGateway fun self => { self with devices := done ++ device :: rest }
      if !activated then
        return false
      else
        activateDevices (done ++ [device]) rest

def activateGateway : Hook DeviceNodeGateway Bool := do
  match (← getGateway).devices with
  | [] => return false
  | devices => activateDevices [] devices

def hooks : GatewayHooks Sys DeviceNodeGateway Container where
  base := ⟨base, fun base self => { self with base }, fun _ _ => rfl,
    fun _ _ _ => rfl⟩
  readConfigElement := readConfigElement
  activateGateway := activateGateway
  teardownGateway := nothingToTearDown

end DeviceNodeGateway

end SoftwareContainers
