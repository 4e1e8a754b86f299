import SoftwareContainers.Base.Number
import SoftwareContainers.Base.Text
import SoftwareContainers.Gateway.Hook

namespace SoftwareContainers

open Effect Effect.Act Hook

/-! `class CGroupsParser` and the gateway that applies its settings. -/

abbrev CgroupSettings := Std.ExtTreeMap String String

namespace CGroupsParser

/-- `errnoIsRange` tells whether `errno` is `ERANGE` before the conversion. -/
def convertToBytes (settingValue : String) (multiply : Int) (errnoIsRange : Bool) :
    Except Fault String := do
  let (limit, range) := strtoll settingValue
  if (limit = LLONG_MAX ∨ limit = LLONG_MIN) ∧ (range || errnoIsRange) then
    throw (.limitRangeError (settingValue ++ " is out of range"))
  else if limit > LLONG_MAX / multiply then
    throw (.limitRangeError
      (settingValue ++ " * " ++ toString multiply ++ " is out of range"))
  else if limit * multiply < LLONG_MIN then
    -- the multiplication overflows
    throw .undefined
  else
    return toString (limit * multiply)

def unitFactor (suffix : Char) : Option Int :=
  if suffix = 'K' ∨ suffix = 'k' then some 1024
  else if suffix = 'M' ∨ suffix = 'm' then some (1024 * 1024)
  else if suffix = 'G' ∨ suffix = 'g' then some (1024 * 1024 * 1024)
  else none

def suffixCorrection (settingValue : String) (errnoIsRange : Bool) :
    Except Fault String := do
  match settingValue.toList.getLast? with
  | none => throw .undefined
  | some suffix =>
      let removeUnit ← popBack settingValue
      if suffix.isDigit then
        return settingValue
      else
        match unitFactor suffix with
        | some factor => convertToBytes removeUnit factor errnoIsRange
        | none =>
            throw (.badSuffixError ("Bad suffix on setting value " ++ settingValue))

def storeMemoryLimit (settingKey settingValue : String) (errnoIsRange : Bool)
    (settings : CgroupSettings) : Except Fault CgroupSettings := do
  let settingValue ← suffixCorrection settingValue errnoIsRange
  match settings[settingKey]? with
  | none => return settings.insert settingKey settingValue
  | some stored =>
      if (← stoll stored) ≥ (← stoll settingValue) then
        return settings
      else
        return settings.insert settingKey settingValue

def storeCpuShares (settingKey settingValue : String) (settings : CgroupSettings) :
    Except Fault CgroupSettings := do
  match stoi settingValue with
  | .error .outOfRange =>
      throw (.invalidInputError "The value for cpu.shares is too high")
  | .error _ =>
      throw (.invalidInputError "The value for cpu.shares is not an integer")
  | .ok newValue =>
      if newValue < 2 then
        throw (.invalidInputError "Value of cpu.shares must be at least 2")
      else
        match settings[settingKey]? with
        | none => return settings.insert settingKey (toString newValue)
        | some stored =>
            if (← stoi stored) ≥ newValue then
              return settings
            else
              return settings.insert settingKey (toString newValue)

def storeClassId (settingKey settingValue : String) (settings : CgroupSettings) :
    Except Fault CgroupSettings := do
  if !settingValue.startsWith "0x" || settingValue.utf8ByteSize > 10
      || settingValue.utf8ByteSize < 7 then
    throw (.invalidInputError "net_cls.classid should be of form 0xAAAABBBB")
  else
    let (hexedValue, whole) := strtoulHex settingValue
    if hexedValue = 0 ∨ hexedValue = 2 ^ 64 - 1 ∨ whole = false then
      throw (.invalidInputError
        "Could not parse all of net_cls.classid value as hex string")
    else
      return settings.insert settingKey settingValue

def parseCGroupsGatewayConfiguration (element : Json) (errnoIsRange : Bool)
    (settings : CgroupSettings) : Except Fault CgroupSettings := do
  match JSONParser.readString element "setting" with
  | none =>
      throw (.jSonError
        "Key \"setting\" either not a string or not in json configuration")
  | some settingKey =>
      match JSONParser.readString element "value" with
      | none =>
          throw (.jSonError
            "Key \"value\" either not a string or not in json configuration")
      | some settingValue =>
          if settingKey = "memory.limit_in_bytes" ∨
              settingKey = "memory.memsw.limit_in_bytes" then
            storeMemoryLimit settingKey settingValue errnoIsRange settings
          else if settingKey = "cpu.shares" then
            storeCpuShares settingKey settingValue settings
          else if settingKey = "net_cls.classid" then
            storeClassId settingKey settingValue settings
          else
            return settings.insert settingKey settingValue

end CGroupsParser

structure CgroupsGateway where
  base : GatewayBase
  settings : CgroupSettings

namespace CgroupsGateway

abbrev ID := "cgroups"

def new : CgroupsGateway := ⟨.new ID false, ∅⟩

/-- Only the parser's own errors are caught. -/
def readConfigElement (element : Json) : Hook CgroupsGateway Bool := do
  let errnoIsRange ← sys .errnoIsRange
  let self ← getGateway
  match CGroupsParser.parseCGroupsGatewayConfiguration element errnoIsRange
      self.settings with
  | .ok settings =>
      modifyGateway fun self => { self with settings }
      return true
  | .error error =>
      if error.isCgroupsGatewayError then return false
      else throw error

/-- True only if there is a setting and every setting is applied. -/
def setItems : List (String × String) → Bool → Hook CgroupsGateway Bool
  | [], success => return success
  | (subsys, value) :: rest, _ => do
      if !(← onContainer (Container.setCgroupItem subsys value)) then
        return false
      else
        setItems rest true

def activateGateway : Hook CgroupsGateway Bool := do
  setItems (← getGateway).settings.toList false

def hooks : GatewayHooks Sys CgroupsGateway Container where
  base := ⟨base, fun base self => { self with base }, fun _ _ => rfl,
    fun _ _ _ => rfl⟩
  readConfigElement := readConfigElement
  activateGateway := activateGateway
  teardownGateway := nothingToTearDown

end CgroupsGateway

end SoftwareContainers
