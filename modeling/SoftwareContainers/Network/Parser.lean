import SoftwareContainers.Base.Json
import SoftwareContainers.Network.IPTableEntry

namespace SoftwareContainers

open IPTableEntry

/-! `class NetworkGatewayParser`.  A result parameter is returned next to the
return value, as the function leaves it. -/

namespace NetworkGatewayParser

/-- The loop over a list of ports; `none` at an entry that is not an integer. -/
def appendPorts : List Json → String → Option String
  | [], portList => some portList
  | .integer val :: rest, portList =>
      appendPorts rest (portList ++ toString (toInt val) ++ ",")
  | _ :: _, _ => none

def parsePort (element : Json) (ports : PortFilter) :
    Except Fault (Bool × PortFilter) :=
  match element with
  | .integer port => return (true, ⟨true, false, toString port⟩)
  | .string portRange => return (true, ⟨true, true, portRange⟩)
  | .array entries =>
      match appendPorts entries "" with
      | none => return (false, ports)
      | some portList => return (true, ⟨true, true, ← popBack portList⟩)
  | _ => return (false, ports)

def isProtocolValid (protocol : String) : Bool :=
  protocol == "tcp" || protocol == "udp" || protocol == "icmp"

/-- The loop over a list of protocols keeps those before the one it fails at. -/
def appendProtocols : List Json → List String → Bool × List String
  | [], proto => (true, proto)
  | .string protocol :: rest, proto =>
      if isProtocolValid protocol then appendProtocols rest (proto ++ [protocol])
      else (false, proto)
  | _ :: _, proto => (false, proto)

def parseProtocol (element : Json) (proto : List String) : Bool × List String :=
  match element with
  | .string protocol =>
      if isProtocolValid protocol then (true, proto ++ [protocol])
      else (false, proto)
  | .array entries => appendProtocols entries proto
  | _ => (false, proto)

/-- The ports of a rule; what `parsePort` returns is not looked at. -/
def rulePorts (element : Json) : Except Fault PortFilter :=
  match element.objectGet "ports" with
  | none => return .new
  | some ports => do
      let (_, filter) ← parsePort ports .new
      return filter

/-- The protocols of a rule; what `parseProtocol` returns is not looked at. -/
def ruleProtocols (element : Json) : List String :=
  match element.objectGet "protocols" with
  | none => []
  | some protocols => (parseProtocol protocols []).2

def parseRule (element : Json) (rules : List Rule) :
    Except Fault (Bool × List Rule) := do
  match JSONParser.readString element "host" with
  | none => return (false, rules)
  | some host =>
      let ports ← rulePorts element
      let protocols := ruleProtocols element
      return (true, rules ++ [{ host, protocols, ports, target := .accept }])

def parseRules : List Json → List Rule → Except Fault (Bool × List Rule)
  | [], rules => return (true, rules)
  | val :: rest, rules => do
      if val.isObject then
        let (parsed, rules) ← parseRule val rules
        if !parsed then
          return (false, rules)
        else
          parseRules rest rules
      else
        return (false, rules)

/-- The chain a direction stands for. -/
def chainType (chain : String) : Option String :=
  if chain = "INCOMING" then some "INPUT"
  else if chain = "OUTGOING" then some "OUTPUT"
  else none

def parseNetworkGatewayConfiguration (element : Json) (e : IPTableEntry) :
    Except Fault (Bool × IPTableEntry) := do
  match JSONParser.readString element "direction" with
  | none => return (false, e)
  | some chain =>
      let e := { e with defaultTarget := .drop }
      match chainType chain with
      | none => return (false, e)
      | some type =>
          let e := { e with type }
          match element.objectGet "allow" with
          | some (.array rules) =>
              let (parsed, rules) ← parseRules rules e.rules
              return (parsed, { e with rules })
          | _ => return (false, e)

end NetworkGatewayParser

end SoftwareContainers
