import SoftwareContainers.Base.Text

namespace SoftwareContainers

/-! `class IPTableEntry`: rules for one chain, and the commands they become. -/

namespace IPTableEntry

inductive Target where
  | invalidTarget
  | accept
  | drop
  | reject
  deriving DecidableEq, Repr

def convertTarget : Target → String
  | .accept => "ACCEPT"
  | .drop => "DROP"
  | .reject => "REJECT"
  | .invalidTarget => "INVALID"

structure PortFilter where
  any : Bool
  multiport : Bool
  ports : String
  deriving DecidableEq, Repr

def PortFilter.new : PortFilter := ⟨false, false, ""⟩

structure Rule where
  host : String
  protocols : List String
  ports : PortFilter
  target : Target
  deriving DecidableEq, Repr

end IPTableEntry

structure IPTableEntry where
  type : String
  rules : List IPTableEntry.Rule
  defaultTarget : IPTableEntry.Target
  deriving DecidableEq, Repr

namespace IPTableEntry

def new : IPTableEntry := ⟨"", [], .drop⟩

def interpretHost (type host : String) : String :=
  if host ≠ "" ∧ host ≠ "*" then
    (if type = "INPUT" then " -s " else " -d ") ++ host
  else ""

/-- The option for the ports of the rule: sources for `INPUT`, destinations
otherwise. -/
def interpretPorts (type : String) (ports : PortFilter) : String :=
  (if type = "INPUT" then "--sport" else "--dport") ++
    (if ports.multiport then "s " else " ") ++ ports.ports

def interpretRuleWithProtocol (entry : IPTableEntry) (rule : Rule)
    (protocol : String) : String :=
  "iptables -A " ++ entry.type ++ interpretHost entry.type rule.host ++
    (if rule.ports.any then
      if rule.ports.multiport then
        " -p " ++ protocol ++ " --match multiport " ++
          interpretPorts entry.type rule.ports
      else
        " -p " ++ protocol ++ " " ++ interpretPorts entry.type rule.ports
    else
      " -p " ++ protocol) ++
    " -j " ++ convertTarget rule.target

def interpretRule (entry : IPTableEntry) (rule : Rule) : String :=
  "iptables -A " ++ entry.type ++ interpretHost entry.type rule.host ++
    (if rule.ports.any then
      if rule.ports.multiport then
        " -p all --match multiport " ++ interpretPorts entry.type rule.ports
      else
        " -p tcp " ++ interpretPorts entry.type rule.ports
    else "") ++
    " -j " ++ convertTarget rule.target

/-- Any other default target gives an empty command. -/
def interpretPolicy (entry : IPTableEntry) : String :=
  if entry.defaultTarget ≠ .accept ∧ entry.defaultTarget ≠ .drop then ""
  else "iptables -P " ++ entry.type ++ " " ++ convertTarget entry.defaultTarget

end IPTableEntry

end SoftwareContainers
