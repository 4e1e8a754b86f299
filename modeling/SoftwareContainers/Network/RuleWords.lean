import SoftwareContainers.Base.Shell
import SoftwareContainers.Network.IPTableEntry

namespace SoftwareContainers.IPTableEntry

/-! The words a generated command is put together from. -/

def hostWords (type host : String) : List String :=
  if host ≠ "" ∧ host ≠ "*" then [if type = "INPUT" then "-s" else "-d", host]
  else []

def protocolWords : Option String → List String
  | none => []
  | some protocol => ["-p", protocol]

def portOption (type : String) (multiport : Bool) : String :=
  if type = "INPUT" then if multiport then "--sports" else "--sport"
  else if multiport then "--dports" else "--dport"

def portWords (type : String) (ports : PortFilter) : List String :=
  if ports.any then
    (if ports.multiport then ["--match", "multiport"] else []) ++
      [portOption type ports.multiport, ports.ports]
  else []

def commandWords (entry : IPTableEntry) (rule : Rule) (protocol : Option String) :
    List String :=
  ["iptables", "-A", entry.type] ++ hostWords entry.type rule.host ++
    protocolWords protocol ++ portWords entry.type rule.ports ++
    ["-j", convertTarget rule.target]

/-- What `-p` is given where the rule names no protocol. -/
def impliedProtocol (ports : PortFilter) : Option String :=
  if ports.any then if ports.multiport then some "all" else some "tcp"
  else none

def characters (words : List String) : List (List Char) := words.map String.toList

def render (words : List String) : String := String.ofList (Shell.joined (characters words))

def spaced : List String → String
  | [] => ""
  | word :: rest => " " ++ word ++ spaced rest

theorem spaced_append (first second : List String) :
    spaced (first ++ second) = spaced first ++ spaced second := by
  induction first with
  | nil => exact String.empty_append.symm
  | cons word rest ih => rw [List.cons_append, spaced, spaced, ih, ← String.append_assoc]

theorem render_cons (first : String) (rest : List String) :
    render (first :: rest) = first ++ spaced rest := by
  induction rest generalizing first with
  | nil =>
      rw [render, characters, List.map_singleton, Shell.joined, List.intercalate_singleton,
        String.ofList_toList, spaced, String.append_empty]
  | cons next rest ih =>
      rw [spaced, String.append_assoc, ← ih next, render, render, characters, List.map_cons,
        List.map_cons, Shell.joined, List.intercalate_cons_cons, String.ofList_append,
        String.ofList_append, String.ofList_toList, String.append_assoc]
      rfl

theorem interpretHost_eq (type host : String) :
    interpretHost type host = spaced (hostWords type host) := by
  unfold interpretHost hostWords
  split
  · simp only [spaced, String.append_empty, ← String.append_assoc]
    split
    · rfl
    · rfl
  · rfl

theorem interpretPorts_eq {type : String} {ports : PortFilter} :
    " " ++ interpretPorts type ports =
      spaced [portOption type ports.multiport, ports.ports] := by
  unfold interpretPorts portOption
  simp only [spaced, String.append_empty, ← String.append_assoc]
  split
  · cases ports.multiport with
    | true => rfl
    | false => rfl
  · cases ports.multiport with
    | true => rfl
    | false => rfl

theorem protocol_ports_eq (type : String) (ports : PortFilter) (protocol : String) :
    (if ports.any then
      if ports.multiport then
        " -p " ++ protocol ++ " --match multiport " ++ interpretPorts type ports
      else
        " -p " ++ protocol ++ " " ++ interpretPorts type ports
    else
      " -p " ++ protocol) =
      spaced (protocolWords (some protocol)) ++ spaced (portWords type ports) := by
  have named : " -p " ++ protocol = spaced (protocolWords (some protocol)) := by
    simp only [protocolWords, spaced, String.append_empty, ← String.append_assoc]
    rfl
  rw [portWords]
  cases ports.any with
  | false => exact named.trans String.append_empty.symm
  | true =>
      rw [if_pos rfl, if_pos rfl, spaced_append, ← interpretPorts_eq, ← named]
      cases ports.multiport with
      | false =>
          rw [if_neg (by decide), if_neg (by decide), spaced, String.empty_append,
            String.append_assoc]
      | true =>
          have option : " --match multiport " = spaced ["--match", "multiport"] ++ " " := rfl
          rw [if_pos rfl, if_pos rfl, option]
          simp only [String.append_assoc]

theorem render_append (type target : String) (options : List String) :
    render (["iptables", "-A", type] ++ options ++ ["-j", target]) =
      "iptables -A " ++ type ++ spaced options ++ " -j " ++ target := by
  have appended : "iptables -A " = "iptables" ++ " " ++ "-A" ++ " " := rfl
  have jump : " -j " = " " ++ "-j" ++ " " := rfl
  rw [List.append_assoc, List.cons_append, render_cons, List.cons_append, List.cons_append,
    List.nil_append, spaced, spaced, spaced_append, appended, jump]
  simp only [spaced, String.append_empty, String.append_assoc]

theorem interpretRuleWithProtocol_eq (entry : IPTableEntry) (rule : Rule)
    (protocol : String) :
    entry.interpretRuleWithProtocol rule protocol =
      render (entry.commandWords rule (some protocol)) := by
  -- the equation lemma compares strings, which takes very long
  delta interpretRuleWithProtocol
  rw [commandWords, List.append_assoc ["iptables", "-A", entry.type],
    List.append_assoc ["iptables", "-A", entry.type], render_append, spaced_append,
    spaced_append, protocol_ports_eq, interpretHost_eq]
  simp only [String.append_assoc]

theorem interpretRule_eq (entry : IPTableEntry) (rule : Rule) :
    entry.interpretRule rule =
      render (entry.commandWords rule (impliedProtocol rule.ports)) := by
  cases any : rule.ports.any with
  | false =>
      delta interpretRule
      rw [any, if_neg (by decide), interpretHost_eq, commandWords, impliedProtocol, any,
        if_neg (by decide), portWords, any, if_neg (by decide), protocolWords, List.append_nil,
        List.append_nil, render_append, String.append_empty]
  | true =>
      have implied (protocol : String)
          (same : entry.interpretRule rule = entry.interpretRuleWithProtocol rule protocol)
          (isImplied : impliedProtocol rule.ports = some protocol) :
          entry.interpretRule rule =
            render (entry.commandWords rule (impliedProtocol rule.ports)) := by
        rw [same, interpretRuleWithProtocol_eq, isImplied]
      cases multiport : rule.ports.multiport with
      | false =>
          refine implied "tcp" ?_ (by rw [impliedProtocol, any, multiport]; rfl)
          delta interpretRule interpretRuleWithProtocol
          rw [any, multiport]
          rfl
      | true =>
          refine implied "all" ?_ (by rw [impliedProtocol, any, multiport]; rfl)
          delta interpretRule interpretRuleWithProtocol
          rw [any, multiport]
          rfl

end SoftwareContainers.IPTableEntry
