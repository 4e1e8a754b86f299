import SoftwareContainers.Network.Injection

namespace SoftwareContainers.IPTableEntry

/-! Which packets a command matches: it is split into arguments, and these are read. -/

inductive Protocol where
  | tcp
  | udp
  deriving DecidableEq, Repr

def Protocol.name : Protocol → String
  | .tcp => "tcp"
  | .udp => "udp"

structure Packet (Address : Type) where
  chain : String
  protocol : Protocol
  source : Address
  destination : Address
  sourcePort : UInt16
  destinationPort : UInt16
  deriving DecidableEq, Repr

/-- What is documented about the values of the options; whether `multiport` is accepted with
`-p all` is one of it. -/
structure Documented (Address : Type) where
  host : String → Address → Bool
  port : String → UInt16 → Bool
  ports : String → UInt16 → Bool
  multiportOfAll : Bool

inductive Flag where
  | append
  | source
  | destination
  | protocol
  | extension
  | sport
  | dport
  | sports
  | dports
  | jump
  deriving DecidableEq, Repr

def Flag.ofText (text : String) : Option Flag :=
  if text = "-A" then some .append
  else if text = "-s" then some .source
  else if text = "-d" then some .destination
  else if text = "-p" then some .protocol
  else if text = "--match" then some .extension
  else if text = "--sport" then some .sport
  else if text = "--dport" then some .dport
  else if text = "--sports" then some .sports
  else if text = "--dports" then some .dports
  else if text = "-j" then some .jump
  else none

abbrev Options := Flag → Option String

namespace Options

def empty : Options := fun _ => none

def set (options : Options) (flag : Flag) (value : String) : Options :=
  Function.update options flag (some value)

/-- Each option takes the word behind it as its value, whatever it is. -/
def read : List String → Options → Option Options
  | [], options => some options
  | [_], _ => none
  | text :: value :: rest, options =>
      match Flag.ofText text with
      | none => none
      | some flag => read rest (options.set flag value)

/-- The options for a single port come with their protocol. -/
def namesProtocol (options : Options) : Bool :=
  options .protocol = some "tcp" || options .protocol = some "udp"

def isAccepted (documented : Documented Address) (options : Options) : Bool :=
  (options .sport = none && options .dport = none || options.namesProtocol) &&
  (options .sports = none && options .dports = none ||
    options .extension = some "multiport" &&
      (options.namesProtocol ||
        (options .protocol).all (· = "all") && documented.multiportOfAll))

def selects (documented : Documented Address) (options : Options) (packet : Packet Address) :
    Bool :=
  options .append = some packet.chain &&
  (options .source).all (documented.host · packet.source) &&
  (options .destination).all (documented.host · packet.destination) &&
  (options .protocol).all (fun value => value = "all" || value = packet.protocol.name) &&
  (options .sport).all (documented.port · packet.sourcePort) &&
  (options .dport).all (documented.port · packet.destinationPort) &&
  (options .sports).all (documented.ports · packet.sourcePort) &&
  (options .dports).all (documented.ports · packet.destinationPort)

end Options

def matchesPacket (documented : Documented Address) (words : List String)
    (packet : Packet Address) : Bool :=
  match Options.read (words.drop 1) .empty with
  | none => false
  | some options => options.isAccepted documented && options.selects documented packet

/-- A command line is split as the agent splits it; one that is not split is not run. -/
def commandMatches (documented : Documented Address) (command : String)
    (packet : Packet Address) : Bool :=
  match Shell.parseArgv command.toList with
  | none => false
  | some arguments => matchesPacket documented (arguments.map String.ofList) packet

theorem commandMatches_of_splits {documented : Documented Address} {command : String}
    {words : List String} (splits : Splits command words) (packet : Packet Address) :
    commandMatches documented command packet = matchesPacket documented words packet := by
  have same : (characters words).map String.ofList = words := by
    simp [characters, Function.comp_def]
  rw [commandMatches, splits]
  dsimp only
  rw [same]

/-! The options of the words of a rule. -/

namespace Options

def withHost (type host : String) (options : Options) : Options :=
  if host ≠ "" ∧ host ≠ "*" then
    options.set (if type = "INPUT" then .source else .destination) host
  else options

def withProtocol (protocol : Option String) (options : Options) : Options :=
  match protocol with
  | none => options
  | some protocol => options.set .protocol protocol

def portFlag (type : String) (multiport : Bool) : Flag :=
  if type = "INPUT" then if multiport then .sports else .sport
  else if multiport then .dports else .dport

def withPorts (type : String) (ports : PortFilter) (options : Options) : Options :=
  if ports.any then
    (if ports.multiport then options.set .extension "multiport" else options).set
      (portFlag type ports.multiport) ports.ports
  else options

section

variable {options : Options} {rest : List String}

theorem read_cons {text : String} {flag : Flag} (isFlag : Flag.ofText text = some flag)
    (value : String) :
    read (text :: value :: rest) options = read rest (options.set flag value) := by
  rw [read, isFlag]

theorem read_hostWords (type host : String) :
    read (hostWords type host ++ rest) options = read rest (options.withHost type host) := by
  unfold hostWords withHost
  split
  · split
    · exact read_cons (by decide) host
    · exact read_cons (by decide) host
  · rfl

theorem read_protocolWords (protocol : Option String) :
    read (protocolWords protocol ++ rest) options =
      read rest (options.withProtocol protocol) := by
  cases protocol with
  | none => rfl
  | some protocol =>
      have isFlag : Flag.ofText "-p" = some .protocol := by decide
      exact read_cons isFlag protocol

theorem ofText_portOption (type : String) (multiport : Bool) :
    Flag.ofText (portOption type multiport) = some (portFlag type multiport) := by
  unfold portOption portFlag
  split
  · cases multiport with
    | true => decide
    | false => decide
  · cases multiport with
    | true => decide
    | false => decide

theorem read_portWords (type : String) (ports : PortFilter) :
    read (portWords type ports ++ rest) options = read rest (options.withPorts type ports) := by
  unfold portWords withPorts
  split
  · rw [List.append_assoc]
    split
    · rename_i multiport
      have extension : Flag.ofText "--match" = some .extension := by decide
      rw [List.cons_append, List.cons_append, read_cons extension]
      exact read_cons (ofText_portOption type _) ports.ports
    · exact read_cons (ofText_portOption type _) ports.ports
  · rfl

theorem set_apply (set flag : Flag) (value : String) :
    options.set set value flag = if flag = set then some value else options flag :=
  Function.update_apply options set (some value) flag

theorem withHost_apply (type host : String) (flag : Flag) :
    options.withHost type host flag =
      if (host ≠ "" ∧ host ≠ "*") ∧
          flag = (if type = "INPUT" then .source else .destination) then some host
      else options flag := by
  unfold withHost
  split
  · rename_i given
    rw [set_apply]
    exact if_congr (and_iff_right given).symm rfl rfl
  · rename_i notGiven
    exact (if_neg fun holds => notGiven holds.1).symm

theorem withProtocol_apply (protocol : Option String) (flag : Flag) :
    options.withProtocol protocol flag =
      if flag = .protocol then protocol.or (options flag) else options flag := by
  cases protocol with
  | none => exact (ite_self _).symm
  | some protocol => exact set_apply .protocol flag protocol

theorem withPorts_apply (type : String) (ports : PortFilter) (flag : Flag) :
    options.withPorts type ports flag =
      if ports.any ∧ flag = portFlag type ports.multiport then some ports.ports
      else if ports.any ∧ ports.multiport ∧ flag = .extension then some "multiport"
      else options flag := by
  unfold withPorts
  cases ports.any with
  | false =>
      rw [if_neg (by decide), if_neg (by simp), if_neg (by simp)]
  | true =>
      cases ports.multiport with
      | false => simp [set_apply]
      | true => simp [set_apply]

end

end Options

def options (entry : IPTableEntry) (rule : Rule) (protocol : Option String) : Options :=
  (((((Options.empty.set .append entry.type).withHost entry.type rule.host).withProtocol
    protocol).withPorts entry.type rule.ports).set .jump (convertTarget rule.target))

theorem read_commandWords (entry : IPTableEntry) (rule : Rule) (protocol : Option String) :
    Options.read ((entry.commandWords rule protocol).drop 1) .empty =
      some (entry.options rule protocol) := by
  have words : (entry.commandWords rule protocol).drop 1 = "-A" :: entry.type ::
      (hostWords entry.type rule.host ++ (protocolWords protocol ++
        (portWords entry.type rule.ports ++ ["-j", convertTarget rule.target]))) := by
    rw [commandWords]
    simp only [List.append_assoc, List.cons_append, List.nil_append, List.drop_one,
      List.tail_cons]
  have append : Flag.ofText "-A" = some .append := by decide
  have jump : Flag.ofText "-j" = some .jump := by decide
  rw [words, Options.read_cons append, Options.read_hostWords, Options.read_protocolWords,
    Options.read_portWords, Options.read_cons jump, Options.read, options]

/-! A packet at a rule. -/

namespace Packet

variable {Address : Type}

def peer (packet : Packet Address) (type : String) : Address :=
  if type = "INPUT" then packet.source else packet.destination

def port (packet : Packet Address) (type : String) : UInt16 :=
  if type = "INPUT" then packet.sourcePort else packet.destinationPort

end Packet

section

variable {Address : Type} (documented : Documented Address) (entry : IPTableEntry)
  (rule : Rule) (packet : Packet Address)

/-- It passes through the chain of the rule, and is from or to its host. -/
def AtHost : Prop :=
  entry.type = packet.chain ∧ (rule.host ≠ "" ∧ rule.host ≠ "*" →
    documented.host rule.host (packet.peer entry.type) = true)

/-- The port of the packet is one of those of the rule. -/
def AtPort : Prop :=
  (if rule.ports.multiport then documented.ports else documented.port) rule.ports.ports
    (packet.port entry.type) = true

/-- The ports of a rule are accepted with what `-p` is given. -/
def PortsAccepted (multiport : Bool) (protocol : Option String) : Prop :=
  protocol = some "tcp" ∨ protocol = some "udp" ∨
    multiport = true ∧ (protocol = none ∨ protocol = some "all") ∧
      documented.multiportOfAll = true

end

section

variable {Address : Type} {documented : Documented Address} {entry : IPTableEntry}
  {rule : Rule} {packet : Packet Address}

theorem options_apply (entry : IPTableEntry) (rule : Rule) (protocol : Option String)
    (flag : Flag) :
    entry.options rule protocol flag =
      match flag with
      | .append => some entry.type
      | .source =>
          if (rule.host ≠ "" ∧ rule.host ≠ "*") ∧ entry.type = "INPUT" then some rule.host
          else none
      | .destination =>
          if (rule.host ≠ "" ∧ rule.host ≠ "*") ∧ entry.type ≠ "INPUT" then some rule.host
          else none
      | .protocol => protocol
      | .extension =>
          if rule.ports.any ∧ rule.ports.multiport then some "multiport" else none
      | .sport =>
          if rule.ports.any ∧ rule.ports.multiport = false ∧ entry.type = "INPUT" then
            some rule.ports.ports
          else none
      | .dport =>
          if rule.ports.any ∧ rule.ports.multiport = false ∧ entry.type ≠ "INPUT" then
            some rule.ports.ports
          else none
      | .sports =>
          if rule.ports.any ∧ rule.ports.multiport = true ∧ entry.type = "INPUT" then
            some rule.ports.ports
          else none
      | .dports =>
          if rule.ports.any ∧ rule.ports.multiport = true ∧ entry.type ≠ "INPUT" then
            some rule.ports.ports
          else none
      | .jump => some (convertTarget rule.target) := by
  rw [options, Options.set_apply, Options.withPorts_apply, Options.withProtocol_apply,
    Options.withHost_apply, Options.set_apply, Options.empty, Options.portFlag]
  by_cases input : entry.type = "INPUT"
  · cases rule.ports.multiport with
    | false => cases flag <;> simp [input]
    | true => cases flag <;> simp [input]
  · cases rule.ports.multiport with
    | false => cases flag <;> simp [input]
    | true => cases flag <;> simp [input]

theorem isAccepted_iff (protocol : Option String) :
    (entry.options rule protocol).isAccepted documented = true ↔
      (rule.ports.any = true → PortsAccepted documented rule.ports.multiport protocol) := by
  rw [Options.isAccepted, Options.namesProtocol]
  simp only [options_apply, ite_eq_right_iff, reduceCtorEq, imp_false, Bool.and_eq_true,
    Bool.or_eq_true, decide_eq_true_eq, ite_eq_left_iff]
  unfold PortsAccepted
  have all : (protocol.all fun value => decide (value = "all")) = true ↔
      protocol = none ∨ protocol = some "all" := by
    cases protocol with
    | none => simp
    | some value => simp
  rw [all]
  cases rule.ports.any with
  | false => simp
  | true =>
      cases rule.ports.multiport with
      | false => by_cases input : entry.type = "INPUT" <;> simp [input]
      | true => by_cases input : entry.type = "INPUT" <;> simp [input, or_assoc]

theorem selects_iff (protocol : Option String) :
    (entry.options rule protocol).selects documented packet = true ↔
      AtHost documented entry rule packet ∧
      (∀ value, protocol = some value → value = "all" ∨ value = packet.protocol.name) ∧
      (rule.ports.any = true → AtPort documented entry rule packet) := by
  unfold Options.selects AtHost AtPort Packet.peer Packet.port
  simp only [options_apply, Bool.and_eq_true, Option.all_eq_true, decide_eq_true_eq,
    Option.some.injEq, Bool.or_eq_true]
  by_cases input : entry.type = "INPUT"
  · cases rule.ports.multiport with
    | false => simp [input, and_assoc]
    | true => simp [input, and_assoc]
  · cases rule.ports.multiport with
    | false => simp [input, and_assoc]
    | true => simp [input, and_assoc]

theorem matchesPacket_iff (protocol : Option String) :
    matchesPacket documented (entry.commandWords rule protocol) packet = true ↔
      AtHost documented entry rule packet ∧
      (∀ value, protocol = some value → value = "all" ∨ value = packet.protocol.name) ∧
      (rule.ports.any = true → PortsAccepted documented rule.ports.multiport protocol ∧
        AtPort documented entry rule packet) := by
  rw [matchesPacket, read_commandWords]
  dsimp only
  rw [Bool.and_eq_true, isAccepted_iff, selects_iff, imp_and]
  exact ⟨fun ⟨accepted, atHost, named, atPort⟩ => ⟨atHost, named, accepted, atPort⟩,
    fun ⟨atHost, named, accepted, atPort⟩ => ⟨accepted, atHost, named, atPort⟩⟩

theorem matchesPacket_named_iff :
    matchesPacket documented (entry.commandWords rule (some packet.protocol.name)) packet =
        true ↔
      AtHost documented entry rule packet ∧
        (rule.ports.any = true → AtPort documented entry rule packet) := by
  have named : PortsAccepted documented rule.ports.multiport (some packet.protocol.name) := by
    cases packet.protocol with
    | tcp => exact .inl rfl
    | udp => exact .inr (.inl rfl)
  rw [matchesPacket_iff]
  refine and_congr_right fun _ => ⟨fun holds any => (holds.2 any).2, fun atPort => ⟨?_, ?_⟩⟩
  · intro value same
    exact .inr (Option.some.inj same).symm
  · exact fun any => ⟨named, atPort any⟩

/-- Where a rule without protocols leaves a packet out: a single port becomes one of tcp, and
`multiport` may not be accepted. -/
def LeavesOut (documented : Documented Address) (ports : PortFilter) (protocol : Protocol) :
    Prop :=
  if ports.multiport then documented.multiportOfAll = false else protocol = .udp

theorem matchesPacket_implied_iff :
    matchesPacket documented (entry.commandWords rule (impliedProtocol rule.ports)) packet =
        true ↔
      AtHost documented entry rule packet ∧
        (rule.ports.any = true → ¬ LeavesOut documented rule.ports packet.protocol ∧
          AtPort documented entry rule packet) := by
  rw [matchesPacket_iff]
  refine and_congr_right fun _ => ?_
  unfold impliedProtocol PortsAccepted LeavesOut
  cases rule.ports.any with
  | false => simp
  | true =>
      cases rule.ports.multiport with
      | false => cases packet.protocol <;> simp [Protocol.name]
      | true => simp

end

/-- The command without protocols, and the one with the protocol of the packet, for the
rules of a configuration.  For a single port of tcp the two are the same text, whatever the
host and the ports are. -/
theorem interpretRule_matches_iff {Address : Type} (documented : Documented Address)
    {element : Json} {parsed : Bool} {entry : IPTableEntry} {rule : Rule}
    (parses : NetworkGatewayParser.parseNetworkGatewayConfiguration element .new =
      .ok (parsed, entry)) (isRule : rule ∈ entry.rules) (packet : Packet Address) :
    let omitted := entry.interpretRule rule
    let named := entry.interpretRuleWithProtocol rule packet.protocol.name
    (PlainValues rule →
      ((commandMatches documented omitted packet = true ↔
          commandMatches documented named packet = true) ↔
        ¬ (AtHost documented entry rule packet ∧ rule.ports.any = true ∧
          AtPort documented entry rule packet ∧
          LeavesOut documented rule.ports packet.protocol))) ∧
    (rule.ports.any = true → rule.ports.multiport = false → packet.protocol = .tcp →
      omitted = named) := by
  have isChain : entry.type = "INPUT" ∨ entry.type = "OUTPUT" := by
    rcases NetworkGatewayParser.entry_of_parsed parses with none | ⟨isChain, _⟩
    · rw [none] at isRule
      cases isRule
    · exact isChain
  dsimp only
  rw [interpretRule_eq, interpretRuleWithProtocol_eq]
  refine ⟨fun plain => ?_, fun any single tcp => ?_⟩
  · have split {protocol : Option String}
        (known : ∀ name, protocol = some name → name ∈ ["tcp", "udp", "icmp", "all"]) :
        Splits (render (entry.commandWords rule protocol)) (entry.commandWords rule protocol) :=
      (splits_commandWords_iff rule isChain known).mpr plain
    have implied : ∀ name, impliedProtocol rule.ports = some name →
        name ∈ ["tcp", "udp", "icmp", "all"] := impliedProtocol_known rule.ports
    have named : ∀ name, some packet.protocol.name = some name →
        name ∈ ["tcp", "udp", "icmp", "all"] := by
      rintro _ ⟨⟩
      cases packet.protocol <;> decide
    rw [commandMatches_of_splits (split implied), commandMatches_of_splits (split named),
      matchesPacket_implied_iff, matchesPacket_named_iff]
    tauto
  · rw [impliedProtocol, any, single, tcp]
    rfl

def byText : Documented String := ⟨(· == ·), fun value port => value = toString port.toNat,
  fun value port => value = toString port.toNat, false⟩

def portOnly : Json := .object [("direction", .string "OUTGOING"),
  ("allow", .array [.object [("host", .string "*"), ("ports", .integer 53)]])]

def portOnlyRule : Rule := ⟨"*", [], ⟨true, false, "53"⟩, .accept⟩

def portOnlyEntry : IPTableEntry := ⟨"OUTPUT", [portOnlyRule], .drop⟩

def nameLookup : Packet String := ⟨"OUTPUT", .udp, "10.0.3.2", "8.8.8.8", 40000, 53⟩

theorem interpretRule_matches_iff_nameLookup :
    PlainValues portOnlyRule ∧
      ((commandMatches byText (portOnlyEntry.interpretRule portOnlyRule) nameLookup = true ↔
          commandMatches byText (portOnlyEntry.interpretRuleWithProtocol portOnlyRule "udp")
            nameLookup = true) ↔
        ¬ (AtHost byText portOnlyEntry portOnlyRule nameLookup ∧ portOnlyRule.ports.any = true ∧
          AtPort byText portOnlyEntry portOnlyRule nameLookup ∧
          LeavesOut byText portOnlyRule.ports .udp)) :=
  have plain : PlainValues portOnlyRule := by decide
  ⟨plain, (interpretRule_matches_iff byText
    (show NetworkGatewayParser.parseNetworkGatewayConfiguration portOnly .new =
      .ok (true, portOnlyEntry) from rfl) List.mem_cons_self nameLookup).1 plain⟩

theorem udp_to_single_port_is_left_out :
    NetworkGatewayParser.parseNetworkGatewayConfiguration portOnly .new =
        .ok (true, portOnlyEntry) ∧
      ¬ (commandMatches byText (portOnlyEntry.interpretRule portOnlyRule) nameLookup = true ↔
          commandMatches byText (portOnlyEntry.interpretRuleWithProtocol portOnlyRule
            nameLookup.protocol.name) nameLookup = true) := by
  refine ⟨rfl, ?_⟩
  decide +kernel

end SoftwareContainers.IPTableEntry
