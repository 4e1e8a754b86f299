import SoftwareContainers.Network.Parser
import SoftwareContainers.Network.RuleWords

namespace SoftwareContainers

open IPTableEntry

/-! Whether a command is split into the words it was put together from. -/

namespace NetworkGatewayParser

/-- The protocols that the parser lets through. -/
def ValidProtocols (protocols : List String) : Prop :=
  ∀ protocol ∈ protocols, isProtocolValid protocol = true

theorem ValidProtocols.append {protocols : List String} {protocol : String}
    (validProtocols : ValidProtocols protocols) (valid : isProtocolValid protocol = true) :
    ValidProtocols (protocols ++ [protocol]) :=
  List.forall_mem_append.mpr ⟨validProtocols, List.forall_mem_singleton.mpr valid⟩

theorem validProtocols_appendProtocols (entries : List Json) {proto : List String}
    (valid : ValidProtocols proto) : ValidProtocols (appendProtocols entries proto).2 := by
  fun_induction appendProtocols entries proto with
  | case1 => exact valid
  | case2 protocol rest proto isValid ih => exact ih (valid.append isValid)
  | case3 => exact valid
  | case4 => exact valid

theorem validProtocols_parseProtocol (element : Json) {proto : List String}
    (valid : ValidProtocols proto) : ValidProtocols (parseProtocol element proto).2 := by
  unfold parseProtocol
  split
  · split
    · rename_i isValid
      exact valid.append isValid
    · exact valid
  · exact validProtocols_appendProtocols _ valid
  · exact valid

theorem validProtocols_ruleProtocols (element : Json) :
    ValidProtocols (ruleProtocols element) := by
  unfold ruleProtocols
  split
  · exact List.forall_mem_nil _
  · exact validProtocols_parseProtocol _ (List.forall_mem_nil _)

def ValidRules (rules : List Rule) : Prop := ∀ rule ∈ rules, ValidProtocols rule.protocols

theorem validRules_parseRule {element : Json} {rules after : List Rule} {parsed : Bool}
    (parses : parseRule element rules = .ok (parsed, after)) (valid : ValidRules rules) :
    ValidRules after := by
  unfold parseRule at parses
  split at parses
  · cases parses
    exact valid
  · cases ported : rulePorts element with
    | error fault =>
        rw [ported] at parses
        cases parses
    | ok ports =>
        rw [ported] at parses
        cases parses
        exact List.forall_mem_append.mpr
          ⟨valid, List.forall_mem_singleton.mpr (validProtocols_ruleProtocols element)⟩

theorem validRules_parseRules {elements : List Json} {rules after : List Rule} {parsed : Bool}
    (parses : parseRules elements rules = .ok (parsed, after)) (valid : ValidRules rules) :
    ValidRules after := by
  induction elements generalizing rules with
  | nil =>
      cases parses
      exact valid
  | cons element rest ih =>
      rw [parseRules] at parses
      split at parses
      · cases parsedRule : parseRule element rules with
        | error fault =>
            rw [parsedRule] at parses
            cases parses
        | ok result =>
            obtain ⟨parsedHere, between⟩ := result
            rw [parsedRule] at parses
            have validBetween := validRules_parseRule parsedRule valid
            cases parsedHere with
            | false =>
                cases parses
                exact validBetween
            | true => exact ih parses validBetween
      · cases parses
        exact valid

theorem chainType_cases {chain type : String} (typed : chainType chain = some type) :
    type = "INPUT" ∨ type = "OUTPUT" := by
  unfold chainType at typed
  split at typed
  · exact .inl (Option.some.inj typed).symm
  · split at typed
    · exact .inr (Option.some.inj typed).symm
    · cases typed

theorem entry_of_parsed {element : Json} {parsed : Bool} {entry : IPTableEntry}
    (parses : parseNetworkGatewayConfiguration element .new = .ok (parsed, entry)) :
    entry.rules = [] ∨
      (entry.type = "INPUT" ∨ entry.type = "OUTPUT") ∧ ValidRules entry.rules := by
  unfold parseNetworkGatewayConfiguration at parses
  split at parses
  · cases parses
    exact .inl rfl
  · rename_i chain _
    cases typed : chainType chain with
    | none =>
        rw [typed] at parses
        cases parses
        exact .inl rfl
    | some type =>
        rw [typed] at parses
        dsimp only at parses
        split at parses
        · rename_i rules _
          cases ruled : parseRules rules [] with
          | error fault =>
              rw [IPTableEntry.new, ruled] at parses
              cases parses
          | ok result =>
              rw [IPTableEntry.new, ruled] at parses
              cases parses
              exact .inr ⟨chainType_cases typed,
                validRules_parseRules ruled (List.forall_mem_nil _)⟩
        · cases parses
          exact .inl rfl

end NetworkGatewayParser

namespace IPTableEntry

/-- The host, where it is in the command, and the ports, where they are, are single words. -/
structure PlainValues (rule : Rule) : Prop where
  host : rule.host ≠ "" ∧ rule.host ≠ "*" → Shell.Plain rule.host.toList
  ports : rule.ports.any = true → Shell.Plain rule.ports.ports.toList

instance (rule : Rule) : Decidable (PlainValues rule) :=
  decidable_of_iff
    ((rule.host ≠ "" ∧ rule.host ≠ "*" → Shell.Plain rule.host.toList) ∧
      (rule.ports.any = true → Shell.Plain rule.ports.ports.toList))
    ⟨fun holds => ⟨holds.1, holds.2⟩, fun plain => ⟨plain.host, plain.ports⟩⟩

def Splits (command : String) (words : List String) : Prop :=
  Shell.parseArgv command.toList = some (characters words)

def PlainWords (words : List String) : Prop := ∀ word ∈ words, Shell.Plain word.toList

theorem splits_render_iff {words : List String} (nonempty : words ≠ []) :
    Splits (render words) words ↔ PlainWords words := by
  have mapped : characters words ≠ [] := mt List.map_eq_nil_iff.mp nonempty
  rw [Splits, render, String.toList_ofList, Shell.parseArgv_joined_iff mapped, characters,
    List.forall_mem_map, PlainWords]

theorem plainWords_append {first second : List String} :
    PlainWords (first ++ second) ↔ PlainWords first ∧ PlainWords second :=
  List.forall_mem_append

theorem plainWords_hostWords (type host : String) :
    PlainWords (hostWords type host) ↔
      (host ≠ "" ∧ host ≠ "*" → Shell.Plain host.toList) := by
  have option : Shell.Plain (if type = "INPUT" then "-s" else "-d").toList := by
    split
    · decide
    · decide
  unfold hostWords PlainWords
  split
  · rename_i given
    rw [List.forall_mem_cons, List.forall_mem_singleton]
    exact ⟨fun plain _ => plain.2, fun plain => ⟨option, plain given⟩⟩
  · rename_i notGiven
    exact ⟨fun _ given => absurd given notGiven, fun _ => List.forall_mem_nil _⟩

theorem plainWords_portWords (type : String) (ports : PortFilter) :
    PlainWords (portWords type ports) ↔
      (ports.any = true → Shell.Plain ports.ports.toList) := by
  have option : Shell.Plain (portOption type ports.multiport).toList := by
    unfold portOption
    split
    · cases ports.multiport with
      | true => decide
      | false => decide
    · cases ports.multiport with
      | true => decide
      | false => decide
  have extension : PlainWords (if ports.multiport then ["--match", "multiport"] else []) := by
    unfold PlainWords
    cases ports.multiport with
    | true => decide
    | false => decide
  unfold portWords
  split
  · rename_i given
    rw [plainWords_append, PlainWords, PlainWords, List.forall_mem_cons,
      List.forall_mem_singleton]
    exact ⟨fun plain _ => plain.2.2, fun plain => ⟨extension, option, plain given⟩⟩
  · rename_i notGiven
    exact ⟨fun _ given => absurd given notGiven, fun _ => List.forall_mem_nil _⟩

theorem plainWords_protocolWords {protocol : Option String}
    (known : ∀ name, protocol = some name → name ∈ ["tcp", "udp", "icmp", "all"]) :
    PlainWords (protocolWords protocol) := by
  cases protocol with
  | none => exact List.forall_mem_nil _
  | some name =>
      have each : ∀ name ∈ ["tcp", "udp", "icmp", "all"], Shell.Plain name.toList := by decide
      rw [protocolWords, PlainWords, List.forall_mem_cons, List.forall_mem_singleton]
      exact ⟨by decide, each name (known name rfl)⟩

theorem splits_commandWords_iff {entry : IPTableEntry} (rule : Rule)
    {protocol : Option String} (isChain : entry.type = "INPUT" ∨ entry.type = "OUTPUT")
    (known : ∀ name, protocol = some name → name ∈ ["tcp", "udp", "icmp", "all"]) :
    Splits (render (entry.commandWords rule protocol)) (entry.commandWords rule protocol) ↔
      PlainValues rule := by
  have nonempty : entry.commandWords rule protocol ≠ [] := List.cons_ne_nil _ _
  have first : PlainWords ["iptables", "-A", entry.type] := by
    unfold PlainWords
    rcases isChain with input | output
    · rw [input]
      decide
    · rw [output]
      decide
  have last : PlainWords ["-j", convertTarget rule.target] := by
    unfold PlainWords
    cases rule.target with
    | accept => decide
    | drop => decide
    | reject => decide
    | invalidTarget => decide
  rw [splits_render_iff nonempty, commandWords, plainWords_append, plainWords_append,
    plainWords_append, plainWords_append, plainWords_hostWords, plainWords_portWords]
  exact ⟨fun plain => ⟨plain.1.1.1.2, plain.1.2⟩,
    fun plain => ⟨⟨⟨⟨first, plain.host⟩, plainWords_protocolWords known⟩, plain.ports⟩, last⟩⟩

theorem impliedProtocol_known (ports : PortFilter) :
    ∀ name, impliedProtocol ports = some name → name ∈ ["tcp", "udp", "icmp", "all"] := by
  intro name implied
  unfold impliedProtocol at implied
  split at implied
  · split at implied
    · cases implied
      decide
    · cases implied
      decide
  · cases implied

/-- For the rules of a configuration, with each of their protocols and without any. -/
theorem rule_splits_iff {element : Json} {parsed : Bool} {entry : IPTableEntry} {rule : Rule}
    (parses : NetworkGatewayParser.parseNetworkGatewayConfiguration element .new =
      .ok (parsed, entry)) (isRule : rule ∈ entry.rules) :
    (∀ protocol ∈ rule.protocols,
      (Splits (entry.interpretRuleWithProtocol rule protocol)
        (entry.commandWords rule (some protocol)) ↔ PlainValues rule)) ∧
      (Splits (entry.interpretRule rule)
        (entry.commandWords rule (impliedProtocol rule.ports)) ↔ PlainValues rule) := by
  rcases NetworkGatewayParser.entry_of_parsed parses with none | ⟨isChain, validRules⟩
  · rw [none] at isRule
    cases isRule
  · refine ⟨fun protocol inRule => ?_, ?_⟩
    · rw [interpretRuleWithProtocol_eq]
      refine splits_commandWords_iff rule isChain fun name named => ?_
      cases named
      have valid := validRules rule isRule protocol inRule
      simp only [NetworkGatewayParser.isProtocolValid, Bool.or_eq_true, beq_iff_eq] at valid
      rcases valid with (rfl | rfl) | rfl
      · decide
      · decide
      · decide
    · rw [interpretRule_eq]
      exact splits_commandWords_iff rule isChain (impliedProtocol_known rule.ports)

def dropping : Json := .object [("direction", .string "INCOMING"),
  ("allow", .array [.object [("host", .string "10.0.0.1 -j DROP"),
    ("protocols", .string "tcp")]])]

def droppingRule : Rule := ⟨"10.0.0.1 -j DROP", ["tcp"], .new, .accept⟩

def droppingEntry : IPTableEntry := ⟨"INPUT", [droppingRule], .drop⟩

theorem rule_splits_iff_dropping :
    (Splits (droppingEntry.interpretRule droppingRule)
      (droppingEntry.commandWords droppingRule (impliedProtocol droppingRule.ports)) ↔
        PlainValues droppingRule) :=
  (rule_splits_iff (show NetworkGatewayParser.parseNetworkGatewayConfiguration dropping .new =
    .ok (true, droppingEntry) from rfl) List.mem_cons_self).2

theorem host_adds_a_target :
    NetworkGatewayParser.parseNetworkGatewayConfiguration dropping .new =
        .ok (true, droppingEntry) ∧
      Shell.parseArgv (droppingEntry.interpretRuleWithProtocol droppingRule "tcp").toList =
        some (characters ["iptables", "-A", "INPUT", "-s", "10.0.0.1", "-j", "DROP", "-p",
          "tcp", "-j", "ACCEPT"]) ∧
      ¬ Splits (droppingEntry.interpretRuleWithProtocol droppingRule "tcp")
        (droppingEntry.commandWords droppingRule (some "tcp")) := by
  refine ⟨rfl, ?_, ?_⟩
  · decide +kernel
  · unfold Splits
    decide +kernel

end IPTableEntry

end SoftwareContainers
