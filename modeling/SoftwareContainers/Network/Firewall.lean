import SoftwareContainers.Filter.Chain
import SoftwareContainers.Network.Injection
import SoftwareContainers.Network.Isolation
import SoftwareContainers.Network.PacketMatch
import SoftwareContainers.Network.Success

namespace SoftwareContainers

/-! What the commands of a configuration make of the chains, and what these then say of a
packet. -/

namespace IPTableEntry

variable {Address : Type}

abbrev Chains (Address : Type) := Filter.Table String (Packet Address) Target

def targetOf (text : String) : Option Target :=
  [Target.accept, .drop, .reject].find? (convertTarget · = text)

def policyOf (text : String) : Option Target :=
  [Target.accept, .drop].find? (convertTarget · = text)

/-- What `iptables` does with its arguments.  It refuses what it does not know. -/
def applyWords (documented : Documented Address) (words : List String)
    (chains : Chains Address) : Chains Address :=
  match words with
  | ["-P", chain, target] =>
      match policyOf target with
      | some policy => chains.change chain (·.setPolicy policy)
      | none => chains
  | words =>
      match Options.read words .empty with
      | none => chains
      | some options =>
          match options .append, (options .jump).bind targetOf, options.isAccepted documented with
          | some chain, some target, true =>
              chains.change chain (·.append [⟨options.selects documented, target⟩])
          | _, _, _ => chains

def execute (documented : Documented Address) (chains : Chains Address) (command : String) :
    Chains Address :=
  match Shell.parseArgv command.toList with
  | some (program :: arguments) =>
      if String.ofList program = "iptables" then
        applyWords documented (arguments.map String.ofList) chains
      else
        chains
  | _ => chains

/-! The commands of an entry. -/

/-- What `-p` is given in the commands of a rule. -/
def givenProtocols (rule : Rule) : List (Option String) :=
  if rule.protocols = [] then [impliedProtocol rule.ports] else rule.protocols.map some

theorem ruleCommands_eq (entry : IPTableEntry) (rule : Rule) :
    entry.ruleCommands rule =
      (givenProtocols rule).map fun protocol => render (entry.commandWords rule protocol) := by
  rw [ruleCommands, givenProtocols]
  cases named : rule.protocols with
  | nil =>
      rw [if_neg (by simp), if_pos rfl, List.map_singleton, interpretRule_eq]
  | cons protocol rest =>
      rw [if_pos (by simp), if_neg (List.cons_ne_nil _ _), List.map_map]
      exact List.map_congr_left fun other _ => interpretRuleWithProtocol_eq entry rule other

section

variable (documented : Documented Address) (entry : IPTableEntry) (rule : Rule)

/-- The rule of the chain that a command adds, unless it is refused. -/
def compileWith (protocol : Option String) : List (Filter.Rule (Packet Address) Target) :=
  if (entry.options rule protocol).isAccepted documented then
    [⟨(entry.options rule protocol).selects documented, rule.target⟩]
  else []

def compile : List (Filter.Rule (Packet Address) Target) :=
  (givenProtocols rule).flatMap (compileWith documented entry rule)

theorem execute_render {words : List String} (plain : PlainWords ("iptables" :: words))
    (chains : Chains Address) :
    execute documented chains (render ("iptables" :: words)) =
      applyWords documented words chains := by
  have splits := (splits_render_iff (List.cons_ne_nil "iptables" words)).mpr plain
  rw [Splits] at splits
  rw [execute, splits]
  simp only [characters, List.map_cons, List.map_map, String.ofList_toList, Function.comp_def,
    List.map_id', ↓reduceIte]

variable {documented entry rule}

theorem applyWords_append {words : List String} {options : Options} {chain : String}
    {target : Target} (appends : words.head? = some "-A")
    (read : Options.read words .empty = some options) (named : options .append = some chain)
    (jumps : (options .jump).bind targetOf = some target) (chains : Chains Address) :
    applyWords documented words chains =
      chains.change chain (·.append
        (if options.isAccepted documented then [⟨options.selects documented, target⟩]
        else [])) := by
  unfold applyWords
  split
  · exact absurd (Option.some.inj appends) (by decide)
  · rw [read]
    dsimp only
    rw [named, jumps]
    cases options.isAccepted documented with
    | true => rfl
    | false =>
        simp only [Bool.false_eq_true, ↓reduceIte, Filter.Chain.append_nil]
        exact (chains.change_id chain).symm

theorem targetOf_convertTarget {target : Target} (valid : target ≠ .invalidTarget) :
    targetOf (convertTarget target) = some target := by
  cases target with
  | invalidTarget => exact absurd rfl valid
  | accept => decide
  | drop => decide
  | reject => decide

theorem execute_command {protocol : Option String}
    (isChain : entry.type = "INPUT" ∨ entry.type = "OUTPUT")
    (known : ∀ name, protocol = some name → name ∈ ["tcp", "udp", "icmp", "all"])
    (plain : PlainValues rule) (valid : rule.target ≠ .invalidTarget)
    (chains : Chains Address) :
    execute documented chains (render (entry.commandWords rule protocol)) =
      chains.change entry.type (·.append (compileWith documented entry rule protocol)) := by
  have words : entry.commandWords rule protocol =
      "iptables" :: (entry.commandWords rule protocol).drop 1 := rfl
  have plainWords : PlainWords ("iptables" :: (entry.commandWords rule protocol).drop 1) := by
    rw [← words]
    exact (splits_render_iff (List.cons_ne_nil _ _)).mp
      ((splits_commandWords_iff rule isChain known).mpr plain)
  rw [words, execute_render documented plainWords]
  refine applyWords_append rfl (read_commandWords entry rule protocol)
    (options_apply entry rule protocol .append) ?_ chains
  rw [options_apply, Option.bind_some, targetOf_convertTarget valid]

theorem known_givenProtocols (valid : NetworkGatewayParser.ValidProtocols rule.protocols)
    {protocol : Option String} (given : protocol ∈ givenProtocols rule) :
    ∀ name, protocol = some name → name ∈ ["tcp", "udp", "icmp", "all"] := by
  rintro name rfl
  rw [givenProtocols] at given
  split at given
  · rw [List.mem_singleton, impliedProtocol] at given
    split at given
    · split at given
      · cases given
        decide
      · cases given
        decide
    · cases given
  · obtain ⟨other, member, same⟩ := List.mem_map.mp given
    cases same
    have isValid := valid name member
    simp only [NetworkGatewayParser.isProtocolValid, Bool.or_eq_true, beq_iff_eq] at isValid
    rcases isValid with (rfl | rfl) | rfl
    · decide
    · decide
    · decide

/-- The rule is about the packet, and the packet is not left out for its protocol. -/
def Admits (documented : Documented Address) (entry : IPTableEntry) (rule : Rule)
    (packet : Packet Address) : Prop :=
  AtHost documented entry rule packet ∧
    (rule.ports.any = true → AtPort documented entry rule packet) ∧
    if rule.protocols = [] then
      rule.ports.any = true → ¬ LeavesOut documented rule.ports packet.protocol
    else packet.protocol.name ∈ rule.protocols

theorem any_compileWith {protocol : Option String} {packet : Packet Address} :
    (compileWith documented entry rule protocol).any (·.selects packet) =
      matchesPacket documented (entry.commandWords rule protocol) packet := by
  rw [matchesPacket, read_commandWords, compileWith]
  dsimp only
  cases accepted : (entry.options rule protocol).isAccepted documented <;> simp

theorem any_compile_iff (valid : NetworkGatewayParser.ValidProtocols rule.protocols)
    {packet : Packet Address} :
    (compile documented entry rule).any (·.selects packet) = true ↔
      Admits documented entry rule packet := by
  rw [compile, List.any_flatMap, List.any_eq_true, Admits, givenProtocols]
  simp only [any_compileWith]
  by_cases none : rule.protocols = []
  · rw [if_pos none, if_pos none]
    simp only [List.mem_singleton, exists_eq_left, matchesPacket_implied_iff]
    tauto
  · rw [if_neg none, if_neg none]
    constructor
    · rintro ⟨protocol, member, isMatch⟩
      obtain ⟨name, inRule, rfl⟩ := List.mem_map.mp member
      obtain ⟨atHost, named, atPort⟩ := matchesPacket_iff (some name) |>.mp isMatch
      refine ⟨atHost, fun any => (atPort any).2, ?_⟩
      have isValid := valid name inRule
      rcases named name rfl with rfl | rfl
      · exact absurd isValid (by decide)
      · exact inRule
    · rintro ⟨atHost, atPort, inRule⟩
      exact ⟨_, List.mem_map_of_mem inRule, matchesPacket_named_iff.mpr ⟨atHost, atPort⟩⟩

end

/-! An entry, and all entries. -/

/-- What the parser makes of a configuration, of which each value is one word. -/
structure Compilable (entry : IPTableEntry) : Prop where
  isChain : entry.type = "INPUT" ∨ entry.type = "OUTPUT"
  protocols : NetworkGatewayParser.ValidRules entry.rules
  accepts : ∀ rule ∈ entry.rules, rule.target = .accept
  drops : entry.defaultTarget = .drop
  plain : ∀ rule ∈ entry.rules, PlainValues rule

def compileAll (documented : Documented Address) (entry : IPTableEntry) :
    List (Filter.Rule (Packet Address) Target) :=
  entry.rules.flatMap (compile documented entry)

section

variable {documented : Documented Address} {entry : IPTableEntry}

theorem Compilable.execute_rule (compilable : Compilable entry) {rule : Rule}
    (isRule : rule ∈ entry.rules) (chains : Chains Address) :
    (entry.ruleCommands rule).foldl (execute documented) chains =
      chains.change entry.type (·.append (compile documented entry rule)) := by
  have valid : rule.target ≠ .invalidTarget := by
    rw [compilable.accepts rule isRule]
    decide
  rw [ruleCommands_eq, List.foldl_map,
    Filter.Table.foldl_change fun protocol given chains => execute_command compilable.isChain
      (known_givenProtocols (compilable.protocols rule isRule) given)
      (compilable.plain rule isRule) valid chains]
  simp only [Filter.Chain.foldl_append]
  rfl

theorem Compilable.execute_policy (compilable : Compilable entry) (chains : Chains Address) :
    execute documented chains entry.interpretPolicy =
      chains.change entry.type (·.setPolicy .drop) := by
  have words : entry.interpretPolicy =
      render ["iptables", "-P", entry.type, "DROP"] := by
    rw [interpretPolicy, compilable.drops]
    rcases compilable.isChain with isInput | isOutput
    · rw [isInput]
      decide
    · rw [isOutput]
      decide
  have plain : PlainWords ["iptables", "-P", entry.type, "DROP"] := by
    unfold PlainWords
    rcases compilable.isChain with isInput | isOutput
    · rw [isInput]
      decide
    · rw [isOutput]
      decide
  rw [words, execute_render documented plain]
  rfl

theorem Compilable.execute_entry (compilable : Compilable entry) (chains : Chains Address) :
    entry.commands.foldl (execute documented) chains =
      chains.change entry.type fun chain =>
        (chain.append (compileAll documented entry)).setPolicy .drop := by
  have added : (entry.rules.flatMap entry.ruleCommands).foldl (execute documented) chains =
      chains.change entry.type (·.append (compileAll documented entry)) := by
    rw [List.foldl_flatMap,
      Filter.Table.foldl_change fun rule isRule => compilable.execute_rule isRule]
    simp only [Filter.Chain.foldl_append]
    rfl
  rw [commands, List.foldl_append, added, List.foldl_cons, List.foldl_nil,
    compilable.execute_policy, Filter.Table.change_change]

theorem compileAll_verdict (compilable : Compilable entry)
    {rule : Filter.Rule (Packet Address) Target} (isRule : rule ∈ compileAll documented entry) :
    rule.verdict = .accept := by
  obtain ⟨source, inEntry, isRule⟩ := List.mem_flatMap.mp isRule
  obtain ⟨protocol, _, isRule⟩ := List.mem_flatMap.mp isRule
  rw [compileWith] at isRule
  split at isRule
  · cases List.mem_singleton.mp isRule
    exact compilable.accepts source inEntry
  · cases isRule

variable {entries : List IPTableEntry} (compilable : ∀ entry ∈ entries, Compilable entry)

include compilable

theorem execute_entries (chains : Chains Address) (chain : String) :
    (entries.flatMap commands).foldl (execute documented) chains chain =
      ⟨(chains chain).rules ++
          (entries.filter (·.type = chain)).flatMap (compileAll documented),
        if entries.any (·.type = chain) then .drop else (chains chain).policy⟩ := by
  induction entries generalizing chains with
  | nil => simp
  | cons entry rest ih =>
      rw [List.flatMap_cons, List.foldl_append,
        ih fun later member => compilable later (.tail _ member),
        (compilable entry (.head _)).execute_entry]
      by_cases same : entry.type = chain
      · subst same
        simp [Filter.Chain.append, Filter.Chain.setPolicy]
      · rw [Filter.Table.change_of_ne (Ne.symm same)]
        simp [same]

/-- A packet is accepted if no entry is for its chain, or a rule of one of them admits it. -/
theorem verdict_entries {packet : Packet Address} {chains : Chains Address}
    (fresh : chains packet.chain = .empty .accept) :
    let verdict :=
      ((entries.flatMap commands).foldl (execute documented) chains packet.chain).verdict packet
    (verdict = .accept ∨ verdict = .drop) ∧
      (verdict = .accept ↔ (∀ entry ∈ entries, entry.type ≠ packet.chain) ∨
        ∃ entry ∈ entries, entry.type = packet.chain ∧
          ∃ rule ∈ entry.rules, Admits documented entry rule packet) := by
  have accepting : ∀ rule ∈ (entries.filter (·.type = packet.chain)).flatMap
      (compileAll documented), rule.verdict = .accept := by
    intro rule member
    obtain ⟨entry, isEntry, isRule⟩ := List.mem_flatMap.mp member
    exact compileAll_verdict (compilable entry (List.mem_filter.mp isEntry).1) isRule
  have admitted : (((entries.filter (·.type = packet.chain)).flatMap
        (compileAll documented)).any (·.selects packet) = true) ↔
      ∃ entry ∈ entries, entry.type = packet.chain ∧
        ∃ rule ∈ entry.rules, Admits documented entry rule packet := by
    rw [List.any_flatMap, List.any_eq_true]
    simp only [List.mem_filter, decide_eq_true_eq, and_assoc, compileAll, List.any_flatMap,
      List.any_eq_true (l := IPTableEntry.rules _)]
    refine exists_congr fun entry => and_congr_right fun isEntry => and_congr_right fun _ =>
      exists_congr fun rule => and_congr_right fun isRule => ?_
    exact any_compile_iff ((compilable entry isEntry).protocols rule isRule)
  have named : entries.any (·.type = packet.chain) = true ↔
      ¬ ∀ entry ∈ entries, entry.type ≠ packet.chain := by
    simp
  rw [execute_entries compilable, fresh, Filter.Chain.verdict, Filter.Chain.empty,
    List.nil_append, Filter.decision_of_uniform accepting, ← admitted]
  dsimp only
  cases ((entries.filter (·.type = packet.chain)).flatMap
      (compileAll documented)).any (·.selects packet) with
  | true => simp
  | false =>
      by_cases open_ : ∀ entry ∈ entries, entry.type ≠ packet.chain
      · have noEntry := Bool.eq_false_iff.mpr fun isNamed => named.mp isNamed open_
        rw [noEntry]
        exact ⟨.inl rfl, iff_of_true rfl (.inl open_)⟩
      · rw [named.mpr open_]
        exact ⟨.inr rfl, iff_of_false nofun fun either =>
          either.elim open_ (Bool.false_ne_true)⟩

end

end IPTableEntry

/-! The commands that an activation runs. -/

open Effect Effect.Act Container IPTableEntry

namespace NetworkGatewayParser

theorem accepts_parseRules {elements : List Json} {rules after : List Rule} {parsed : Bool}
    (parses : parseRules elements rules = .ok (parsed, after))
    (accepts : ∀ rule ∈ rules, rule.target = .accept) :
    ∀ rule ∈ after, rule.target = .accept := by
  induction elements generalizing rules with
  | nil =>
      cases parses
      exact accepts
  | cons element rest ih =>
      rw [parseRules] at parses
      split at parses
      · cases parsedRule : parseRule element rules with
        | error fault =>
            rw [parsedRule] at parses
            cases parses
        | ok result =>
            obtain ⟨parsedHere, between⟩ := result
            rw [parsedRule] at parses
            have acceptsBetween : ∀ rule ∈ between, rule.target = .accept := by
              unfold parseRule at parsedRule
              split at parsedRule
              · cases parsedRule
                exact accepts
              · cases ported : rulePorts element with
                | error fault =>
                    rw [ported] at parsedRule
                    cases parsedRule
                | ok ports =>
                    rw [ported] at parsedRule
                    cases parsedRule
                    exact List.forall_mem_append.mpr
                      ⟨accepts, List.forall_mem_singleton.mpr rfl⟩
            cases parsedHere with
            | false =>
                cases parses
                exact acceptsBetween
            | true => exact ih parses acceptsBetween
      · cases parses
        exact accepts

theorem accepts_of_parsed {element : Json} {parsed : Bool} {entry : IPTableEntry}
    (parses : parseNetworkGatewayConfiguration element .new = .ok (parsed, entry)) :
    ∀ rule ∈ entry.rules, rule.target = .accept := by
  unfold parseNetworkGatewayConfiguration at parses
  split at parses
  · cases parses
    exact List.forall_mem_nil _
  · rename_i chain _
    cases typed : chainType chain with
    | none =>
        rw [typed] at parses
        cases parses
        exact List.forall_mem_nil _
    | some type =>
        rw [typed] at parses
        dsimp only at parses
        split at parses
        · rename_i rules _
          cases ruled : parseRules rules [] with
          | error fault =>
              rw [IPTableEntry.new, ruled] at parses
              cases parses
          | ok result =>
              rw [IPTableEntry.new, ruled] at parses
              cases parses
              exact accepts_parseRules ruled (List.forall_mem_nil _)
        · cases parses
          exact List.forall_mem_nil _

theorem compilable_of_parsed {element : Json} {entry : IPTableEntry}
    (parses : parseNetworkGatewayConfiguration element .new = .ok (true, entry))
    (plain : ∀ rule ∈ entry.rules, PlainValues rule) : Compilable entry where
  isChain := by
    have isChain := (closesChain_of_parsed parses).type
    simpa [Netns.chains] using isChain
  protocols := by
    rcases entry_of_parsed parses with none | ⟨_, valid⟩
    · rw [none]
      exact List.forall_mem_nil _
    · exact valid
  accepts := accepts_of_parsed parses
  drops := (closesChain_of_parsed parses).defaultTarget
  plain := plain

end NetworkGatewayParser

/-- The commands that were run and exited with 0, in their order. -/
def commandsRun (recorded : History Sys) : List String := recorded.filterMap ranCommand

theorem commandsRun_append (first second : History Sys) :
    commandsRun (first ++ second) = commandsRun first ++ commandsRun second :=
  List.filterMap_append

theorem commandsRun_of_fromHost {recorded : History Sys}
    (fromHost : ∀ event ∈ recorded, FromHost event) : commandsRun recorded = [] := by
  refine List.filterMap_eq_nil_iff.mpr fun event member => ?_
  refine Option.eq_none_iff_forall_not_mem.mpr fun command ran => ?_
  cases ranCommand_eq_some.mp ran
  exact fromHost _ member _ rfl

theorem commandsRun_of_inserts {commands : List String} {recorded : History Sys}
    (inserted : Child.Inserts commands (.ok true) recorded)
    (effective : ∀ command outcome, commandEvent command outcome ∈ recorded →
      outcome = some (.spawned 0)) : commandsRun recorded = commands := by
  generalize same : Except.ok true = result at inserted
  induction inserted with
  | done => rfl
  | next command status _ ih =>
      cases effective command _ List.mem_cons_self
      have rest := ih (fun other outcome member =>
        effective other outcome (List.mem_cons_of_mem _ member)) same
      exact congrArg (command :: ·) rest
  | refused => cases same
  | killed => cases same

/-- A job that succeeds runs its commands, once and in their order. -/
theorem commandsRun_of_succeeds {job : Job} {run : FunctionRun} {recorded : History Sys}
    (ran : Ran job run recorded) (succeeds : Succeeds job run recorded) :
    commandsRun recorded = job.commands := by
  by_cases noCommands : job.commands = []
  · rw [noCommands]
    refine List.filterMap_eq_nil_iff.mpr fun event member => ?_
    refine Option.eq_none_iff_forall_not_mem.mpr fun command isCommand => ?_
    cases ranCommand_eq_some.mp isCommand
    have asked := ran.command_mem member
    rw [noCommands] at asked
    cases asked
  · cases job with
    | applyRules entry =>
        cases ran with
        | notStarted => cases succeeds.started
        | @started before status during after pid waited beforeFromHost process afterFromHost =>
            have whole : ∀ {event : Event Sys}, event ∈ during →
                event ∈ before ++ (during ++ after) :=
              fun member => List.mem_append_right _ (List.mem_append_left _ member)
            cases succeeds.exited
            obtain ⟨_, code, answer, inner, ended, zero, rfl⟩ := returned_of_process process
              rfl nofun fun error nonzero _ member =>
                nonzero (Option.some.inj (succeeds.unlimited _ (whole member)))
            obtain ⟨inserted, inserts, same⟩ := ended.inserts
            have isTrue : inserted = .ok true := by
              match inserted, same with
              | .ok true, _ => rfl
              | .ok false, same =>
                  cases same
                  cases zero
            subst isTrue
            have innerRun := commandsRun_of_inserts inserts fun command outcome member =>
              succeeds.commands command outcome (whole
                (List.mem_cons_of_mem _ (List.mem_append_left _ member)))
            rw [commandsRun_append, commandsRun_append, commandsRun_of_fromHost beforeFromHost,
              commandsRun_of_fromHost afterFromHost, List.nil_append, List.append_nil]
            change commandsRun (inner ++ [exitEvent code answer]) = _
            rw [commandsRun_append, innerRun]
            exact List.append_nil _
    | _ => exact absurd rfl noCommands

theorem run_runJobs_of_succeeds {jobs : List Job} {oracle : Oracle Sys}
    {world : World Sys Container} (every : EveryJob oracle Succeeds jobs world) :
    ∃ after recorded, (runJobs jobs).run oracle world =
        (.ok true, ⟨after, world.history ++ recorded⟩) ∧
      commandsRun recorded = jobs.flatMap Job.commands := by
  induction jobs generalizing world with
  | nil => exact ⟨world.state, [], by simp [runJobs], rfl⟩
  | cons job rest ih =>
      obtain ⟨here, later⟩ := every
      obtain ⟨after, recorded, ended, commands⟩ := ih later
      have seen : (jobEnded oracle world job).1.exitStatus = 0 := by
        rw [FunctionRun.exitStatus, here.exited]
        cases (jobEnded oracle world job).1.waited <;> rfl
      refine ⟨after, jobRecorded oracle world job ++ recorded, ?_, ?_⟩
      · rw [run_runJobs_cons, if_neg (not_not_intro seen), ended, jobEnded_history,
          List.append_assoc]
      · rw [commandsRun_append, commands, List.flatMap_cons,
          commandsRun_of_succeeds (ran_job oracle world job) here]

namespace NetworkGateway

theorem flatMap_jobs (self : NetworkGateway) (ip : Nat) :
    (self.jobs ip).flatMap Job.commands = self.entries.flatMap IPTableEntry.commands := by
  rw [jobs, List.flatMap_append, List.flatMap_map]
  split <;> rfl

variable {Address : Type}

def freshChains : Chains Address := fun _ => .empty .accept

def chainsAfter (documented : Documented Address) (recorded : History Sys) :
    Chains Address :=
  (commandsRun recorded).foldl (execute documented) freshChains

/-- After an activation in which every job succeeds, the chains of a new container say of
each packet what the configurations say. -/
theorem activation_filters (documented : Documented Address) {self : NetworkGateway}
    {oracle : Oracle Sys} {container : Container} {history : History Sys}
    (parsed : self.Parsed)
    (plain : ∀ entry ∈ self.entries, ∀ rule ∈ entry.rules, PlainValues rule)
    {jobs : List Job} {world : World Sys Container}
    (needed : self.neededJobs oracle container history = some (jobs, world))
    (every : EveryJob oracle Succeeds jobs world) :
    ∃ after recorded, activateGateway.run oracle ⟨(self, container), history⟩ =
        (.ok true, ⟨after, history ++ recorded⟩) ∧
      ∀ packet, let verdict := (chainsAfter documented recorded packet.chain).verdict packet
        (verdict = .accept ∨ verdict = .drop) ∧
          (verdict = .accept ↔ (∀ entry ∈ self.entries, entry.type ≠ packet.chain) ∨
            ∃ entry ∈ self.entries, entry.type = packet.chain ∧
              ∃ rule ∈ entry.rules, Admits documented entry rule packet) := by
  obtain ⟨ip, rfl⟩ := neededJobs_eq_some needed
  obtain ⟨⟨self', activated⟩, before, rfl, fromHost⟩ := run_activateGateway_of_needed needed
  obtain ⟨after, during, ended, ran⟩ := run_runJobs_of_succeeds every
  have compilable : ∀ entry ∈ self.entries, Compilable entry := fun entry isEntry =>
    let ⟨_, parses⟩ := parsed entry isEntry
    NetworkGatewayParser.compilable_of_parsed parses (plain entry isEntry)
  refine ⟨(self', after), before ++ during, ?_, fun packet => ?_⟩
  · rw [activated, ended, ← List.append_assoc]
  · rw [chainsAfter, commandsRun_append, commandsRun_of_fromHost fromHost, List.nil_append,
      ran, flatMap_jobs]
    exact verdict_entries compilable rfl

def harmless : Event Sys → Bool
  | ⟨.child .unlimitCoreDump, some error⟩ => error = 0
  | ⟨.child (.spawnCommandLine _), some (.spawned status)⟩ => status = 0
  | _ => true

theorem succeeds_of_harmless {job : Job} {run : FunctionRun} {recorded : History Sys}
    (ran : Ran job run recorded) (seen : SeenToSucceed job run recorded)
    (started : run.started = true) (waited : run.waited ≠ none)
    (notKilled : run.fate ≠ some .signaled) (each : recorded.all harmless = true) :
    Succeeds job run recorded := by
  refine succeeds_of_ran ran seen fun fails => ?_
  cases fails with
  | notStarted notStarted => exact absurd (started.symm.trans notStarted) (by decide)
  | notWaited notWaited => exact waited notWaited
  | killed killed => exact notKilled killed
  | notRun error nonzero _ member =>
      exact nonzero (of_decide_eq_true (List.all_eq_true.mp each _ member))
  | command command status nonzero member =>
      exact nonzero (of_decide_eq_true (List.all_eq_true.mp each _ member))

def lookingUpNames : NetworkGateway :=
  { new 0 "lxcbr0" "10.0.3.1" 24 with
    entries := [⟨"OUTPUT", [⟨"*", ["udp"], ⟨true, false, "53"⟩, .accept⟩], .drop⟩] }

theorem activation_filters_lookup :
    ∃ after recorded, activateGateway.run fortunate ⟨(lookingUpNames, runningContainer), []⟩ =
        (.ok true, ⟨after, [] ++ recorded⟩) ∧
      (chainsAfter byText recorded "OUTPUT").verdict nameLookup = .accept := by
  have parsed : lookingUpNames.Parsed := by
    refine List.forall_mem_singleton.mpr ⟨.object [("direction", .string "OUTGOING"),
      ("allow", .array [.object [("host", .string "*"), ("ports", .integer 53),
        ("protocols", .string "udp")]])], rfl⟩
  have plain : ∀ entry ∈ lookingUpNames.entries, ∀ rule ∈ entry.rules, PlainValues rule := by
    decide
  obtain ⟨after, recorded, ended, verdicts⟩ := activation_filters byText parsed plain
    (show lookingUpNames.neededJobs fortunate runningContainer [] = some _ from rfl)
    ⟨succeeds_of_harmless (ran_job _ _ _) rfl rfl nofun nofun rfl,
      succeeds_of_harmless (ran_job _ _ _) rfl rfl nofun nofun rfl,
      succeeds_of_harmless (ran_job _ _ _) rfl rfl nofun nofun rfl, trivial⟩
  refine ⟨after, recorded, ended, (verdicts nameLookup).2.mpr (.inr ?_)⟩
  refine ⟨_, List.mem_singleton.mpr rfl, rfl, _, List.mem_singleton.mpr rfl, ⟨rfl, ?_⟩, ?_, ?_⟩
  · exact fun isHost => absurd rfl isHost.2
  · intro _
    change byText.port "53" nameLookup.destinationPort = true
    decide
  · rw [if_neg (by decide)]
    decide

end NetworkGateway

end SoftwareContainers
