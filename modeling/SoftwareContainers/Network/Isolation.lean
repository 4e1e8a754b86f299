import SoftwareContainers.Network.Activation

namespace SoftwareContainers

open Effect Effect.Act Hook Container IPTableEntry

/-! Whether a container with a network drops what no rule matches. -/

def ranCommand : Event Sys → Option String
  | ⟨.child (.spawnCommandLine command), some (.spawned 0)⟩ => some command
  | _ => none

def raisesLink : Event Sys → Bool
  | ⟨.child .linkUp, some true⟩ => true
  | _ => false

theorem ranCommand_eq_some {event : Event Sys} {command : String} :
    ranCommand event = some command ↔
      event = commandEvent command (some (.spawned 0)) := by
  constructor
  · intro ran
    unfold ranCommand at ran
    split at ran
    · cases ran
      rfl
    · cases ran
  · rintro rfl
    rfl

def policySet (command chain : String) : Option Target :=
  [Target.accept, .drop].find? fun target =>
    command == "iptables -P " ++ chain ++ " " ++ convertTarget target

/-- The interface and the chains inside a container. -/
structure Netns where
  up : Bool
  policy : String → Target

namespace Netns

def fresh : Netns := ⟨false, fun _ => .accept⟩

def chains : List String := ["INPUT", "OUTPUT"]

def setBy (event : Event Sys) (chain : String) : Option Target :=
  (ranCommand event).bind fun command => policySet command chain

def step (netns : Netns) (event : Event Sys) : Netns where
  up := netns.up || raisesLink event
  policy chain := (setBy event chain).getD (netns.policy chain)

def Closed (netns : Netns) : Prop := ∀ chain ∈ chains, netns.policy chain = .drop

theorem up_foldl {recorded : History Sys} {netns : Netns} :
    (recorded.foldl step netns).up = true ↔
      netns.up = true ∨ ∃ event ∈ recorded, raisesLink event = true := by
  induction recorded generalizing netns with
  | nil => simp
  | cons event rest ih =>
      rw [List.foldl_cons, ih]
      simp [step, or_assoc]

theorem policy_foldl {recorded : History Sys} {netns : Netns} {chain : String}
    {wanted : Target}
    (only : ∀ event ∈ recorded, ∀ target, setBy event chain = some target →
      target = wanted) :
    (recorded.foldl step netns).policy chain = wanted ↔
      netns.policy chain = wanted ∨ ∃ event ∈ recorded, setBy event chain = some wanted := by
  induction recorded generalizing netns with
  | nil => simp
  | cons event rest ih =>
      rw [List.foldl_cons, ih fun later member => only later (List.mem_cons_of_mem _ member)]
      simp only [step, List.mem_cons, exists_eq_or_imp]
      cases sets : setBy event chain with
      | none => simp
      | some target =>
          have same := only event List.mem_cons_self target sets
          simp [same]

theorem foldl_fromHost {recorded : History Sys}
    (fromHost : ∀ event ∈ recorded, FromHost event) (netns : Netns) :
    recorded.foldl step netns = netns := by
  induction recorded with
  | nil => rfl
  | cons event rest ih =>
      obtain ⟨headFromHost, restFromHost⟩ := List.forall_mem_cons.mp fromHost
      have noCommand : ranCommand event = none := by
        refine Option.eq_none_iff_forall_not_mem.mpr fun command ran => ?_
        cases ranCommand_eq_some.mp ran
        exact headFromHost _ rfl
      have noLink : raisesLink event = false := by
        unfold raisesLink
        split
        · exact (headFromHost _ rfl).elim
        · rfl
      have unchanged : step netns event = netns := by
        simp [step, setBy, noCommand, noLink]
      rw [List.foldl_cons, unchanged, ih restFromHost]

end Netns

/-! What the parser makes of a configuration closes its chain. -/

/-- The entry is for one of the two chains, and drops by default. -/
structure ClosesChain (entry : IPTableEntry) : Prop where
  type : entry.type ∈ Netns.chains
  defaultTarget : entry.defaultTarget = .drop

theorem closesChain_of_parsed {element : Json} {entry : IPTableEntry}
    (parsed : NetworkGatewayParser.parseNetworkGatewayConfiguration element .new =
      .ok (true, entry)) : ClosesChain entry := by
  rw [NetworkGatewayParser.parseNetworkGatewayConfiguration] at parsed
  split at parsed
  · cases parsed
  · rename_i chain _
    dsimp only at parsed
    cases typed : NetworkGatewayParser.chainType chain with
    | none =>
        rw [typed] at parsed
        cases parsed
    | some type =>
        have isChain : type ∈ Netns.chains := by
          rw [NetworkGatewayParser.chainType] at typed
          split at typed
          · cases typed
            decide
          · split at typed
            · cases typed
              decide
            · cases typed
        rw [typed] at parsed
        dsimp only at parsed
        split at parsed
        · rename_i rules _
          cases ruled : NetworkGatewayParser.parseRules rules [] with
          | error error =>
              rw [IPTableEntry.new, ruled] at parsed
              cases parsed
          | ok result =>
              rw [IPTableEntry.new, ruled] at parsed
              obtain ⟨_, same⟩ := Prod.mk.inj (Except.ok.inj parsed)
              cases same
              exact ⟨isChain, rfl⟩
        · cases parsed

theorem append_ne_policy (rule chain target : String) :
    "iptables -A " ++ rule ≠ "iptables -P " ++ chain ++ " " ++ target := by
  intro same
  have chars := congrArg String.toList same
  simp only [String.toList_append] at chars
  have option := congrArg (·[10]?) chars
  simp at option

theorem ruleCommands_append {entry : IPTableEntry} {rule : Rule} {command : String}
    (isRule : command ∈ entry.ruleCommands rule) :
    ∃ options, command = "iptables -A " ++ options := by
  -- the equation lemmas of the two functions compare strings, which takes very long
  rw [ruleCommands] at isRule
  split at isRule
  · obtain ⟨protocol, _, rfl⟩ := List.mem_map.mp isRule
    delta interpretRuleWithProtocol
    simp only [String.append_assoc]
    exact ⟨_, rfl⟩
  · cases List.mem_singleton.mp isRule
    delta interpretRule
    simp only [String.append_assoc]
    exact ⟨_, rfl⟩

theorem policySet_policy : ∀ type ∈ Netns.chains, ∀ chain ∈ Netns.chains,
    policySet ("iptables -P " ++ type ++ " " ++ convertTarget .drop) chain =
      if type = chain then some .drop else none := by
  decide

theorem policySet_eq_some {entry : IPTableEntry} (closes : ClosesChain entry)
    {command chain : String} (isCommand : command ∈ entry.commands)
    (isChain : chain ∈ Netns.chains) {target : Target} :
    policySet command chain = some target ↔
      command = entry.interpretPolicy ∧ entry.type = chain ∧ target = .drop := by
  have policy : entry.interpretPolicy =
      "iptables -P " ++ entry.type ++ " " ++ convertTarget .drop := by
    rw [interpretPolicy, closes.defaultTarget]
    rfl
  rcases List.mem_append.mp isCommand with isRule | isLast
  · obtain ⟨rule, _, isRule⟩ := List.mem_flatMap.mp isRule
    obtain ⟨options, rfl⟩ := ruleCommands_append isRule
    rw [policy]
    simp [policySet, append_ne_policy]
  · cases List.mem_singleton.mp isLast
    rw [policy, policySet_policy entry.type closes.type chain isChain]
    split
    · next same => exact ⟨fun found => ⟨rfl, same, (Option.some.inj found).symm⟩,
        fun holds => congrArg some holds.2.2.symm⟩
    · next different => exact ⟨nofun, fun holds => absurd holds.2.1 different⟩

/-- The link is raised in the job. -/
def RaisesLink : JobProperty := fun _ _ recorded =>
  ∃ event ∈ recorded, raisesLink event = true

/-- The job is for the chain, and its policy command is run and exits with 0. -/
def SetsPolicy (chain : String) : JobProperty := fun job _ recorded =>
  ∃ entry, job = .applyRules entry ∧ entry.type = chain ∧
    commandEvent entry.interpretPolicy (some (.spawned 0)) ∈ recorded

namespace NetworkGateway

variable {self : NetworkGateway} {oracle : Oracle Sys} {container : Container}
  {history : History Sys} {netns : Netns}

def Parsed (self : NetworkGateway) : Prop :=
  ∀ entry ∈ self.entries, ∃ element,
    NetworkGatewayParser.parseNetworkGatewayConfiguration element .new = .ok (true, entry)

theorem setBy_job (parsed : self.Parsed) {ip : Nat} {job : Job}
    (isJob : job ∈ self.jobs ip) {run : FunctionRun} {recorded : History Sys}
    (ran : Ran job run recorded) {chain : String} (isChain : chain ∈ Netns.chains)
    {event : Event Sys} (member : event ∈ recorded) {target : Target} :
    Netns.setBy event chain = some target ↔
      ∃ entry, job = .applyRules entry ∧ entry.type = chain ∧ target = .drop ∧
        event = commandEvent entry.interpretPolicy (some (.spawned 0)) := by
  rw [Netns.setBy, Option.bind_eq_some_iff]
  constructor
  · rintro ⟨command, ranHere, sets⟩
    cases ranCommand_eq_some.mp ranHere
    have isCommand := ran.command_mem member
    cases job with
    | applyRules entry =>
        obtain ⟨element, parses⟩ := parsed entry (mem_entries_of_applyRules_mem isJob)
        obtain ⟨rfl, typed, rfl⟩ := (policySet_eq_some (closesChain_of_parsed parses)
          isCommand isChain).mp sets
        exact ⟨entry, rfl, typed, rfl, rfl⟩
    | _ => cases isCommand
  · rintro ⟨entry, rfl, typed, rfl, rfl⟩
    obtain ⟨element, parses⟩ := parsed entry (mem_entries_of_applyRules_mem isJob)
    exact ⟨_, ranCommand_eq_some.mpr rfl, (policySet_eq_some
      (closesChain_of_parsed parses) (ran.command_mem member) isChain).mpr
        ⟨rfl, typed, rfl⟩⟩

/-- However activation returns, a container whose interface is up drops by default
what comes in and what goes out. -/
def FailsClosed (self : NetworkGateway) (netns : Netns) (oracle : Oracle Sys)
    (container : Container) (history : History Sys) : Prop :=
  ∀ result after recorded, activateGateway.run oracle ⟨(self, container), history⟩ =
      (.ok result, ⟨after, history ++ recorded⟩) →
    (recorded.foldl Netns.step netns).up = true →
      (recorded.foldl Netns.step netns).Closed

/-- Unless the interface stays down, each chain is closed already or its policy is set
in a job that is reached. -/
def StaysClosed (self : NetworkGateway) (netns : Netns) (oracle : Oracle Sys)
    (container : Container) (history : History Sys) : Prop :=
  match self.neededJobs oracle container history with
  | none => self.ShiftsUndefined oracle container history ∨
      netns.up = false ∨ netns.Closed
  | some (jobs, world) =>
      (netns.up = false ∧ ¬ ReachesJob oracle RaisesLink jobs world) ∨
        ∀ chain ∈ Netns.chains, netns.policy chain = .drop ∨
          ReachesJob oracle (SetsPolicy chain) jobs world

theorem foldl_jobs (netns : Netns) (parsed : self.Parsed) {ip : Nat} {world : World Sys Container}
    {recorded : History Sys}
    (reaches : ∀ kind : Event Sys → Prop, (∃ event ∈ recorded, kind event) ↔
      ReachesJob oracle (fun _ _ recorded => ∃ event ∈ recorded, kind event)
        (self.jobs ip) world) :
    ((recorded.foldl Netns.step netns).up = true ↔
      netns.up = true ∨ ReachesJob oracle RaisesLink (self.jobs ip) world) ∧
    ∀ chain ∈ Netns.chains, ((recorded.foldl Netns.step netns).policy chain = .drop ↔
      netns.policy chain = .drop ∨
        ReachesJob oracle (SetsPolicy chain) (self.jobs ip) world) := by
  refine ⟨by rw [Netns.up_foldl, reaches]; rfl, fun chain isChain => ?_⟩
  have onlyDrop : ∀ event ∈ recorded, ∀ target,
      Netns.setBy event chain = some target → target = .drop := by
    intro event member target sets
    obtain ⟨job, isJob, run, jobRecorded, ran, event, inJob, sets⟩ :=
      ((reaches fun event => Netns.setBy event chain = some target).mp
        ⟨event, member, sets⟩).exists
    obtain ⟨_, _, _, isDrop, _⟩ := (setBy_job parsed isJob ran isChain inJob).mp sets
    exact isDrop
  rw [Netns.policy_foldl onlyDrop, reaches]
  refine or_congr Iff.rfl (reachesJob_congr fun job isJob run recorded ran => ?_)
  constructor
  · rintro ⟨event, inJob, sets⟩
    obtain ⟨entry, same, typed, _, rfl⟩ :=
      (setBy_job parsed isJob ran isChain inJob).mp sets
    exact ⟨entry, same, typed, inJob⟩
  · rintro ⟨entry, same, typed, inJob⟩
    exact ⟨_, inJob, (setBy_job parsed isJob ran isChain inJob).mpr
      ⟨entry, same, typed, rfl, rfl⟩⟩

theorem failsClosed_of_ended {result : Bool} {after : NetworkGateway × Container}
    {recorded : History Sys}
    (ended : activateGateway.run oracle ⟨(self, container), history⟩ =
      (.ok result, ⟨after, history ++ recorded⟩)) :
    self.FailsClosed netns oracle container history ↔
      ((recorded.foldl Netns.step netns).up = true →
        (recorded.foldl Netns.step netns).Closed) := by
  rw [FailsClosed, ended]
  constructor
  · exact fun closes => closes result after recorded rfl
  · intro closes _ _ other same
    simp only [Prod.mk.injEq, World.mk.injEq, List.append_cancel_left_eq] at same
    obtain ⟨_, _, rfl⟩ := same
    exact closes

/-- Isolation fails closed exactly when the container stays closed. -/
theorem failsClosed_iff (self : NetworkGateway) (netns : Netns) (oracle : Oracle Sys)
    (container : Container) (history : History Sys) (parsed : self.Parsed) :
    self.FailsClosed netns oracle container history ↔
      self.StaysClosed netns oracle container history := by
  rw [StaysClosed]
  cases needed : self.neededJobs oracle container history with
  | none =>
      obtain ⟨result, recorded, ended, fromHost, _, throws⟩ :=
        run_activateGateway_of_not_needed needed
      cases result with
      | error error =>
          rw [FailsClosed, ended]
          exact ⟨fun _ => .inl (throws.mp ⟨error, rfl⟩), fun _ _ _ _ same => nomatch same⟩
      | ok result =>
          have defined : ¬ self.ShiftsUndefined oracle container history :=
            fun undefined => nomatch throws.mpr undefined
          rw [failsClosed_of_ended ended, Netns.foldl_fromHost fromHost]
          cases netns.up <;> simp [defined]
  | some start =>
      obtain ⟨jobs, world⟩ := start
      obtain ⟨ip, rfl⟩ := neededJobs_eq_some needed
      obtain ⟨⟨self', activated⟩, before, rfl, fromHost⟩ :=
        run_activateGateway_of_needed needed
      obtain ⟨succeeded, after, during, jobsEnded, _, reaches⟩ :=
        run_runJobs (self.jobs ip) oracle ⟨container, history ++ before⟩
      have ended : activateGateway.run oracle ⟨(self, container), history⟩ =
          (.ok succeeded, ⟨(self', after), history ++ (before ++ during)⟩) := by
        rw [activated, jobsEnded, ← List.append_assoc]
      obtain ⟨upAfter, policyAfter⟩ := foldl_jobs netns parsed reaches
      rw [failsClosed_of_ended ended, List.foldl_append, Netns.foldl_fromHost fromHost,
        upAfter]
      constructor
      · intro closes
        by_cases isUp : netns.up = true ∨
            ReachesJob oracle RaisesLink (self.jobs ip) ⟨container, history ++ before⟩
        · exact .inr fun chain isChain =>
            (policyAfter chain isChain).mp (closes isUp chain isChain)
        · obtain ⟨isDown, notRaised⟩ := not_or.mp isUp
          exact .inl ⟨Bool.eq_false_iff.mpr isDown, notRaised⟩
      · rintro (⟨isDown, notRaised⟩ | closed) isUp chain isChain
        · rcases isUp with isUp | raised
          · simp [isDown] at isUp
          · exact (notRaised raised).elim
        · exact (policyAfter chain isChain).mpr (closed chain isChain)

/-- Everything succeeds, and what goes out is still accepted. -/
theorem outgoing_stays_open :
    ¬ closedGateway.FailsClosed Netns.fresh fortunate runningContainer [] := by
  intro closes
  have closed := closes true _ _ rfl rfl "OUTPUT" (by decide)
  exact absurd closed (by decide)

def closedBothWays : NetworkGateway :=
  { closedGateway with entries := [⟨"INPUT", [], .drop⟩, ⟨"OUTPUT", [], .drop⟩] }

theorem closedBothWays_failsClosed :
    closedBothWays.FailsClosed Netns.fresh fortunate runningContainer [] := by
  have parsed : closedBothWays.Parsed := by
    simp only [Parsed, closedBothWays, List.forall_mem_cons]
    exact ⟨⟨.object [("direction", .string "INCOMING"), ("allow", .array [])], rfl⟩,
      ⟨.object [("direction", .string "OUTGOING"), ("allow", .array [])], rfl⟩, by simp⟩
  refine (failsClosed_iff closedBothWays Netns.fresh fortunate runningContainer []
    parsed).mpr ?_
  refine Or.inr fun chain isChain => .inr ?_
  simp only [Netns.chains, List.mem_cons, List.not_mem_nil, or_false] at isChain
  rcases isChain with rfl | rfl
  · exact .inr ⟨rfl, .inr ⟨rfl, .inl ⟨_, rfl, rfl,
      List.mem_of_getElem? (show _[3]? = _ from rfl)⟩⟩⟩
  · exact .inr ⟨rfl, .inr ⟨rfl, .inr ⟨rfl, .inl ⟨_, rfl, rfl,
      List.mem_of_getElem? (show _[3]? = _ from rfl)⟩⟩⟩⟩

end NetworkGateway

end SoftwareContainers
