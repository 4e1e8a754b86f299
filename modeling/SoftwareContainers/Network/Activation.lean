import SoftwareContainers.Container.Jobs
import SoftwareContainers.Network.Gateway

namespace SoftwareContainers

open Effect Effect.Act Hook

/-! The jobs of an activation of the network gateway: what is seen of them, and what
they do. -/

namespace NetworkGateway

open Container

/-- The jobs an activation needs for an address, in order. -/
def jobs (self : NetworkGateway) (ip : Nat) : List Job :=
  (if self.interfaceInitialized then []
    else [.bringUpEthernet ip self.netmask, .setDefaultGateway self.gateway]) ++
    self.entries.map .applyRules

/-- The jobs of an activation and the world they start in; none when it ends before,
for want of a gateway address, of a bridge or of an address. -/
def neededJobs (self : NetworkGateway) (oracle : Oracle Sys)
    (container : Container) (history : History Sys) :
    Option (List Job × World Sys Container) :=
  let checked := isBridgeAvailable.run oracle ⟨(self, container), history⟩
  if self.gateway = "" then
    none
  else
    match checked.1, generateIP self.netmask self.gateway self.containerID with
    | .ok true, .ok ip => some (self.jobs ip, ⟨container, checked.2.history⟩)
    | _, _ => none

theorem neededJobs_eq_some {self : NetworkGateway} {oracle : Oracle Sys}
    {container : Container} {history : History Sys} {jobs : List Job}
    {world : World Sys Container}
    (needed : self.neededJobs oracle container history = some (jobs, world)) :
    ∃ ip, jobs = self.jobs ip := by
  rw [neededJobs] at needed
  split at needed
  · cases needed
  · split at needed
    · cases needed
      exact ⟨_, rfl⟩
    · cases needed

theorem mem_entries_of_applyRules_mem {self : NetworkGateway} {ip : Nat}
    {entry : IPTableEntry} (member : Job.applyRules entry ∈ self.jobs ip) :
    entry ∈ self.entries := by
  rw [jobs] at member
  split at member <;> simpa using member

/-- The address is computed with a shift by a negative amount. -/
def ShiftsUndefined (self : NetworkGateway) (oracle : Oracle Sys)
    (container : Container) (history : History Sys) : Prop :=
  self.gateway ≠ "" ∧ 31 < self.netmask ∧
    (isBridgeAvailable.run oracle ⟨(self, container), history⟩).1 = .ok true

theorem generateIP_error {netmask : Nat} {gatewayIP : String} {containerID : Int}
    {error : Fault} (generated : generateIP netmask gatewayIP containerID = .error error) :
    (31 < netmask ∧ error = .undefined) ∨
      (¬ 31 < netmask ∧ ∃ message, error = .ipAllocationError message) := by
  rw [generateIP] at generated
  split at generated
  · rename_i large
    cases generated
    exact .inl ⟨large, rfl⟩
  · rename_i small
    refine .inr ⟨small, ?_⟩
    split at generated
    · cases generated
      exact ⟨_, rfl⟩
    · split at generated
      · cases generated
        exact ⟨_, rfl⟩
      · dsimp only at generated
        split at generated
        · cases generated
          exact ⟨_, rfl⟩
        · cases generated

section

variable (self : NetworkGateway) (oracle : Oracle Sys) (container : Container)
  (history : History Sys)

theorem run_isBridgeAvailable :
    ∃ available recorded, isBridgeAvailable.run oracle ⟨(self, container), history⟩ =
        (.ok available, ⟨(self, container), history ++ recorded⟩) ∧
      ∀ event ∈ recorded, FromHost event := by
  have looksFromHost : Keeps (fun whole => whole = (self, container)) FromHost
      (fun _ => False) isBridgeAvailable := by
    refine keeps_bind (keeps_get_bind fun _ _ => keeps_pure _) fun _ => ?_
    refine keeps_bind (keeps_ask fun _ _ => nofun) fun _ => ?_
    exact keeps_bind (keeps_ask fun _ _ => nofun) fun _ => keeps_ask fun _ _ => nofun
  obtain ⟨same, ⟨recorded, grown, fromHost⟩, never⟩ :=
    looksFromHost oracle ⟨(self, container), history⟩ rfl
  cases ended : isBridgeAvailable.run oracle ⟨(self, container), history⟩ with
  | mk result world =>
      rw [ended] at same grown never
      cases result with
      | error error => exact (never error rfl).elim
      | ok available =>
          refine ⟨available, recorded, ?_, fromHost⟩
          rw [← same, ← grown]

theorem run_applyEntries (entries : List IPTableEntry) :
    (applyEntries entries).run oracle ⟨(self, container), history⟩ =
      let ended := (runJobs (entries.map .applyRules)).run oracle ⟨container, history⟩
      (ended.1, ⟨(self, ended.2.state), ended.2.history⟩) := by
  induction entries generalizing container history with
  | nil => rfl
  | cons entry rest ih =>
      rw [List.map_cons, run_runJobs_cons, applyEntries, run_bind, onContainer, run_zoom]
      dsimp only [containerLens]
      rw [run_runFunctionJob]
      dsimp only
      split
      · rfl
      · exact ih _ _

theorem run_setDefaultGateway :
    setDefaultGateway.run oracle ⟨(self, container), history⟩ =
      let ended := jobEnded oracle ⟨container, history⟩ (.setDefaultGateway self.gateway)
      (.ok (ended.1.exitStatus == 0),
        ⟨(self, ended.2.state), ended.2.history⟩) := by
  rw [setDefaultGateway, getGateway, run_bind, run_get_bind]
  simp only [run_pure, onContainer, run_bind, run_zoom, containerLens]
  rw [run_runFunctionJob]

theorem run_up_of_initialized (initialized : self.interfaceInitialized = true) :
    up.run oracle ⟨(self, container), history⟩ =
      (.ok true, ⟨(self, container), history⟩) := by
  rw [up, getGateway, run_bind, run_get_bind]
  simp only [run_pure, initialized, if_true]

theorem run_up_of_not_initialized (initialized : self.interfaceInitialized = false) :
    up.run oracle ⟨(self, container), history⟩ =
      let raised := jobEnded oracle ⟨container, history⟩
        (.bringUpEthernet self.ip self.netmask)
      if raised.1.exitStatus = 0 then
        setDefaultGateway.run oracle
          ⟨({ self with interfaceInitialized := true }, raised.2.state),
            raised.2.history⟩
      else
        (.ok false, ⟨(self, raised.2.state), raised.2.history⟩) := by
  rw [up, getGateway, run_bind, run_get_bind]
  simp only [run_pure, initialized, Bool.false_eq_true, if_false, onContainer,
    run_bind, run_zoom, containerLens]
  rw [run_runFunctionJob]
  by_cases seen : (jobEnded oracle ⟨container, history⟩
      (.bringUpEthernet self.ip self.netmask)).1.exitStatus = 0
  · simp only [seen, Int.cast_ofNat_Int, if_true]
    rfl
  · have notSuccess : ((jobEnded oracle ⟨container, history⟩
        (.bringUpEthernet self.ip self.netmask)).1.exitStatus : Int) ≠ Child.SUCCESS := by
      simpa [Child.SUCCESS] using seen
    simp only [if_neg notSuccess, if_neg seen]
    rfl

theorem run_up_applyEntries :
    ∃ self', (do
        if !(← up) then
          return false
        else
          applyEntries self.entries : Hook NetworkGateway Bool).run oracle
          ⟨(self, container), history⟩ =
      let ended := (runJobs (self.jobs self.ip)).run oracle ⟨container, history⟩
      (ended.1, ⟨(self', ended.2.state), ended.2.history⟩) := by
  cases initialized : self.interfaceInitialized with
  | true =>
      refine ⟨self, ?_⟩
      rw [run_bind_ok (run_up_of_initialized self oracle container history initialized),
        jobs, initialized]
      exact run_applyEntries self oracle container history self.entries
  | false =>
      have upEnded := run_up_of_not_initialized self oracle container history initialized
      rw [run_bind, upEnded, jobs, initialized]
      simp only [Bool.false_eq_true, if_false, List.cons_append, List.nil_append,
        run_runJobs_cons]
      by_cases raised : (jobEnded oracle ⟨container, history⟩
          (.bringUpEthernet self.ip self.netmask)).1.exitStatus = 0
      · rw [if_pos raised, if_neg (not_not_intro raised), run_setDefaultGateway]
        by_cases routed : (jobEnded oracle (jobEnded oracle ⟨container, history⟩
            (.bringUpEthernet self.ip self.netmask)).2
              (.setDefaultGateway self.gateway)).1.exitStatus = 0
        · refine ⟨{ self with interfaceInitialized := true }, ?_⟩
          rw [if_neg (not_not_intro routed)]
          simp only [routed]
          exact run_applyEntries _ oracle _ _ self.entries
        · refine ⟨{ self with interfaceInitialized := true }, ?_⟩
          rw [if_pos routed]
          have notRouted : ((jobEnded oracle (jobEnded oracle ⟨container, history⟩
            (.bringUpEthernet self.ip self.netmask)).2
              (.setDefaultGateway self.gateway)).1.exitStatus == 0) = false := by
            simpa using routed
          simp only [notRouted]
          rfl
      · refine ⟨self, ?_⟩
        rw [if_neg raised, if_pos raised]
        rfl

variable {self oracle container history}

theorem run_activateGateway_of_needed {jobs : List Job} {world : World Sys Container}
    (needed : self.neededJobs oracle container history = some (jobs, world)) :
    (∃ self', activateGateway.run oracle ⟨(self, container), history⟩ =
      let ended := (runJobs jobs).run oracle world
      (ended.1, ⟨(self', ended.2.state), ended.2.history⟩)) ∧
    ∃ recorded, world = ⟨container, history ++ recorded⟩ ∧
      ∀ event ∈ recorded, FromHost event := by
  obtain ⟨available, recorded, checked, fromHost⟩ :=
    run_isBridgeAvailable self oracle container history
  have nonempty : self.gateway ≠ "" := by
    intro empty
    simp [neededJobs, empty] at needed
  rw [neededJobs, if_neg nonempty, checked] at needed
  cases available with
  | false => simp at needed
  | true =>
      cases generated : generateIP self.netmask self.gateway self.containerID with
      | error error => simp [generated] at needed
      | ok ip =>
          simp only [generated, Option.some.injEq, Prod.mk.injEq] at needed
          obtain ⟨rfl, rfl⟩ := needed
          refine ⟨?_, recorded, rfl, fromHost⟩
          obtain ⟨self', ended⟩ := run_up_applyEntries { self with ip } oracle container
            (history ++ recorded)
          refine ⟨self', ?_⟩
          rw [activateGateway, getGateway, run_bind, run_get_bind]
          simp only [run_pure, if_neg nonempty]
          rw [run_bind_ok checked]
          simp only [generated, Bool.not_true, Bool.false_eq_true, if_false,
            modifyGateway, run_modify_bind]
          exact ended

theorem run_activateGateway_of_not_needed
    (notNeeded : self.neededJobs oracle container history = none) :
    ∃ result recorded, activateGateway.run oracle ⟨(self, container), history⟩ =
        (result, ⟨(self, container), history ++ recorded⟩) ∧
      (∀ event ∈ recorded, FromHost event) ∧
      (self.gateway ≠ "" → result ≠ .ok true) ∧
      ((∃ error, result = .error error) ↔
        self.ShiftsUndefined oracle container history) := by
  rw [activateGateway, getGateway, run_bind, run_get_bind, ShiftsUndefined]
  simp only [run_pure]
  by_cases empty : self.gateway = ""
  · exact ⟨.ok true, [], by simp [empty], by simp, absurd empty, by simp [empty]⟩
  · obtain ⟨available, recorded, checked, fromHost⟩ :=
      run_isBridgeAvailable self oracle container history
    rw [neededJobs, if_neg empty, checked] at notNeeded
    rw [if_neg empty, run_bind_ok checked, checked]
    cases available with
    | false => exact ⟨.ok false, recorded, rfl, fromHost, by simp, by simp⟩
    | true =>
        cases generated : generateIP self.netmask self.gateway self.containerID with
        | ok ip => simp [generated] at notNeeded
        | error error =>
            rcases generateIP_error generated with ⟨large, rfl⟩ | ⟨small, message, rfl⟩
            · exact ⟨.error .undefined, recorded, rfl, fromHost, by simp,
                by simp [empty, large]⟩
            · exact ⟨.ok false, recorded, rfl, fromHost, by simp, by simp [small]⟩

end

def closedGateway : NetworkGateway :=
  { new 0 "lxcbr0" "10.0.3.1" 24 with entries := [⟨"INPUT", [], .drop⟩] }

def runningContainer : Container :=
  { Container.new "SC-0" "" "/tmp" false 1 with state := .started, hasContainer := true }

end NetworkGateway

end SoftwareContainers
