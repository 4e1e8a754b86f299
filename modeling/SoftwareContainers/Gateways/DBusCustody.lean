import SoftwareContainers.Effect.Hoare
import SoftwareContainers.Gateway.LifeCycle
import SoftwareContainers.Gateways.Contracts

namespace SoftwareContainers

open Effect Effect.Act Hook

/-! The dbus-proxies of an instance, from the first call to the end of its destructor. -/

/-- What became of the proxies that were spawned, and whether every call was about one
that was still there. -/
structure Custody where
  alive : List Int
  killed : List Int
  opened : List Int
  sound : Bool
  deriving DecidableEq, Repr

namespace Custody

def none : Custody := ⟨[], [], [], true⟩

/-- A proxy is killed while it is alive, reaped once it was killed, and its standard
input is closed while it is open; no proxy is spawned while another is alive. -/
def after (custody : Custody) : Event Sys → Custody
  | ⟨.spawnAsyncWithPipes _ _, some (pid, proxyStdin)⟩ => { custody with
      alive := pid :: custody.alive
      opened := proxyStdin :: custody.opened
      sound := custody.sound && custody.alive.isEmpty }
  | ⟨.kill pid, _⟩ => { custody with
      alive := custody.alive.erase pid
      killed := pid :: custody.killed
      sound := custody.sound && custody.alive.contains pid }
  | ⟨.waitpid pid, _⟩ => { custody with
      killed := custody.killed.erase pid
      sound := custody.sound && custody.killed.contains pid }
  | ⟨.close proxyStdin, _⟩ => { custody with
      opened := custody.opened.erase proxyStdin
      sound := custody.sound && custody.opened.contains proxyStdin }
  | _ => custody

def of (history : History Sys) : Custody := history.foldl after none

def unlinkFailed (history : History Sys) : Bool :=
  history.any fun
    | ⟨.unlink _, false⟩ => true
    | _ => false

def concerns : SysCall → Bool
  | .spawnAsyncWithPipes .. | .kill _ | .waitpid _ | .close _ | .unlink _ => true
  | _ => false

theorem of_append (first second : History Sys) :
    of (first ++ second) = second.foldl after (of first) :=
  List.foldl_append

theorem unlinkFailed_append (first second : History Sys) :
    unlinkFailed (first ++ second) = (unlinkFailed first || unlinkFailed second) :=
  List.any_append

theorem sound_after {custody : Custody} (unsound : custody.sound = false)
    (event : Event Sys) : (custody.after event).sound = false := by
  unfold after
  split <;> simp [unsound]

theorem after_unseen (custody : Custody) {event : Event Sys}
    (unseen : concerns event.call = false) : custody.after event = custody := by
  unfold after
  split <;> first | rfl | exact nomatch unseen

def account (history : History Sys) : Custody × Bool := (of history, unlinkFailed history)

theorem account_unseen (history : History Sys) (event : Event Sys)
    (unseen : concerns event.call = false) :
    account (history ++ [event]) = account history := by
  have nothingFailed : unlinkFailed [event] = false := by
    obtain ⟨call, answer⟩ := event
    cases call <;> first | rfl | exact nomatch unseen
  rw [account, of_append, unlinkFailed_append, nothingFailed, Bool.or_false, List.foldl_cons,
    after_unseen _ unseen]
  rfl

end Custody

namespace DBusGatewayInstance

/-- What `teardown` returns is not looked at. -/
def destructor : Hook DBusGatewayInstance PUnit := do
  if (← getGateway).isActivated then
    let _ ← hooks.teardown
    return ⟨⟩
  else
    return ⟨⟩

/-- At the end no proxy is left, and no call was wrong. -/
def ReleasesProxies (history : History Sys) : Prop :=
  (Custody.of history).sound = true ∧ (Custody.of history).alive = [] ∧
    (Custody.of history).killed = []

instance (history : History Sys) : Decidable (ReleasesProxies history) :=
  inferInstanceAs (Decidable (_ ∧ _ ∧ _))

def SpawnsProcesses : Event Sys → Prop
  | ⟨.spawnAsyncWithPipes _ _, some (pid, _)⟩ => 0 < pid
  | _ => True

def held (self : DBusGatewayInstance) : Custody :=
  if self.base.activatedOnce then ⟨[self.pid], [], [self.proxyStdin], true⟩ else .none

/-- A call was wrong, or the proxy is gone and will be killed once more. -/
def Doomed (self : DBusGatewayInstance) (custody : Custody) : Prop :=
  custody.sound = false ∨ self.base.activatedOnce = true ∧ self.pid ∉ custody.alive

structure Keeping (bus : DBusGatewayInstance) (account : Custody × Bool) : Prop where
  dynamic : bus.base.isDynamic = true
  activated : bus.base.state = .activated → bus.base.activatedOnce = true
  pid : bus.base.activatedOnce = true → bus.pid ≠ -1
  kept : account.2 = false → account.1 = bus.held
  lost : account.2 = true → bus.Doomed account.1

abbrev About (holds : DBusGatewayInstance → Custody × Bool → Prop)
    (world : World Sys (DBusGatewayInstance × Container)) : Prop :=
  holds world.state.1 (Custody.account world.history)

abbrev KeepingIn : World Sys (DBusGatewayInstance × Container) → Prop := About Keeping

abbrev Unlaunched : World Sys (DBusGatewayInstance × Container) → Prop :=
  About fun self account => self.Keeping account ∧ self.base.activatedOnce = false

abbrev Maintaining {α : Type} (method : Hook DBusGatewayInstance α) : Prop :=
  Maintains SpawnsProcesses KeepingIn method

theorem keeping_new (type : ProxyType) (gatewayDir containerId : String)
    (container : Container) :
    KeepingIn ⟨(new type gatewayDir containerId, container), []⟩ where
  dynamic := rfl
  activated := nofun
  pid := nofun
  kept _ := rfl
  lost := nofun

section

variable {α : Type}

theorem maintains_of_leaves {holds : DBusGatewayInstance → Custody × Bool → Prop}
    {method : Hook DBusGatewayInstance α} {may : Fault → Prop}
    (kept : Keeps (fun _ => True) (fun event => Custody.concerns event.call = false) may method)
    (leaves : Leaves Prod.fst method) : Maintains SpawnsProcesses (About holds) method :=
  kept.maintains leaves Custody.account_unseen

theorem maintains_sys {holds : DBusGatewayInstance → Custody × Bool → Prop}
    {call : SysCall} (unseen : Custody.concerns call = false) :
    Maintains SpawnsProcesses (About holds) (sys call : Hook DBusGatewayInstance _) :=
  maintains_of_leaves (keeps_ask fun _ => unseen : Keeps _ _ (fun _ => True) _) (leaves_ask _)

theorem meets_getGateway_bind {pre : World Sys (DBusGatewayInstance × Container) → Prop}
    {post : Except Fault α → World Sys (DBusGatewayInstance × Container) → Prop}
    {next : DBusGatewayInstance → Hook DBusGatewayInstance α}
    (rest : ∀ self, Meets SpawnsProcesses (fun world => pre world ∧ world.state.1 = self) post
      (next self)) : Meets SpawnsProcesses pre post (getGateway >>= next) :=
  fun oracle answers world holds => rest world.state.1 oracle answers world ⟨holds, rfl⟩

theorem meets_getBase_bind {pre : World Sys (DBusGatewayInstance × Container) → Prop}
    {post : Except Fault α → World Sys (DBusGatewayInstance × Container) → Prop}
    {next : GatewayBase → Hook DBusGatewayInstance α}
    (rest : ∀ base, Meets SpawnsProcesses (fun world => pre world ∧ world.state.1.base = base)
      post (next base)) : Meets SpawnsProcesses pre post (hooks.getBase >>= next) :=
  fun oracle answers world holds =>
    rest world.state.1.base oracle answers world ⟨holds, rfl⟩

theorem maintaining_getGateway_bind {next : DBusGatewayInstance → Hook DBusGatewayInstance α}
    (rest : ∀ self, Maintaining (next self)) : Maintaining (getGateway >>= next) :=
  meets_getGateway_bind fun self => (rest self).strengthen fun _ holds => holds.1

end

/-! Configurations have nothing to do with the proxy. -/

theorem Keeping.setState {self : DBusGatewayInstance} {account : Custody × Bool}
    {state : GatewayState} (keeping : self.Keeping account)
    (activated : state = .activated → self.base.activatedOnce = true) :
    Keeping { self with base := { self.base with state } } account :=
  { keeping with activated }

theorem maintaining_readConfigElement (element : Json) :
    Maintaining (readConfigElement element) := by
  refine maintaining_getGateway_bind fun self => ?_
  cases element.objectGet self.typeStr with
  | none => exact meets_pure fun _ keeping => keeping
  | some value =>
      cases value with
      | array children =>
          refine maintains_bind (meets_modify fun _ keeping => { keeping with }) fun _ => ?_
          exact meets_ite (fun _ => meets_throw fun _ keeping => keeping)
            fun _ => meets_pure fun _ keeping => keeping
      | _ => exact meets_throw fun _ keeping => keeping

theorem maintaining_readConfigElements (elements : List Json) :
    Maintaining (hooks.readConfigElements elements) := by
  induction elements with
  | nil => exact meets_pure fun _ keeping => keeping
  | cons element rest ih =>
      refine meets_ite (fun _ => meets_pure fun _ keeping => keeping) fun _ => ?_
      exact maintains_bind (maintaining_readConfigElement element) fun _ =>
        meets_ite (fun _ => meets_pure fun _ keeping => keeping) fun _ => ih

theorem maintaining_setConfig (config : Json) : Maintaining (hooks.setConfig config) := by
  refine meets_getBase_bind fun base => ?_
  suffices rest : Maintaining _ from rest.strengthen fun _ holds => holds.1
  refine meets_ite (fun _ => meets_throw fun _ keeping => keeping) fun _ => ?_
  cases config with
  | array elements =>
      cases elements with
      | nil => exact meets_pure fun _ keeping => keeping
      | cons head tail =>
          refine maintains_bind (maintaining_readConfigElements (head :: tail)) fun _ =>
            meets_ite (fun _ => meets_pure fun _ keeping => keeping) fun _ => ?_
          exact maintains_bind (meets_modify fun _ keeping => keeping.setState nofun)
            fun _ => meets_pure fun _ keeping => keeping
  | _ => exact meets_pure fun _ keeping => keeping

/-! The activation. -/

abbrev HasLaunched (result : Except Fault Bool)
    (world : World Sys (DBusGatewayInstance × Container)) : Prop :=
  KeepingIn world ∧ (result = .ok true → world.state.1.base.activatedOnce = true)

abbrev launch (self : DBusGatewayInstance) (pid proxyStdin : Int) : DBusGatewayInstance :=
  { self with pid, proxyStdin, base := { self.base with activatedOnce := true } }

theorem Keeping.launch {self : DBusGatewayInstance} {history : History Sys}
    {commandVec envVec : List String} {pid proxyStdin : Int}
    (keeping : self.Keeping (Custody.account history))
    (never : self.base.activatedOnce = false) (positive : 0 < pid) :
    (self.launch pid proxyStdin).Keeping (Custody.account
      (history ++ [⟨.spawnAsyncWithPipes commandVec envVec, some (pid, proxyStdin)⟩])) where
  dynamic := keeping.dynamic
  activated _ := rfl
  pid _ := by
    change pid ≠ -1
    omega
  kept unfailed := by
    have before : Custody.unlinkFailed history = false := by
      rw [Custody.account, Custody.unlinkFailed_append] at unfailed
      exact (Bool.or_eq_false_iff.mp unfailed).1
    have none : Custody.of history = .none := by
      have same : Custody.of history = self.held := keeping.kept before
      rw [same, held, never]
      rfl
    rw [Custody.account, Custody.of_append, none]
    rfl
  lost failed := by
    have before : Custody.unlinkFailed history = true := by
      rw [Custody.account, Custody.unlinkFailed_append] at failed
      exact (Bool.or_eq_true_iff.mp failed).resolve_right nofun
    have unsound : (Custody.of history).sound = false :=
      (keeping.lost before).resolve_right fun launched =>
        Bool.false_ne_true (never.symm.trans launched.1)
    refine .inl ?_
    dsimp only [Custody.account]
    rw [Custody.of_append, List.foldl_cons, List.foldl_nil]
    exact Custody.sound_after unsound _

/-- What holds between the answer to the spawn and what is made of it. -/
def Spawning (spawned : Option (Int × Int))
    (world : World Sys (DBusGatewayInstance × Container)) : Prop :=
  match spawned with
  | some (pid, proxyStdin) =>
      (world.state.1.launch pid proxyStdin).Keeping (Custody.account world.history)
  | none => KeepingIn world

theorem meets_startDBusProxy (commandVec envVec : List String) :
    Meets SpawnsProcesses Unlaunched HasLaunched (startDBusProxy commandVec envVec) := by
  refine meets_ask_bind Spawning (fun world spawned holds fair => ?_) fun spawned => ?_
  · cases spawned with
    | some process => exact holds.1.launch holds.2 fair
    | none =>
        have same : Custody.account (world.history ++ [⟨.spawnAsyncWithPipes commandVec envVec,
            none⟩]) = Custody.account world.history := by
          simp [Custody.account, Custody.of_append, Custody.unlinkFailed, Custody.after]
        rw [Spawning, KeepingIn, About, same]
        exact holds.1
  · cases spawned with
    | none => exact meets_pure fun _ keeping => ⟨keeping, nofun⟩
    | some process =>
        exact meets_bind (fun _ world => KeepingIn world ∧
          world.state.1.base.activatedOnce = true) (meets_modify fun _ keeping => ⟨keeping, rfl⟩)
          (fun _ => meets_pure fun _ holds => ⟨holds.1, fun _ => holds.2⟩)
          fun _ _ holds => ⟨holds.1, nofun⟩

theorem unseen_writeToFile (path content : String) :
    Keeps (fun _ => True) (fun event => Custody.concerns event.call = false) (fun _ => True)
      (Toolkit.writeToFile path content) := by
  refine keeps_bind (keeps_ask fun _ => rfl) fun written =>
    keeps_ite (fun _ => keeps_pure _) fun _ => ?_
  refine keeps_bind (keeps_get_bind fun _ _ => keeps_pure _) fun listed =>
    keeps_ite (fun _ => keeps_pure _) fun _ => ?_
  exact keeps_bind (keeps_modify fun _ _ => trivial) fun _ => keeps_pure _

theorem maintains_setEnvironmentVariable {holds : DBusGatewayInstance → Custody × Bool → Prop}
    (var val : String) :
    Maintains SpawnsProcesses (About holds)
      (onContainer (Container.setEnvironmentVariable var val)) := by
  have unseen : Keeps (fun _ => True) (fun event => Custody.concerns event.call = false)
      (fun _ => True) (Container.setEnvironmentVariable var val) := by
    refine keeps_get_bind fun _ _ => keeps_ite (fun _ => keeps_pure _) fun _ => ?_
    refine keeps_bind (keeps_modify fun _ _ => trivial) fun _ => keeps_get_bind fun self _ => ?_
    exact keeps_bind (keeps_zoom (fun _ _ => trivial) (fun _ _ _ _ => trivial)
      (unseen_writeToFile _ _)) fun _ => keeps_pure _
  exact maintains_of_leaves (keeps_zoom (fun _ _ => trivial) (fun _ _ _ _ => trivial) unseen)
    (leaves_zoom fun _ _ => rfl)

theorem meets_launchProxy : Meets SpawnsProcesses Unlaunched HasLaunched launchProxy := by
  refine meets_getGateway_bind fun self => ?_
  suffices rest : Meets SpawnsProcesses Unlaunched HasLaunched _ from
    rest.strengthen fun _ holds => holds.1
  refine meets_bind_maintains (maintains_setEnvironmentVariable _ _) (fun _ => ?_)
    fun _ _ holds => ⟨holds.1, nofun⟩
  refine meets_bind_maintains (maintains_sys rfl) (fun envValue => ?_)
    fun _ _ holds => ⟨holds.1, nofun⟩
  cases envValue with
  | none =>
      exact meets_ite (fun _ => meets_pure fun _ holds => ⟨holds.1, nofun⟩)
        fun _ => meets_startDBusProxy _ _
  | some envValue => exact meets_startDBusProxy _ _

theorem maintains_isSocketCreated {holds : DBusGatewayInstance → Custody × Bool → Prop}
    (socket : String) (count : Nat) :
    Maintains SpawnsProcesses (About holds) (isSocketCreated socket count) := by
  induction count with
  | zero => exact meets_pure fun _ held => held
  | succ count ih =>
      exact maintains_bind (maintains_sys rfl) fun _ =>
        meets_ite (fun _ => meets_pure fun _ held => held) fun _ => ih

theorem maintains_testDBusConnection {holds : DBusGatewayInstance → Custody × Bool → Prop}
    (configuration : Json) :
    Maintains SpawnsProcesses (About holds) (testDBusConnection configuration) := by
  refine meets_getGateway_bind fun self => ?_
  suffices rest : Maintains SpawnsProcesses (About holds) _ from
    rest.strengthen fun _ held => held.1
  refine maintains_bind (maintains_sys rfl) fun written => ?_
  cases written with
  | failed => exact meets_pure fun _ held => held
  | whole => exact maintains_isSocketCreated _ _
  | part => exact meets_pure fun _ held => held

theorem meets_activateGateway :
    Meets SpawnsProcesses KeepingIn HasLaunched activateGateway := by
  refine meets_getGateway_bind fun self => ?_
  refine meets_bind HasLaunched ?_ (fun launched => ?_) fun _ _ holds => holds
  · refine meets_ite (fun never => ?_) fun already => ?_
    · refine meets_launchProxy.strengthen fun world holds => ⟨holds.1, ?_⟩
      rw [holds.2]
      simpa using never
    · refine meets_pure fun world holds => ⟨holds.1, fun _ => ?_⟩
      rw [holds.2]
      simpa using already
  · refine meets_ite (fun _ => meets_pure fun _ holds => ⟨holds.1, nofun⟩) fun succeeded => ?_
    suffices rest : Meets SpawnsProcesses (About fun self account =>
        self.Keeping account ∧ self.base.activatedOnce = true) HasLaunched _ from
      rest.strengthen fun _ holds => ⟨holds.1, holds.2 (by simpa using succeeded)⟩
    refine meets_getGateway_bind fun self => ?_
    suffices rest : Meets SpawnsProcesses (About fun self account =>
        self.Keeping account ∧ self.base.activatedOnce = true) HasLaunched _ from
      rest.strengthen fun _ holds => holds.1
    exact meets_ite (fun _ => (maintains_testDBusConnection _).weaken (fun _ holds => holds)
      fun _ _ holds => ⟨holds.1, fun _ => holds.2⟩)
      fun _ => meets_throw fun _ holds => ⟨holds.1, nofun⟩

theorem maintaining_activate : Maintaining hooks.activate := by
  refine meets_getBase_bind fun base => ?_
  suffices rest : Maintaining _ from rest.strengthen fun _ holds => holds.1
  refine meets_ite (fun _ => meets_throw fun _ keeping => keeping) fun _ => ?_
  refine meets_ite (fun _ => meets_throw fun _ keeping => keeping) fun _ => ?_
  refine meets_bind HasLaunched meets_activateGateway (fun activated => ?_)
    fun _ _ holds => holds.1
  refine meets_ite (fun _ => meets_pure fun _ holds => holds.1) fun succeeded => ?_
  refine meets_bind (fun _ => KeepingIn) (meets_modify fun world holds =>
    holds.1.setState fun _ => holds.2 (by simpa using succeeded))
    (fun _ => meets_pure fun _ keeping => keeping) fun _ _ keeping => keeping

/-! The teardown: the proxy is killed and reaped, and its standard input closed. -/

/-- What a teardown does to the proxy an instance thinks it has. -/
def settle (self : DBusGatewayInstance) (custody : Custody) : Custody :=
  ((custody.after ⟨.kill self.pid, ⟨⟩⟩).after ⟨.waitpid self.pid, none⟩).after
    ⟨.close self.proxyStdin, true⟩

theorem settle_held {self : DBusGatewayInstance} (launched : self.base.activatedOnce = true) :
    self.settle self.held = .none := by
  rw [held, if_pos launched]
  simp [settle, Custody.after, Custody.none]

theorem sound_settle {self : DBusGatewayInstance} {custody : Custody}
    (doomed : self.Doomed custody) :
    (self.settle custody).sound = false := by
  have killed : (custody.after ⟨.kill self.pid, ⟨⟩⟩).sound = false := by
    rcases doomed with unsound | ⟨_, gone⟩
    · exact Custody.sound_after unsound _
    · simp [Custody.after, gone]
  exact Custody.sound_after (Custody.sound_after killed _) _

theorem run_removeSocket (socket : String) (oracle : Oracle Sys)
    (world : World Sys (DBusGatewayInstance × Container)) :
    ∃ success recorded, (removeSocket socket).run oracle world =
        (.ok success, ⟨world.state, world.history ++ recorded⟩) ∧
      Custody.unlinkFailed recorded = !success ∧
      ∀ custody : Custody, recorded.foldl Custody.after custody = custody := by
  cases accessed : oracle world.history (.access socket) with
  | false =>
      refine ⟨true, [⟨.access socket, false⟩], ?_, rfl, fun _ => rfl⟩
      rw [removeSocket, run_ask_bind, accessed]
      rfl
  | true =>
      cases removed : oracle (world.history ++ [⟨.access socket, true⟩]) (.unlink socket) with
      | false =>
          refine ⟨false, [⟨.access socket, true⟩, ⟨.unlink socket, false⟩], ?_, rfl, fun _ => rfl⟩
          rw [removeSocket, run_ask_bind, accessed, if_pos rfl, run_ask, removed,
            List.append_assoc]
          rfl
      | true =>
          refine ⟨true, [⟨.access socket, true⟩, ⟨.unlink socket, true⟩], ?_, rfl, fun _ => rfl⟩
          rw [removeSocket, run_ask_bind, accessed, if_pos rfl, run_ask, removed,
            List.append_assoc]
          rfl

theorem run_killProxy {pid : Int} (launched : pid ≠ -1) (oracle : Oracle Sys)
    (world : World Sys (DBusGatewayInstance × Container)) :
    ∃ recorded, (killProxy pid).run oracle world =
        (.ok ⟨⟩, ⟨world.state, world.history ++ recorded⟩) ∧
      Custody.unlinkFailed recorded = false ∧
      ∀ custody : Custody, recorded.foldl Custody.after custody =
        (custody.after ⟨.kill pid, ⟨⟩⟩).after ⟨.waitpid pid, none⟩ := by
  refine ⟨[⟨.kill pid, ⟨⟩⟩,
    ⟨.waitpid pid, oracle (world.history ++ [⟨.kill pid, ⟨⟩⟩]) (.waitpid pid)⟩], ?_, rfl,
    fun _ => rfl⟩
  rw [killProxy, if_pos launched, run_ask_bind, run_ask_bind, List.append_assoc]
  rfl

theorem run_teardownGateway {self : DBusGatewayInstance} (launched : self.pid ≠ -1)
    (oracle : Oracle Sys) (container : Container) (history : History Sys) :
    ∃ success recorded, teardownGateway.run oracle ⟨(self, container), history⟩ =
        (.ok success, ⟨({ self with hasConfig := false }, container), history ++ recorded⟩) ∧
      Custody.unlinkFailed recorded = !success ∧
      ∀ custody : Custody, recorded.foldl Custody.after custody = self.settle custody := by
  obtain ⟨early, killed, unfailed, reaped⟩ := run_killProxy launched oracle
    ⟨({ self with hasConfig := false }, container), history⟩
  obtain ⟨success, middle, removed, failed, same⟩ := run_removeSocket self.socket oracle
    ⟨({ self with hasConfig := false }, container), history ++ early⟩
  obtain ⟨closed, isClosed⟩ : ∃ closed, closed =
      oracle (history ++ early ++ middle) (.close self.proxyStdin) := ⟨_, rfl⟩
  refine ⟨success, early ++ (middle ++ [⟨.close self.proxyStdin, closed⟩]), ?_, ?_,
    fun custody => ?_⟩
  · rw [teardownGateway, modifyGateway, run_modify_bind]
    change (killProxy self.pid >>= _).run oracle _ = _
    rw [run_bind_ok killed, run_bind_ok removed, run_ask_bind, isClosed]
    simp only [run_pure, List.append_assoc]
  · rw [Custody.unlinkFailed_append, Custody.unlinkFailed_append, failed, unfailed]
    simp [Custody.unlinkFailed]
  · rw [List.foldl_append, List.foldl_append, same, reaped]
    rfl

/-- The whole method, once the proxy was started. -/
theorem run_teardown {self : DBusGatewayInstance} (launched : self.base.activatedOnce = true)
    (pid : self.pid ≠ -1) (oracle : Oracle Sys) (container : Container)
    (history : History Sys) :
    ∃ success after, hooks.teardown.run oracle ⟨(self, container), history⟩ =
        (.ok success, after) ∧
      Custody.account after.history =
        (self.settle (Custody.of history), Custody.unlinkFailed history || !success) ∧
      after.state.1 = if success then
          { self with
            hasConfig := false
            base := { self.base with state := .created, activatedOnce := false } }
        else { self with hasConfig := false } := by
  obtain ⟨success, recorded, ended, failed, settled⟩ :=
    run_teardownGateway pid oracle container history
  have accounted : Custody.account (history ++ recorded) =
      (self.settle (Custody.of history), Custody.unlinkFailed history || !success) := by
    rw [Custody.account, Custody.of_append, Custody.unlinkFailed_append, settled, failed]
  have unguarded : ¬ ((hooks.base.get self).state ≠ .activated ∧
      (hooks.base.get self).activatedOnce = false) := fun refused =>
    Bool.false_ne_true (refused.2.symm.trans launched)
  have run : hooks.teardown.run oracle ⟨(self, container), history⟩ =
      (do
        if !(← teardownGateway) then
          return false
        else
          modify fun whole => (hooks.base.set { hooks.base.get whole.1 with
            state := .created, activatedOnce := false } whole.1, whole.2)
          return true : Hook DBusGatewayInstance Bool).run oracle
            ⟨(self, container), history⟩ := by
    unfold GatewayHooks.teardown GatewayHooks.getBase
    simp only [run_bind, run_get, run_pure]
    rw [if_neg unguarded]
    rfl
  rw [run, run_bind_ok ended]
  cases success with
  | false => exact ⟨false, _, rfl, accounted, rfl⟩
  | true => exact ⟨true, _, rfl, accounted, rfl⟩

theorem maintaining_teardown : Maintaining hooks.teardown := by
  rintro oracle _ ⟨⟨self, container⟩, history⟩ keeping
  cases launched : self.base.activatedOnce with
  | false =>
      obtain ⟨message, ended⟩ := GatewayHooks.run_teardown_of_not_activated hooks oracle
        ⟨(self, container), history⟩
        (fun activated => Bool.false_ne_true (launched.symm.trans (keeping.activated activated)))
        launched
      rw [ended]
      exact keeping
  | true =>
      obtain ⟨success, after, ended, accounted, state⟩ :=
        run_teardown launched (keeping.pid launched) oracle container history
      have kept (unfailed : Custody.unlinkFailed history = false) :
          self.settle (Custody.of history) = .none := by
        have same : Custody.of history = self.held := keeping.kept unfailed
        rw [same, settle_held launched]
      have lost (failed : Custody.unlinkFailed history = true) :
          (self.settle (Custody.of history)).sound = false :=
        sound_settle (keeping.lost failed)
      rw [ended, KeepingIn, About, accounted, state]
      cases success with
      | true =>
          refine ⟨keeping.dynamic, nofun, nofun, fun unfailed => ?_, fun failed => ?_⟩
          · exact kept (Bool.or_eq_false_iff.mp unfailed).1
          · exact .inl (lost ((Bool.or_eq_true_iff.mp failed).resolve_right nofun))
      | false =>
          refine ⟨keeping.dynamic, keeping.activated, keeping.pid, fun unfailed => ?_,
            fun _ => ?_⟩
          · exact nomatch (Bool.or_eq_false_iff.mp unfailed).2
          · cases failed : Custody.unlinkFailed history with
            | true => exact .inl (lost failed)
            | false => exact .inr ⟨launched, by rw [kept failed]; exact List.not_mem_nil⟩

theorem maintaining_perform (call : GatewayCall) : Maintaining (hooks.perform call) := by
  cases call with
  | setConfig config => exact maintaining_setConfig config
  | activate => exact maintaining_activate
  | teardown => exact maintaining_teardown

theorem maintaining_performEach (calls : List GatewayCall) :
    Maintaining (hooks.performEach calls) := by
  induction calls with
  | nil => exact meets_pure fun _ keeping => keeping
  | cons call rest ih =>
      refine maintains_bind ?_ fun result => maintains_bind ih fun record =>
        meets_pure fun _ keeping => keeping
      exact fun oracle answers world keeping =>
        maintaining_perform call oracle answers world keeping

theorem run_destructor_of_not_launched {world : World Sys (DBusGatewayInstance × Container)}
    (keeping : KeepingIn world) (never : world.state.1.base.activatedOnce = false)
    (oracle : Oracle Sys) : destructor.run oracle world = (.ok ⟨⟩, world) := by
  have inactive : ¬ world.state.1.isActivated = true := by
    rw [isActivated, GatewayBase.isActivated, keeping.dynamic, if_pos rfl, never]
    exact Bool.false_ne_true
  rw [destructor]
  simp only [getGateway, run_bind, run_get, run_pure]
  rw [if_neg inactive]
  rfl

theorem releasesProxies_destructor {world : World Sys (DBusGatewayInstance × Container)}
    (keeping : KeepingIn world) (oracle : Oracle Sys) :
    ReleasesProxies (destructor.run oracle world).2.history ↔
      Custody.unlinkFailed world.history = false := by
  obtain ⟨⟨self, container⟩, history⟩ := world
  cases launched : self.base.activatedOnce with
  | false =>
      rw [run_destructor_of_not_launched keeping launched oracle, ReleasesProxies]
      cases failed : Custody.unlinkFailed history with
      | false =>
          have same : Custody.of history = self.held := keeping.kept failed
          rw [same, held, launched]
          exact ⟨fun _ => rfl, fun _ => ⟨rfl, rfl, rfl⟩⟩
      | true =>
          have unsound : (Custody.of history).sound = false :=
            (keeping.lost failed).resolve_right fun doomed =>
              Bool.false_ne_true (launched.symm.trans doomed.1)
          exact ⟨fun releases => absurd (unsound.symm.trans releases.1) Bool.false_ne_true,
            fun unfailed => nomatch unfailed⟩
  | true =>
      have active : self.isActivated = true := by
        rw [isActivated, GatewayBase.isActivated, keeping.dynamic, if_pos rfl, launched]
      obtain ⟨success, after, ended, accounted, _⟩ :=
        run_teardown launched (keeping.pid launched) oracle container history
      have run : destructor.run oracle ⟨(self, container), history⟩ = (.ok ⟨⟩, after) := by
        rw [destructor]
        simp only [getGateway, run_bind, run_get, run_pure]
        rw [if_pos active, run_bind_ok ended]
        rfl
      have settled : Custody.of after.history = self.settle (Custody.of history) :=
        congrArg Prod.fst accounted
      rw [run, ReleasesProxies, settled]
      cases failed : Custody.unlinkFailed history with
      | false =>
          have same : Custody.of history = self.held := keeping.kept failed
          rw [same, settle_held launched]
          exact ⟨fun _ => rfl, fun _ => ⟨rfl, rfl, rfl⟩⟩
      | true =>
          have unsound : (self.settle (Custody.of history)).sound = false :=
            sound_settle (keeping.lost failed)
          exact ⟨fun releases => absurd (unsound.symm.trans releases.1) Bool.false_ne_true,
            fun unfailed => nomatch unfailed⟩

/-- Each proxy is killed once, while it is there, exactly when no teardown before the
destructor failed to remove the socket. -/
theorem releasesProxies_iff (type : ProxyType) (gatewayDir containerId : String)
    (calls : List GatewayCall) {oracle : Oracle Sys} (answers : Answers SpawnsProcesses oracle)
    (container : Container) :
    let called := ((hooks.performEach calls).run oracle
      ⟨(new type gatewayDir containerId, container), []⟩).2
    ReleasesProxies (destructor.run oracle called).2.history ↔
      Custody.unlinkFailed called.history = false :=
  releasesProxies_destructor (maintaining_performEach calls oracle answers _
    (keeping_new type gatewayDir containerId container)) oracle

def activateAndTearDown : List GatewayCall :=
  [.setConfig (.array [.object [(SYSTEM_CONFIG, .array [])]]), .activate, .teardown]

theorem answers_fortunate : Answers SpawnsProcesses fortunate := by
  intro history call
  cases call with
  | spawnAsyncWithPipes commandVec envVec => exact Int.one_pos
  | _ => trivial

theorem releasesProxies_activateAndTearDown :
    let called := ((hooks.performEach activateAndTearDown).run fortunate
      ⟨(new .systemProxy "/gateways" "SC-0", .new "SC-0" "" "" false 1), []⟩).2
    ReleasesProxies (destructor.run fortunate called).2.history ↔
      Custody.unlinkFailed called.history = false :=
  releasesProxies_iff .systemProxy "/gateways" "SC-0" activateAndTearDown answers_fortunate
    (.new "SC-0" "" "" false 1)

def stuckSocket : Oracle Sys
  | _, .unlink _ => false
  | history, call => fortunate history call

theorem proxy_killed_twice :
    ¬ ReleasesProxies (destructor.run stuckSocket ((hooks.performEach activateAndTearDown).run
      stuckSocket ⟨(new .systemProxy "/gateways" "SC-0", .new "SC-0" "" "" false 1),
        []⟩).2).2.history := by
  decide +kernel

end DBusGatewayInstance

end SoftwareContainers
