import SoftwareContainers.Effect.Erasure
import SoftwareContainers.Gateway.Plain

namespace SoftwareContainers

open Effect Effect.Act

/-! The life of a gateway that is not dynamic, over any sequence of calls. -/

inductive GatewayCall where
  | setConfig (config : Json)
  | activate
  | teardown

/-! The machine: where a call that returns true leads to.  Any other call leads
nowhere. -/

def GatewayState.next : GatewayState → GatewayCall → Option GatewayState
  | .activated, .setConfig _ => none
  | _, .setConfig _ => some .configured
  | .configured, .activate => some .activated
  | _, .activate => none
  | .activated, .teardown => some .created
  | _, .teardown => none

theorem GatewayState.next_teardown {before after : GatewayState}
    (next : before.next .teardown = some after) : after = .created := by
  cases before with
  | activated => exact (Option.some.inj next).symm
  | created => cases next
  | configured => cases next

structure Moves (before : GatewayState) (call : GatewayCall) (result : Except Fault Bool)
    (after : GatewayState) : Prop where
  succeeded : result = .ok true → before.next call = some after
  failed : result ≠ .ok true → after = before

abbrev CallRecord := List (GatewayCall × Except Fault Bool)

/-- The calls take the machine from one state to another. -/
inductive Follows : GatewayState → CallRecord → GatewayState → Prop
  | done (state : GatewayState) : Follows state [] state
  | called {before between after : GatewayState} {call : GatewayCall}
      {result : Except Fault Bool} {rest : CallRecord}
      (moves : Moves before call result between) (follows : Follows between rest after) :
      Follows before ((call, result) :: rest) after

namespace Follows

variable {before after : GatewayState} {first second rest : CallRecord}

theorem split (follows : Follows before (first ++ second) after) :
    ∃ between, Follows before first between ∧ Follows between second after := by
  induction first generalizing before with
  | nil => exact ⟨before, .done before, follows⟩
  | cons head tail ih =>
      cases follows with
      | called moves follows =>
          obtain ⟨between, early, late⟩ := ih follows
          exact ⟨between, .called moves early, late⟩

theorem append {between : GatewayState} (early : Follows before first between)
    (late : Follows between second after) : Follows before (first ++ second) after := by
  induction early with
  | done => exact late
  | called moves _ ih => exact .called moves (ih late)

theorem teardown_of_activated
    (follows : Follows .activated (first ++ (.activate, .ok true) :: rest) after) :
    (.teardown, .ok true) ∈ first := by
  induction first with
  | nil =>
      cases follows with
      | called moves _ => cases moves.succeeded rfl
  | cons head tail ih =>
      cases follows with
      | @called _ between _ call result _ moves follows =>
          by_cases succeeded : result = .ok true
          · cases call with
            | setConfig config => cases moves.succeeded succeeded
            | activate => cases moves.succeeded succeeded
            | teardown =>
                subst succeeded
                exact List.mem_cons_self
          · cases moves.failed succeeded
            exact List.mem_cons_of_mem _ (ih follows)

/-- Between two activations that succeed there is a teardown that does. -/
theorem teardown_between {last : CallRecord}
    (follows : Follows before
      (first ++ (.activate, .ok true) :: second ++ (.activate, .ok true) :: last) after) :
    (.teardown, .ok true) ∈ second := by
  rw [List.append_assoc] at follows
  obtain ⟨between, _, follows⟩ := follows.split
  cases follows with
  | called moves follows =>
      cases between with
      | configured =>
          cases moves.succeeded rfl
          exact follows.teardown_of_activated
      | created => cases moves.succeeded rfl
      | activated => cases moves.succeeded rfl

end Follows

/-! Which hook is called in which state. -/

inductive HookUse where
  | readConfigElement
  | activateGateway
  | teardownGateway
  deriving DecidableEq, Repr

def HookUse.allowedIn : HookUse → GatewayState → Prop
  | .readConfigElement, state => state ≠ .activated
  | .activateGateway, state => state = .configured
  | .teardownGateway, state => state = .activated

structure Watched (κ : Type) where
  other : κ
  uses : List (HookUse × GatewayState)

namespace GatewayHooks

variable {I : Interface} {γ κ : Type}

def perform (hooks : GatewayHooks I γ κ) : GatewayCall → Act I Fault (γ × κ) Bool
  | .setConfig config => hooks.setConfig config
  | .activate => hooks.activate
  | .teardown => hooks.teardown

def performEach (hooks : GatewayHooks I γ κ) :
    List GatewayCall → Act I Fault (γ × κ) CallRecord
  | [] => return []
  | call :: rest => do
      let result ← (attempt (hooks.perform call) :
        Act I Fault (γ × κ) (Except Fault Bool))
      let record ← hooks.performEach rest
      return (call, result) :: record

def besideLens : Lens (γ × Watched κ) (γ × κ) where
  get whole := (whole.1, whole.2.other)
  set part whole := (part.1, { whole.2 with other := part.2 })
  get_set _ _ := rfl
  set_set _ _ _ := rfl

/-- Note the use of a hook before it is called. -/
def watch (hooks : GatewayHooks I γ κ) (use : HookUse) (hook : Act I Fault (γ × κ) Bool) :
    Act I Fault (γ × Watched κ) Bool := do
  modify fun whole => (whole.1, { whole.2 with
    uses := whole.2.uses ++ [(use, (hooks.base.get whole.1).state)] })
  zoom besideLens hook

def watched (hooks : GatewayHooks I γ κ) : GatewayHooks I γ (Watched κ) where
  base := hooks.base
  readConfigElement element :=
    hooks.watch .readConfigElement (hooks.readConfigElement element)
  activateGateway := hooks.watch .activateGateway hooks.activateGateway
  teardownGateway := hooks.watch .teardownGateway hooks.teardownGateway

/-- The hooks leave what the base class keeps as it is. -/
structure Inert (hooks : GatewayHooks I γ κ) : Prop where
  readConfigElement : ∀ element,
    Leaves (fun whole => hooks.base.get whole.1) (hooks.readConfigElement element)
  activateGateway : Leaves (fun whole => hooks.base.get whole.1) hooks.activateGateway
  teardownGateway : Leaves (fun whole => hooks.base.get whole.1) hooks.teardownGateway

/-! Watching changes nothing. -/

section

variable (hooks : GatewayHooks I γ κ)

theorem erases_watch (use : HookUse) (hook : Act I Fault (γ × κ) Bool) :
    Erases besideLens.get (hooks.watch use hook) hook :=
  fun _ _ => rfl

theorem erases_readConfigElements (elements : List Json) :
    Erases besideLens.get (hooks.watched.readConfigElements elements)
      (hooks.readConfigElements elements) := by
  induction elements with
  | nil => exact erases_pure true
  | cons element rest ih =>
      exact erases_ite (erases_pure false) (erases_bind (hooks.erases_watch _ _) fun _ =>
        erases_ite (erases_pure false) ih)

theorem erases_perform (call : GatewayCall) :
    Erases besideLens.get (hooks.watched.perform call) (hooks.perform call) := by
  cases call with
  | setConfig config =>
      refine erases_bind (erases_get_bind fun _ => erases_pure _) fun gateway =>
        erases_ite (erases_throw _) ?_
      cases config with
      | array elements =>
          cases elements with
          | nil => exact erases_pure false
          | cons head tail =>
              exact erases_bind (hooks.erases_readConfigElements _) fun _ =>
                erases_ite (erases_pure false)
                  (erases_bind (erases_modify fun _ => rfl) fun _ => erases_pure true)
      | _ => exact erases_pure false
  | activate =>
      exact erases_bind (erases_get_bind fun _ => erases_pure _) fun gateway =>
        erases_ite (erases_throw _) (erases_ite (erases_throw _)
          (erases_bind (hooks.erases_watch _ _) fun _ => erases_ite (erases_pure false)
            (erases_bind (erases_modify fun _ => rfl) fun _ => erases_pure true)))
  | teardown =>
      exact erases_bind (erases_get_bind fun _ => erases_pure _) fun gateway =>
        erases_ite (erases_throw _) (erases_bind (hooks.erases_watch _ _) fun _ =>
          erases_ite (erases_pure false)
            (erases_bind (erases_modify fun _ => rfl) fun _ => erases_pure true))

theorem erases_performEach (calls : List GatewayCall) :
    Erases besideLens.get (hooks.watched.performEach calls) (hooks.performEach calls) := by
  induction calls with
  | nil => exact erases_pure []
  | cons call rest ih =>
      exact erases_bind (erases_attempt (hooks.erases_perform call)) fun _ =>
        erases_bind ih fun _ => erases_pure _

end

/-! What one call does. -/

section

variable {hooks : GatewayHooks I γ κ} {use : HookUse} {α β : Type}

def Uses (hooks : GatewayHooks I γ κ) (use : HookUse)
    (act : Act I Fault (γ × Watched κ) α) : Prop :=
  ∀ oracle world,
    hooks.base.get (act.run oracle world).2.state.1 = hooks.base.get world.state.1 ∧
      ∃ more, (act.run oracle world).2.state.2.uses = world.state.2.uses ++ more ∧
        ∀ note ∈ more, note = (use, (hooks.base.get world.state.1).state)

theorem uses_pure (value : α) :
    hooks.Uses use (pure value : Act I Fault (γ × Watched κ) α) :=
  fun _ _ => ⟨rfl, [], (List.append_nil _).symm, fun _ member => nomatch member⟩

theorem uses_bind {act : Act I Fault (γ × Watched κ) α}
    {next : α → Act I Fault (γ × Watched κ) β} (first : hooks.Uses use act)
    (rest : ∀ value, hooks.Uses use (next value)) : hooks.Uses use (act >>= next) := by
  intro oracle world
  obtain ⟨sameBase, early, noted, onlyEarly⟩ := first oracle world
  rw [run_bind]
  cases ended : act.run oracle world with
  | mk result between =>
      rw [ended] at sameBase noted
      cases result with
      | error error => exact ⟨sameBase, early, noted, onlyEarly⟩
      | ok value =>
          obtain ⟨sameAgain, late, notedLate, onlyLate⟩ := rest value oracle between
          rw [sameBase] at sameAgain onlyLate
          refine ⟨sameAgain, early ++ late, ?_, ?_⟩
          · rw [notedLate, noted, List.append_assoc]
          · intro note member
            exact (List.mem_append.mp member).elim (onlyEarly note) (onlyLate note)

theorem uses_ite {condition : Prop} [Decidable condition]
    {first second : Act I Fault (γ × Watched κ) α} (whenTrue : hooks.Uses use first)
    (whenFalse : hooks.Uses use second) :
    hooks.Uses use (if condition then first else second) := by
  by_cases holds : condition
  · rw [if_pos holds]
    exact whenTrue
  · rw [if_neg holds]
    exact whenFalse

theorem uses_watch {hook : Act I Fault (γ × κ) Bool}
    (leaves : Leaves (fun whole => hooks.base.get whole.1) hook) :
    hooks.Uses use (hooks.watch use hook) := by
  intro oracle world
  exact ⟨leaves oracle ⟨(world.state.1, world.state.2.other), world.history⟩, _, rfl,
    fun note member => List.mem_singleton.mp member⟩

theorem uses_readConfigElements (inert : hooks.Inert) (elements : List Json) :
    hooks.Uses .readConfigElement (hooks.watched.readConfigElements elements) := by
  induction elements with
  | nil => exact uses_pure true
  | cons element rest ih =>
      exact uses_ite (uses_pure false)
        (uses_bind (uses_watch (inert.readConfigElement element)) fun _ =>
          uses_ite (uses_pure false) ih)

/-- What a call leaves behind: the base class has moved, and every use of a hook was
allowed. -/
structure Performed (hooks : GatewayHooks I γ κ) (call : GatewayCall)
    (before : γ × Watched κ) (result : Except Fault Bool) (after : γ × Watched κ) : Prop where
  moves : Moves (hooks.base.get before.1).state call result (hooks.base.get after.1).state
  base : hooks.base.get after.1 =
    { hooks.base.get before.1 with state := (hooks.base.get after.1).state }
  uses : ∃ more, after.2.uses = before.2.uses ++ more ∧
    ∀ note ∈ more, note.1.allowedIn note.2

theorem performed_nothing (call : GatewayCall) (whole : γ × Watched κ)
    {result : Except Fault Bool} (failed : result ≠ .ok true) :
    hooks.Performed call whole result whole where
  moves := ⟨fun succeeded => absurd succeeded failed, fun _ => rfl⟩
  base := rfl
  uses := ⟨[], (List.append_nil _).symm, fun _ member => nomatch member⟩

theorem performed_commit {call : GatewayCall} {act : Act I Fault (γ × Watched κ) Bool}
    (uses : hooks.Uses use act) (update : GatewayBase → GatewayBase)
    (oracle : Oracle I) (world : World I (γ × Watched κ))
    (allowed : use.allowedIn (hooks.base.get world.state.1).state)
    (next : (hooks.base.get world.state.1).state.next call =
      some (update (hooks.base.get world.state.1)).state)
    (updates : update (hooks.base.get world.state.1) =
      { hooks.base.get world.state.1 with
        state := (update (hooks.base.get world.state.1)).state }) :
    let ended := (do
      if !(← act) then
        return false
      else
        modify fun whole =>
          (hooks.base.set (update (hooks.base.get whole.1)) whole.1, whole.2)
        return true : Act I Fault (γ × Watched κ) Bool).run oracle world
    hooks.Performed call world.state ended.1 ended.2.state := by
  obtain ⟨sameBase, more, noted, only⟩ := uses oracle world
  have permitted : ∀ note ∈ more, note.1.allowedIn note.2 := by
    intro note member
    rw [only note member]
    exact allowed
  dsimp only
  rw [run_bind]
  cases ended : act.run oracle world with
  | mk result between =>
      rw [ended] at sameBase noted
      have unmoved {result : Except Fault Bool} (failed : result ≠ .ok true) :
          hooks.Performed call world.state result between.state :=
        { moves := ⟨fun succeeded => absurd succeeded failed, fun _ => by rw [sameBase]⟩
          base := by rw [sameBase]
          uses := ⟨more, noted, permitted⟩ }
      cases result with
      | error error => exact unmoved nofun
      | ok value =>
          cases value with
          | false => exact unmoved nofun
          | true =>
              have moved : hooks.base.get (hooks.base.set
                  (update (hooks.base.get between.state.1)) between.state.1) =
                  update (hooks.base.get world.state.1) := by
                rw [hooks.base.get_set, sameBase]
              exact {
                moves := ⟨fun _ => next.trans (congrArg (fun base => some base.state) moved.symm),
                  fun failed => absurd rfl failed⟩
                base := moved.trans (updates.trans
                  (congrArg (fun base => { hooks.base.get world.state.1 with
                    state := base.state }) moved.symm))
                uses := ⟨more, noted, permitted⟩ }

theorem performed_perform (inert : hooks.Inert) (call : GatewayCall) (oracle : Oracle I)
    (world : World I (γ × Watched κ))
    (plain : (hooks.base.get world.state.1).isDynamic = false)
    (never : (hooks.base.get world.state.1).activatedOnce = false) :
    hooks.Performed call world.state ((hooks.watched.perform call).run oracle world).1
      ((hooks.watched.perform call).run oracle world).2.state := by
  cases call with
  | setConfig config =>
      by_cases activated : (hooks.base.get world.state.1).state = .activated
      · obtain ⟨message, ended⟩ :=
          hooks.watched.run_setConfig_of_locked oracle world config ⟨activated, plain⟩
        rw [perform, ended]
        exact performed_nothing _ _ nofun
      · have unlocked : ¬ Locked (hooks.base.get world.state.1) :=
          fun locked => activated locked.1
        cases elements : config.elements with
        | nil =>
            rw [perform, hooks.watched.run_setConfig_of_elements_nil oracle world unlocked
              elements]
            exact performed_nothing _ _ nofun
        | cons head tail =>
            obtain rfl : config = .array (head :: tail) := by
              cases config <;> simp_all [Json.elements]
            rw [perform, hooks.watched.run_setConfig_array oracle world head tail unlocked]
            refine performed_commit (uses_readConfigElements inert (head :: tail))
              (fun base => { base with state := .configured }) oracle world activated ?_ rfl
            cases state : (hooks.base.get world.state.1).state with
            | activated => exact absurd state activated
            | _ => rfl
  | activate =>
      by_cases configured : (hooks.base.get world.state.1).state = .configured
      · rw [perform, hooks.watched.run_activate_of_configured oracle world configured]
        refine performed_commit (uses_watch inert.activateGateway)
          (fun base => { base with state := .activated }) oracle world configured ?_ rfl
        rw [configured]
        rfl
      · obtain ⟨message, ended⟩ :=
          hooks.watched.run_activate_of_not_configured oracle world configured
        rw [perform, ended]
        exact performed_nothing _ _ nofun
  | teardown =>
      by_cases activated : (hooks.base.get world.state.1).state = .activated
      · rw [perform, hooks.watched.run_teardown_of_activated oracle world activated]
        refine performed_commit (uses_watch inert.teardownGateway)
          (fun base => { base with state := .created, activatedOnce := false }) oracle world
          activated ?_ ?_
        · rw [activated]
          rfl
        · rw [← never]
      · obtain ⟨message, ended⟩ :=
          hooks.watched.run_teardown_of_not_activated oracle world activated never
        rw [perform, ended]
        exact performed_nothing _ _ nofun

/-- Every sequence of calls follows the machine. -/
theorem run_performEach (inert : hooks.Inert) (calls : List GatewayCall) (oracle : Oracle I)
    (world : World I (γ × Watched κ))
    (plain : (hooks.base.get world.state.1).isDynamic = false)
    (never : (hooks.base.get world.state.1).activatedOnce = false) :
    ∃ record after, (hooks.watched.performEach calls).run oracle world = (.ok record, after) ∧
      record.map Prod.fst = calls ∧
      Follows (hooks.base.get world.state.1).state record
        (hooks.base.get after.state.1).state ∧
      hooks.base.get after.state.1 = { hooks.base.get world.state.1 with
        state := (hooks.base.get after.state.1).state } ∧
      ∃ more, after.state.2.uses = world.state.2.uses ++ more ∧
        ∀ note ∈ more, note.1.allowedIn note.2 := by
  induction calls generalizing world with
  | nil => exact ⟨[], world, rfl, rfl, .done _, rfl, [], (List.append_nil _).symm, nofun⟩
  | cons call rest ih =>
      have performed := performed_perform inert call oracle world plain never
      cases ended : (hooks.watched.perform call).run oracle world with
      | mk result between =>
          rw [ended] at performed
          have base := performed.base
          obtain ⟨record, after, run, calls, follows, sameBase, late, notedLate, allowedLate⟩ :=
            ih between (by rw [base]; exact plain) (by rw [base]; exact never)
          obtain ⟨early, noted, allowed⟩ := performed.uses
          have attempted : (attempt (hooks.watched.perform call) :
              Act I Fault (γ × Watched κ) (Except Fault Bool)).run oracle world =
                (.ok result, between) := by
            rw [run_attempt, ended]
          refine ⟨(call, result) :: record, after, ?_, ?_, .called performed.moves follows, ?_,
            early ++ late, ?_, ?_⟩
          · rw [performEach, run_bind_ok attempted, run_bind_ok run]
            rfl
          · rw [List.map_cons, calls]
          · rw [sameBase, base]
          · rw [notedLate, noted, List.append_assoc]
          · intro note member
            exact (List.mem_append.mp member).elim (allowed note) (allowedLate note)

/-- What a sequence of calls promises, and what the next call does. -/
structure SoundLife (hooks : GatewayHooks I γ κ) (id : String) (record : CallRecord)
    (uses : List (HookUse × GatewayState)) (oracle : Oracle I) (after : World I (γ × κ)) :
    Prop where
  activations : ∀ first second last,
    record = first ++ (.activate, .ok true) :: second ++ (.activate, .ok true) :: last →
    (.teardown, .ok true) ∈ second
  uses : ∀ note ∈ uses, note.1.allowedIn note.2
  failure : ∀ call, ((hooks.perform call).run oracle after).1 ≠ .ok true →
    (hooks.base.get ((hooks.perform call).run oracle after).2.state.1).state =
      (hooks.base.get after.state.1).state
  teardown : ((hooks.perform .teardown).run oracle after).1 = .ok true →
    hooks.base.get ((hooks.perform .teardown).run oracle after).2.state.1 = .new id false

/-- Whatever the hooks return or throw, and whatever is called.  After a teardown the
base class is what its constructor makes. -/
theorem life_cycle_sound (inert : hooks.Inert) {gateway : γ} {id : String}
    (constructed : hooks.base.get gateway = .new id false) (calls : List GatewayCall)
    (oracle : Oracle I) (other : κ) (history : History I) :
    ∃ record after uses,
      (hooks.watched.performEach calls).run oracle ⟨(gateway, ⟨other, []⟩), history⟩ =
        (.ok record, ⟨(after.state.1, ⟨after.state.2, uses⟩), after.history⟩) ∧
      (hooks.performEach calls).run oracle ⟨(gateway, other), history⟩ = (.ok record, after) ∧
      record.map Prod.fst = calls ∧ hooks.SoundLife id record uses oracle after := by
  obtain ⟨record, ended, run, sameCalls, follows, sameBase, uses, noted, allowed⟩ :=
    run_performEach inert calls oracle ⟨(gateway, ⟨other, []⟩), history⟩
      (by rw [constructed]; rfl) (by rw [constructed]; rfl)
  have erased := hooks.erases_performEach calls oracle ⟨(gateway, ⟨other, []⟩), history⟩
  rw [run] at erased
  refine ⟨record, ⟨(ended.state.1, ended.state.2.other), ended.history⟩, ended.state.2.uses,
    run, erased, sameCalls, ?_⟩
  dsimp only at noted sameBase
  rw [constructed] at sameBase
  have next (call : GatewayCall) := performed_perform inert call oracle ended
    (by rw [sameBase]; rfl) (by rw [sameBase]; rfl)
  have erasedNext (call : GatewayCall) := hooks.erases_perform call oracle ended
  exact {
    activations := fun first second last same => by
      rw [same] at follows
      exact follows.teardown_between
    uses := by
      rw [noted, List.nil_append]
      exact allowed
    failure := fun call failed => by
      have run : (hooks.perform call).run oracle
          ⟨(ended.state.1, ended.state.2.other), ended.history⟩ = _ := erasedNext call
      rw [run] at failed ⊢
      exact (next call).moves.failed failed
    teardown := fun succeeded => by
      have run : (hooks.perform .teardown).run oracle
          ⟨(ended.state.1, ended.state.2.other), ended.history⟩ = _ := erasedNext .teardown
      rw [run] at succeeded ⊢
      have created := GatewayState.next_teardown ((next .teardown).moves.succeeded succeeded)
      exact (next .teardown).base.trans (by rw [created, sameBase]; rfl) }

end

end GatewayHooks

namespace PlainGateway

theorem inert_hooks : hooks.Inert where
  readConfigElement element := by
    rintro oracle ⟨⟨gateway, ⟨⟩⟩, history⟩
    have run := run_readConfigElement gateway element oracle history
    change (hooks.base.get ((readConfigElement element).run oracle _).2.state.1) = _
    rw [run]
    split <;> rfl
  activateGateway := by
    intro oracle world
    change (hooks.base.get ((callHook _).run oracle _).2.state.1) = _
    rw [run_callHook]
  teardownGateway := by
    intro oracle world
    change (hooks.base.get ((callHook _).run oracle _).2.state.1) = _
    rw [run_callHook]

theorem plainGateway_lives_soundly :
    ∃ record after uses,
      (hooks.watched.performEach [.setConfig (.array [.object []]), .activate, .teardown]).run
          allSucceed ⟨(⟨.new "plain" false, []⟩, ⟨⟨⟩, []⟩), []⟩ =
        (.ok record, ⟨(after.state.1, ⟨after.state.2, uses⟩), after.history⟩) ∧
      (hooks.performEach [.setConfig (.array [.object []]), .activate, .teardown]).run
          allSucceed ⟨(⟨.new "plain" false, []⟩, ⟨⟩), []⟩ = (.ok record, after) ∧
      record.map Prod.fst = [.setConfig (.array [.object []]), .activate, .teardown] ∧
      hooks.SoundLife "plain" record uses allSucceed after :=
  GatewayHooks.life_cycle_sound inert_hooks rfl _ allSucceed ⟨⟩ []

end PlainGateway

end SoftwareContainers
