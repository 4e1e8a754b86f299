import SoftwareContainers.Agent.Library
import SoftwareContainers.Configuration.Manifests
import SoftwareContainers.Effect.Invariant

namespace SoftwareContainers

open Effect Effect.Act

/-! The pool of container ids. -/

/-- The first id of a pool is a counter, above all ids that are or have been in use.  The
others have been given back. -/
structure FreshIds (live : Int → Prop) (counter : Int) (free : List Int) : Prop where
  distinct : free.Nodup
  unused : ∀ id ∈ free, ¬ live id
  freeBelow : ∀ id ∈ free, id < counter
  liveBelow : ∀ id, live id → id < counter

namespace FreshIds

variable {live : Int → Prop} {counter : Int} {free : List Int}

theorem initial : FreshIds (fun _ => False) 0 [] :=
  ⟨.nil, nofun, nofun, nofun⟩

theorem mono {fewer : Int → Prop} (fresh : FreshIds live counter free)
    (isLive : ∀ id, fewer id → live id) : FreshIds fewer counter free where
  distinct := fresh.distinct
  unused id member isFewer := fresh.unused id member (isLive id isFewer)
  freeBelow := fresh.freeBelow
  liveBelow id isFewer := fresh.liveBelow id (isLive id isFewer)

theorem not_live_counter (fresh : FreshIds live counter free) : ¬ live counter :=
  fun isLive => Int.lt_irrefl counter (fresh.liveBelow counter isLive)

theorem count (fresh : FreshIds live counter []) :
    FreshIds (fun id => live id ∨ id = counter) (counter + 1) [] where
  distinct := .nil
  unused := nofun
  freeBelow := nofun
  liveBelow id isLive := by
    rcases isLive with isLive | rfl
    · have := fresh.liveBelow id isLive
      omega
    · omega

theorem pop {id : Int} (fresh : FreshIds live counter (free ++ [id])) :
    FreshIds (fun other => live other ∨ other = id) counter free where
  distinct := (List.nodup_append.mp fresh.distinct).1
  unused other member isLive := by
    rcases isLive with isLive | rfl
    · exact fresh.unused other (List.mem_append_left _ member) isLive
    · exact (List.nodup_append.mp fresh.distinct).2.2 other member other (by simp) rfl
  freeBelow other member := fresh.freeBelow other (List.mem_append_left _ member)
  liveBelow other isLive := by
    rcases isLive with isLive | rfl
    · exact fresh.liveBelow other isLive
    · exact fresh.freeBelow other (by simp)

theorem push {id : Int} (fresh : FreshIds live counter free) (isLive : live id) :
    FreshIds (fun other => live other ∧ other ≠ id) counter (free ++ [id]) where
  distinct := by
    rw [List.nodup_append]
    refine ⟨fresh.distinct, by simp, fun other member last isLast same => ?_⟩
    cases List.mem_singleton.mp isLast
    exact fresh.unused other member (same ▸ isLive)
  unused other member := by
    rcases List.mem_append.mp member with member | member
    · exact fun isLive => fresh.unused other member isLive.1
    · exact fun isLive => isLive.2 (List.mem_singleton.mp member)
  freeBelow other member := by
    rcases List.mem_append.mp member with member | member
    · exact fresh.freeBelow other member
    · rw [List.mem_singleton.mp member]
      exact fresh.liveBelow id isLive
  liveBelow other isLive := fresh.liveBelow other isLive.1

end FreshIds

namespace SoftwareContainerAgent

variable {κ α τ : Type}

/-- What there is to say about ids: the pool, and which containers there are. -/
def ids (self : SoftwareContainerAgent κ) : List Int × (Int → Bool) :=
  (self.containerIdPool, fun id => self.containers.contains id)

abbrev LeavesIds (method : Method κ α) : Prop := Leaves ids method

theorem contains_insert_of_found {entry before : κ} {containers : Std.ExtTreeMap Int κ}
    {key : Int} (found : containers[key]? = some before) (id : Int) :
    (containers.insert key entry).contains id = containers.contains id := by
  rw [Std.ExtTreeMap.contains_insert]
  by_cases same : key = id
  · subst same
    have isEntry : containers.contains key = true := by
      rw [Std.ExtTreeMap.contains_eq_isSome_getElem?, found]
      rfl
    rw [isEntry, Bool.or_true]
  · have different : compare key id ≠ .eq := fun equal =>
      same (Std.LawfulEqOrd.compare_eq_iff_eq.mp equal)
    rw [beq_eq_false_iff_ne.mpr different, Bool.false_or]

structure Aside (part : SoftwareContainerAgent κ → τ) : Prop where
  heap : ∀ self heap, part { self with heap } = part self
  connections : ∀ self connections, part { self with connections } = part self
  entry : ∀ self containerID entry before, self.containers[containerID]? = some before →
    part { self with containers := self.containers.insert containerID entry } = part self

theorem aside_ids : Aside (ids : SoftwareContainerAgent κ → List Int × (Int → Bool)) where
  heap _ _ := rfl
  connections _ _ := rfl
  entry self _ _ _ found := congrArg (Prod.mk self.containerIdPool)
    (funext fun id => contains_insert_of_found found id)

section

variable {part : SoftwareContainerAgent κ → τ}

theorem leaves_assertContainerExists (containerID : Int) :
    Leaves part (assertContainerExists containerID : Method κ PUnit) :=
  leaves_ite (leaves_throw _) (leaves_ite (leaves_throw _)
    (leaves_get_bind fun _ => leaves_ite (leaves_throw _) (leaves_pure _)))

variable (cls : ContainerClass κ)

theorem leaves_destroyContainer (container : κ) : Leaves part (destroyContainer cls container) :=
  leaves_bind (leaves_runOn _ _) fun _ => leaves_pure _

theorem leaves_releaseContainer (container : Option κ) :
    Leaves part (releaseContainer cls container) := by
  cases container with
  | none => exact leaves_pure _
  | some container => exact leaves_destroyContainer cls container

namespace Aside

variable (aside : Aside part)

include aside

theorem leaves_onContainer (containerID : Int) (method : Act Sys Fault κ α) :
    Leaves part (onContainer containerID method) :=
  leaves_bind (leaves_assertContainerExists containerID) fun _ =>
    leaves_onEntry fun self entry before found => aside.entry self containerID entry before found

theorem leaves_onHeap (step : JsonHeap → Option (α × JsonHeap)) :
    Leaves part (onHeap step : Method κ α) := by
  refine leaves_get_bind fun self => ?_
  cases step self.heap with
  | none => exact leaves_throw _
  | some stepped =>
      exact leaves_bind (leaves_modify fun self => aside.heap self _) fun _ => leaves_pure _

theorem leaves_withConfig (conf : GatewayConfig) {method : Method κ α}
    (leaves : Leaves part method) : Leaves part (withConfig conf method) := by
  refine leaves_bind (leaves_attempt leaves) fun ended =>
    leaves_bind (aside.leaves_onHeap _) fun _ => ?_
  cases ended with
  | ok value => exact leaves_pure _
  | error error => exact leaves_throw _

theorem leaves_updateGatewayConfigs (containerID : Int) (configs : GatewayConfig) :
    Leaves part (updateGatewayConfigs cls containerID configs) := by
  refine leaves_bind (leaves_assertContainerExists containerID) fun _ =>
    leaves_get_bind fun self => ?_
  cases configs.handedOver self.heap with
  | none => exact leaves_throw _
  | some gwConfig => exact aside.leaves_onContainer containerID _

theorem leaves_setDefaultCapabilities (containerID : Int) :
    Leaves part (setDefaultCapabilities cls containerID) :=
  leaves_get_bind fun _ => leaves_bind (aside.leaves_onHeap _) fun conf =>
    aside.leaves_withConfig conf
      (leaves_bind (aside.leaves_updateGatewayConfigs cls containerID conf)
        fun _ => leaves_ite (leaves_throw _) (leaves_pure _))

theorem leaves_setCapabilities (containerID : Int) (capabilities : List String) :
    Leaves part (setCapabilities cls containerID capabilities) := by
  refine leaves_ite (leaves_pure _) (leaves_get_bind fun _ =>
    leaves_bind (aside.leaves_onHeap _) fun gatewayConfigs =>
    leaves_bind (aside.leaves_onHeap _) fun filteredConfigs => leaves_ite ?_ ?_)
  · exact aside.leaves_withConfig _ (aside.leaves_withConfig _ (leaves_throw _))
  · refine leaves_bind (aside.leaves_onHeap _) fun merged =>
      aside.leaves_withConfig _ (aside.leaves_withConfig _ ?_)
    exact leaves_bind (aside.leaves_updateGatewayConfigs cls containerID merged) fun _ =>
      leaves_ite (leaves_throw _) (leaves_pure _)

theorem leaves_ensureConfigured (containerID : Int) :
    Leaves part (ensureConfigured cls containerID) :=
  leaves_bind (aside.leaves_onContainer _ _) fun _ =>
    leaves_ite (aside.leaves_setDefaultCapabilities cls containerID) (leaves_pure _)

theorem leaves_runCommand (containerID : Int)
    (cmdLine workingDirectory outputFile : String) (env : EnvironmentVariables) :
    Leaves part (runCommand cls containerID cmdLine workingDirectory outputFile env) := by
  refine leaves_bind (aside.leaves_onContainer _ _) fun job => leaves_bind (leaves_ask _)
    fun output => leaves_bind (aside.leaves_onContainer _ _) fun started =>
      leaves_ite (leaves_throw _) (leaves_bind ?_ fun _ => leaves_pure _)
  exact leaves_modify fun self => aside.connections self _

theorem leaves_execute (containerID : Int) (cmdLine workingDirectory outputFile : String)
    (env : EnvironmentVariables) :
    Leaves part (execute cls containerID cmdLine workingDirectory outputFile env) :=
  leaves_bind (aside.leaves_ensureConfigured cls containerID) fun _ =>
    aside.leaves_runCommand cls containerID cmdLine workingDirectory outputFile env

theorem leaves_bindMount (containerID : Int) (pathInHost pathInContainer : String)
    (readOnly : Bool) :
    Leaves part (bindMount cls containerID pathInHost pathInContainer readOnly) :=
  leaves_bind (aside.leaves_onContainer _ _) fun _ =>
    leaves_ite (leaves_throw _) (leaves_pure _)

theorem preserves_perform (jsonLoads : String → Except String Json)
    {inv : SoftwareContainerAgent κ → Prop} {operation : Operation}
    (seen : ∀ self after, inv self → part after = part self → inv after)
    (noCreation : ∀ config, operation ≠ .createContainer config)
    (forget : ∀ containerID, operation = .deleteContainer containerID ∨
      operation = .shutdownContainer containerID →
        Preserves inv (forgetContainer containerID : Method κ PUnit)) :
    Preserves inv (perform cls jsonLoads operation) := by
  have kept : ∀ {β : Type} {method : Method κ β}, Leaves part method → Preserves inv method :=
    fun leaves => leaves.preserves seen
  cases operation with
  | listContainers => exact preserves_map (preserves_get_bind fun _ => preserves_pure _)
  | listCapabilities => exact preserves_map (preserves_get_bind fun _ => preserves_pure _)
  | createContainer config => exact absurd rfl (noCreation config)
  | deleteContainer containerID =>
      exact preserves_map (preserves_get_bind fun _ =>
        preserves_bind (forget containerID (.inl rfl)) fun _ =>
          kept (leaves_releaseContainer cls _))
  | shutdownContainer containerID =>
      refine preserves_map (preserves_get_bind fun self => preserves_bind
        (kept (aside.leaves_onContainer containerID _)) fun _ =>
        preserves_get_bind fun _ => preserves_bind ?_ fun _ =>
          kept (leaves_releaseContainer cls _))
      exact preserves_tryCatch (forget containerID (.inr rfl)) fun error =>
        preserves_ite (fun _ => preserves_throw _) fun _ => preserves_throw _
  | execute => exact preserves_map (kept (aside.leaves_execute cls _ _ _ _ _))
  | suspendContainer => exact preserves_map (kept (aside.leaves_onContainer _ _))
  | resumeContainer => exact preserves_map (kept (aside.leaves_onContainer _ _))
  | bindMount => exact preserves_map (kept (aside.leaves_bindMount cls _ _ _ _))
  | setCapabilities => exact preserves_map (kept (aside.leaves_setCapabilities cls _ _))

end Aside

end

structure HasPool (counter : Int) (free : List Int) (agent : SoftwareContainerAgent κ) :
    Prop where
  pool : agent.containerIdPool = counter :: free
  fresh : FreshIds (fun id => id ∈ agent.containers) counter free

theorem HasPool.of_ids {counter : Int} {free : List Int}
    {self after : SoftwareContainerAgent κ} (has : HasPool counter free self)
    (same : after.ids = self.ids) : HasPool counter free after where
  pool := (congrArg Prod.fst same).trans has.pool
  fresh := has.fresh.mono fun id isLive => by
    have contains := congrFun (congrArg Prod.snd same) id
    rw [Std.ExtTreeMap.mem_iff_contains] at isLive ⊢
    exact contains.symm.trans isLive

/-! The methods that change the pool. -/

def issue (counter : Int) : List Int → Int × List Int
  | [] => (counter, [counter + 1])
  | next :: rest => ((next :: rest).getLast (by simp), counter :: (next :: rest).dropLast)

/-- The only id that is left cannot be counted up. -/
def Exhausted (counter : Int) (free : List Int) : Prop := free = [] ∧ INT32_MAX ≤ counter

theorem run_findSuitableId {counter : Int} {free : List Int}
    (world : World Sys (SoftwareContainerAgent κ))
    (pool : world.state.containerIdPool = counter :: free) (oracle : Oracle Sys) :
    (Exhausted counter free ∧
      (findSuitableId : Method κ Int).run oracle world = (.error .undefined, world)) ∨
    ¬ Exhausted counter free ∧
      (findSuitableId : Method κ Int).run oracle world =
        (.ok (issue counter free).1,
          ⟨{ world.state with containerIdPool := (issue counter free).2 }, world.history⟩) := by
  rw [findSuitableId, run_get_bind]
  dsimp only
  rw [pool]
  cases free with
  | nil =>
      by_cases exhausted : INT32_MAX ≤ counter
      · refine .inl ⟨⟨rfl, exhausted⟩, ?_⟩
        dsimp only [List.getLast?_singleton]
        rw [if_neg (by simp), if_pos exhausted]
        rfl
      · refine .inr ⟨fun both => exhausted both.2, ?_⟩
        dsimp only [List.getLast?_singleton]
        rw [if_neg (by simp), if_neg exhausted]
        rfl
  | cons next rest =>
      refine .inr ⟨fun both => (List.cons_ne_nil _ _) both.1, ?_⟩
      rw [List.getLast?_eq_getLast_of_ne_nil (List.cons_ne_nil _ _)]
      dsimp only
      rw [if_pos (by simp)]
      rfl

theorem issue_fresh {live : Int → Prop} {counter : Int} {free : List Int}
    (fresh : FreshIds live counter free) :
    ¬ live (issue counter free).1 ∧ ∃ counter' free',
      (issue counter free).2 = counter' :: free' ∧ counter' ≤ counter + 1 ∧
      FreshIds (fun id => live id ∨ id = (issue counter free).1) counter' free' := by
  cases free with
  | nil => exact ⟨fresh.not_live_counter, counter + 1, [], rfl, Int.le_refl _, fresh.count⟩
  | cons next rest =>
      have split : (next :: rest).dropLast ++ [(next :: rest).getLast (by simp)] =
          next :: rest := List.dropLast_append_getLast _
      refine ⟨fresh.unused _ (List.getLast_mem _), counter, (next :: rest).dropLast, rfl,
        by omega, ?_⟩
      rw [← split] at fresh
      exact fresh.pop

theorem getLast?_issue_ne {live : Int → Prop} {counter : Int} {free : List Int}
    (fresh : FreshIds live counter free) :
    (issue counter free).2.getLast? ≠ some (issue counter free).1 := by
  obtain ⟨_, counter', free', isPool, _, after⟩ := issue_fresh fresh
  rw [isPool]
  intro same
  rcases List.mem_cons.mp (List.mem_of_getLast? same) with isCounter | member
  · exact Int.lt_irrefl counter' (after.liveBelow counter' (.inr isCounter.symm))
  · exact after.unused _ member (.inr rfl)

theorem getLast?_pool (counter : Int) (free : List Int) :
    (counter :: free).getLast? = some (issue counter free).1 := by
  cases free with
  | nil => rfl
  | cons next rest => rw [List.getLast?_cons_cons, List.getLast?_eq_some_getLast]; rfl

section

variable (cls : ContainerClass κ) (jsonLoads : String → Except String Json)

inductive Creation (config : String) (counter : Int) (free : List Int)
    (world : World Sys (SoftwareContainerAgent κ)) :
    Except Fault Int → World Sys (SoftwareContainerAgent κ) → Prop
  | rejected {message : String} {options : DynamicContainerOptions} :
      ContainerOptionParser.accepts jsonLoads config = false →
      Creation config counter free world (.error (.containerOptionParseError message))
        ⟨{ world.state with options }, world.history⟩
  | exhausted {options : DynamicContainerOptions} :
      ContainerOptionParser.accepts jsonLoads config = true → Exhausted counter free →
      Creation config counter free world (.error .undefined)
        ⟨{ world.state with options }, world.history⟩
  | failed {options : DynamicContainerOptions} {error : Fault} {history : History Sys} :
      ContainerOptionParser.accepts jsonLoads config = true → ¬ Exhausted counter free →
      Creation config counter free world (.error error)
        ⟨{ world.state with options, containerIdPool := (issue counter free).2 }, history⟩
  | created {options : DynamicContainerOptions} {container : κ} {history : History Sys} :
      ContainerOptionParser.accepts jsonLoads config = true → ¬ Exhausted counter free →
      Creation config counter free world (.ok (issue counter free).1)
        ⟨{ world.state with
          options := options
          containerIdPool := (issue counter free).2
          containers := world.state.containers.insert (issue counter free).1 container },
          history⟩

theorem run_assignContainer_of_new {containerID : Int}
    (world : World Sys (SoftwareContainerAgent κ))
    (new : containerID ∉ world.state.containers) (container : κ) (oracle : Oracle Sys) :
    (assignContainer cls containerID container).run oracle world =
      (.ok ⟨⟩, ⟨{ world.state with
        containers := world.state.containers.insert containerID container },
        world.history⟩) := by
  rw [assignContainer, run_get_bind]
  dsimp only
  rw [run_modify_bind, Std.ExtTreeMap.getElem?_eq_none new]
  rfl

theorem run_assignCreated {containerID : Int}
    (world : World Sys (SoftwareContainerAgent κ))
    (new : containerID ∉ world.state.containers) (containerConfig : SoftwareContainerConfig)
    (oracle : Oracle Sys) :
    (∃ error history, (do
        let (container, _) ← runOn () (cls.createContainer containerID containerConfig)
        assignContainer cls containerID container
        return containerID : Method κ Int).run oracle world =
      (.error error, ⟨world.state, history⟩)) ∨
    ∃ container history, (do
        let (container, _) ← runOn () (cls.createContainer containerID containerConfig)
        assignContainer cls containerID container
        return containerID : Method κ Int).run oracle world =
      (.ok containerID, ⟨{ world.state with
        containers := world.state.containers.insert containerID container }, history⟩) := by
  cases made : (cls.createContainer containerID containerConfig).run oracle
      ⟨(), world.history⟩ with
  | mk result final =>
      have ran : (runOn () (cls.createContainer containerID containerConfig) :
          Method κ _).run oracle world =
          (result.map fun value => (value, final.state), ⟨world.state, final.history⟩) := by
        rw [run_runOn, made]
      cases result with
      | error error => exact .inl ⟨error, final.history, run_bind_error ran⟩
      | ok container =>
          refine .inr ⟨container, final.history, ?_⟩
          rw [run_bind_ok ran]
          exact run_bind_ok
            (run_assignContainer_of_new cls ⟨world.state, final.history⟩ new container oracle)

theorem creation {config : String} {counter : Int} {free : List Int}
    {world after : World Sys (SoftwareContainerAgent κ)} {result : Except Fault Int}
    (has : HasPool counter free world.state) {oracle : Oracle Sys}
    (ended : (createContainer cls jsonLoads config).run oracle world = (result, after)) :
    Creation jsonLoads config counter free world result after := by
  obtain ⟨options, history, outcomes⟩ := ContainerOptionParser.run_parse jsonLoads config oracle
    ⟨world.state.options, world.history⟩
  cases parsed : (ContainerOptionParser.parse jsonLoads config).run oracle
      ⟨world.state.options, world.history⟩ with
  | mk outcome between =>
      rw [parsed] at history outcomes
      dsimp only at history outcomes
      subst history
      have zoomed : (zoom optionsLens (ContainerOptionParser.parse jsonLoads config) :
          Method κ _).run oracle world =
          (outcome, ⟨{ world.state with options }, world.history⟩) := by
        rw [run_zoom]
        dsimp only [optionsLens]
        rw [parsed]
      rw [createContainer] at ended
      cases accepted : ContainerOptionParser.accepts jsonLoads config with
      | false =>
          rw [if_neg (by simp [accepted])] at outcomes
          obtain ⟨message, isError⟩ := outcomes
          subst isError
          rw [run_bind_error zoomed] at ended
          cases ended
          exact .rejected accepted
      | true =>
          rw [if_pos accepted] at outcomes
          obtain ⟨read, isOk⟩ := outcomes
          subst isOk
          rw [run_bind_ok zoomed, run_get_bind] at ended
          have found := run_findSuitableId
            ⟨{ world.state with options }, world.history⟩ has.pool oracle
          rcases found with ⟨exhausted, undefined⟩ | ⟨notExhausted, issued⟩
          · rw [run_bind_error undefined] at ended
            cases ended
            exact .exhausted accepted exhausted
          · rw [run_bind_ok issued] at ended
            have new := (issue_fresh has.fresh).1
            rcases run_assignCreated cls
                ⟨{ world.state with options, containerIdPool := (issue counter free).2 },
                  world.history⟩ new (read.toConfig world.state.containerConfig) oracle with
              ⟨error, history, failed⟩ | ⟨container, history, created⟩
            · cases failed.symm.trans ended
              exact .failed accepted notExhausted
            · cases created.symm.trans ended
              exact .created accepted notExhausted

theorem run_forgetContainer (containerID : Int)
    (world : World Sys (SoftwareContainerAgent κ)) (oracle : Oracle Sys) :
    (∃ error, (forgetContainer containerID : Method κ PUnit).run oracle world =
      (.error error, world)) ∨
    containerID ∈ world.state.containers ∧
      (forgetContainer containerID : Method κ PUnit).run oracle world =
        (.ok ⟨⟩, ⟨{ world.state with
          containers := world.state.containers.erase containerID
          containerIdPool := world.state.containerIdPool ++ [containerID] },
          world.history⟩) := by
  rw [forgetContainer, assertContainerExists]
  by_cases great : containerID ≥ INT32_MAX
  · simp only [if_pos great]
    exact .inl ⟨_, rfl⟩
  · by_cases negative : containerID < 0
    · simp only [if_neg great, if_pos negative]
      exact .inl ⟨_, rfl⟩
    · cases exists_ : world.state.containers.contains containerID with
      | false =>
          simp only [if_neg great, if_neg negative, run_bind, run_get, exists_]
          exact .inl ⟨_, rfl⟩
      | true =>
          simp only [if_neg great, if_neg negative, run_bind, run_get, exists_]
          exact .inr ⟨Std.ExtTreeMap.mem_iff_contains.mpr exists_, rfl⟩

def HasCounter (counter : Int) (agent : SoftwareContainerAgent κ) : Prop :=
  ∃ free, HasPool counter free agent

theorem preserves_forgetContainer (counter : Int) (containerID : Int) :
    Preserves (HasCounter counter) (forgetContainer containerID : Method κ PUnit) := by
  rintro oracle world ⟨free, has⟩
  rcases run_forgetContainer containerID world oracle with ⟨_, failed⟩ | ⟨isLive, forgotten⟩
  · rw [failed]
    exact ⟨free, has⟩
  · rw [forgotten]
    refine ⟨free ++ [containerID], ?_, (has.fresh.push isLive).mono fun id isLive => ?_⟩
    · dsimp only
      rw [has.pool, List.cons_append]
    · have ⟨different, before⟩ := Std.ExtTreeMap.mem_erase.mp isLive
      exact ⟨before, fun same => different (Std.LawfulEqOrd.compare_eq_iff_eq.mpr same.symm)⟩

def issues : Operation → Bool
  | .createContainer config => ContainerOptionParser.accepts jsonLoads config
  | _ => false

theorem preserves_perform (counter : Int) {operation : Operation}
    (none : ∀ config, operation ≠ .createContainer config) :
    Preserves (HasCounter counter) (perform cls jsonLoads operation) :=
  aside_ids.preserves_perform cls jsonLoads (fun _ _ ⟨free, has⟩ same => ⟨free, has.of_ids same⟩)
    none fun containerID _ => preserves_forgetContainer counter containerID

theorem hasCounter_perform {counter : Int} {world : World Sys (SoftwareContainerAgent κ)}
    (has : HasCounter counter world.state) (operation : Operation) (oracle : Oracle Sys) :
    ∃ counter', counter' ≤ counter + (if issues jsonLoads operation then 1 else 0) ∧
      HasCounter counter' ((perform cls jsonLoads operation).run oracle world).2.state := by
  cases operation with
  | createContainer config =>
      obtain ⟨free, has⟩ := has
      have same : ((perform cls jsonLoads (.createContainer config)).run oracle world).2 =
          ((createContainer cls jsonLoads config).run oracle world).2 := by
        rw [perform, run_map]
      rw [same]
      cases ended : (createContainer cls jsonLoads config).run oracle world with
      | mk result after =>
          obtain ⟨_, counter', free', isPool, atMost, fresh⟩ := issue_fresh has.fresh
          cases creation cls jsonLoads has ended with
          | rejected isRejected =>
              exact ⟨counter, by split <;> omega, free, has.pool, has.fresh⟩
          | exhausted isAccepted isExhausted =>
              exact ⟨counter, by split <;> omega, free, has.pool, has.fresh⟩
          | failed isAccepted =>
              refine ⟨counter', ?_, free', isPool, fresh.mono fun id isLive => .inl isLive⟩
              rw [issues, if_pos isAccepted]
              exact atMost
          | created isAccepted =>
              refine ⟨counter', ?_, free', isPool, fresh.mono fun id isLive => ?_⟩
              · rw [issues, if_pos isAccepted]
                exact atMost
              · exact (Std.ExtTreeMap.mem_insert.mp isLive).symm.imp_right fun same =>
                  (Std.LawfulEqOrd.compare_eq_iff_eq.mp same).symm
  | _ =>
      exact ⟨counter, Int.le_add_of_nonneg_right (by split <;> decide),
        preserves_perform cls jsonLoads counter (by nofun) oracle world has⟩

def issued (operations : List Operation) : Nat :=
  operations.countP (issues jsonLoads)

theorem hasCounter_runAll {counter : Int} (world : World Sys (SoftwareContainerAgent κ))
    (has : HasCounter counter world.state) (operations : List Operation)
    (oracle : Oracle Sys) :
    ∃ counter', counter' ≤ counter + issued jsonLoads operations ∧ HasCounter counter'
      (runAll (perform cls jsonLoads) oracle operations world).2.state := by
  induction operations generalizing counter world with
  | nil => exact ⟨counter, by simp [issued], has⟩
  | cons operation rest ih =>
      obtain ⟨middle, atMost, hasMiddle⟩ :=
        hasCounter_perform cls jsonLoads has operation oracle
      obtain ⟨counter', atMostRest, hasAfter⟩ := ih _ hasMiddle
      refine ⟨counter', ?_, hasAfter⟩
      have counted : (issued jsonLoads (operation :: rest) : Int) =
          issued jsonLoads rest + (if issues jsonLoads operation then 1 else 0) := by
        rw [issued, List.countP_cons, issued]
        split <;> simp
      omega

theorem hasCounter_constructed {containerConfig : SoftwareContainerConfig}
    {manifests defaultManifests : List Json} {agent : SoftwareContainerAgent κ}
    (constructed : construct containerConfig manifests defaultManifests = .ok agent) :
    HasCounter 0 agent := by
  rw [construct] at constructed
  obtain ⟨filtered, _, constructed⟩ := ConfigStore.except_bind_eq_ok constructed
  obtain ⟨defaults, _, constructed⟩ := ConfigStore.except_bind_eq_ok constructed
  cases constructed
  exact ⟨[], rfl, .mono .initial fun id isLive => Std.ExtTreeMap.not_mem_empty isLive⟩

/-- No id is in the pool twice, or in the pool and in use, and the first id of the pool is
above all others. -/
structure IdsApart (agent : SoftwareContainerAgent κ) : Prop where
  nonempty : agent.containerIdPool ≠ []
  distinct : agent.containerIdPool.Nodup
  unused : ∀ id ∈ agent.containerIdPool, id ∉ agent.containers
  first : ∀ counter, agent.containerIdPool.head? = some counter → counter < INT32_MAX ∧
    (∀ id ∈ agent.containerIdPool.tail, id < counter) ∧ ∀ id ∈ agent.containers, id < counter

theorem HasPool.idsApart {counter : Int} {free : List Int} {agent : SoftwareContainerAgent κ}
    (has : HasPool counter free agent) (counted : counter < INT32_MAX) : IdsApart agent where
  nonempty := by
    rw [has.pool]
    exact List.cons_ne_nil _ _
  distinct := by
    rw [has.pool, List.nodup_cons]
    exact ⟨fun member => Int.lt_irrefl _ (has.fresh.freeBelow counter member),
      has.fresh.distinct⟩
  unused id member := by
    rw [has.pool] at member
    rcases List.mem_cons.mp member with rfl | member
    · exact has.fresh.not_live_counter
    · exact has.fresh.unused id member
  first first isFirst := by
    rw [has.pool] at isFirst ⊢
    cases isFirst
    exact ⟨counted, has.fresh.freeBelow, has.fresh.liveBelow⟩

/-- In a run that hands out fewer ids than there are, no id of a container is handed out
again, and no container is replaced by another. -/
theorem ids_in_use_are_not_handed_out {containerConfig : SoftwareContainerConfig}
    {manifests defaultManifests : List Json} {agent : SoftwareContainerAgent κ}
    (constructed : construct containerConfig manifests defaultManifests = .ok agent)
    (oracle : Oracle Sys) (history : History Sys) {operations : List Operation}
    (few : issued jsonLoads operations < INT32_MAX) :
    let world := (runAll (perform cls jsonLoads) oracle operations ⟨agent, history⟩).2
    IdsApart world.state ∧ ∀ config result after,
      (createContainer cls jsonLoads config).run oracle world = (result, after) →
        (∀ id, result = .ok id → id ∉ world.state.containers) ∧
        ∀ (id : Int) (container : κ), world.state.containers[id]? = some container →
          after.state.containers[id]? = some container := by
  obtain ⟨counter, atMost, free, has⟩ := hasCounter_runAll cls jsonLoads
    ⟨agent, history⟩ (hasCounter_constructed constructed) operations oracle
  refine ⟨has.idsApart (by omega), fun config result after ended => ?_⟩
  have new := (issue_fresh has.fresh).1
  cases creation cls jsonLoads has ended with
  | rejected => exact ⟨nofun, fun _ _ found => found⟩
  | exhausted => exact ⟨nofun, fun _ _ found => found⟩
  | failed => exact ⟨nofun, fun _ _ found => found⟩
  | created =>
      refine ⟨fun id same => Except.ok.inj same ▸ new, fun id container found => ?_⟩
      rw [getElem?_insert, if_neg, found]
      rintro rfl
      rw [Std.ExtTreeMap.getElem?_eq_none new] at found
      cases found

/-- The containers and the ids that will be handed out are as they were. -/
def AsBefore (before after : SoftwareContainerAgent κ) : Prop :=
  after.containers = before.containers ∧ after.containerIdPool = before.containerIdPool

/-- After any run, a creation that throws changes nothing exactly when it is the options
that are not accepted; otherwise an id is lost, and the next one will be another. -/
theorem failed_creation_asBefore_iff {containerConfig : SoftwareContainerConfig}
    {manifests defaultManifests : List Json} {agent : SoftwareContainerAgent κ}
    (constructed : construct containerConfig manifests defaultManifests = .ok agent)
    (oracle : Oracle Sys) (history : History Sys) (operations : List Operation)
    {world after : World Sys (SoftwareContainerAgent κ)}
    (reached : (runAll (perform cls jsonLoads) oracle operations ⟨agent, history⟩).2 = world)
    {config : String} {error : Fault}
    (thrown : (createContainer cls jsonLoads config).run oracle world = (.error error, after))
    (defined : error ≠ .undefined) :
    (AsBefore world.state after.state ↔
      ContainerOptionParser.accepts jsonLoads config = false) ∧
    (after.state.containerIdPool.getLast? = world.state.containerIdPool.getLast? ↔
      ContainerOptionParser.accepts jsonLoads config = false) := by
  obtain ⟨counter, _, free, has⟩ := hasCounter_runAll cls jsonLoads
    ⟨agent, history⟩ (hasCounter_constructed constructed) operations oracle
  rw [reached] at has
  cases creation cls jsonLoads has thrown with
  | rejected isRejected => exact ⟨iff_of_true ⟨rfl, rfl⟩ isRejected, iff_of_true rfl isRejected⟩
  | exhausted => exact absurd rfl defined
  | failed isAccepted =>
      have another : (issue counter free).2.getLast? ≠
          world.state.containerIdPool.getLast? := by
        rw [has.pool, getLast?_pool]
        exact getLast?_issue_ne has.fresh
      have notRejected : ¬ ContainerOptionParser.accepts jsonLoads config = false := by
        rw [isAccepted]
        decide
      exact ⟨iff_of_false (fun same => another (congrArg List.getLast? same.2)) notRejected,
        iff_of_false another notRejected⟩

end

section

def emptyOptions : String → Except String Json := fun _ => .ok (.array [])

def noDirectories : Oracle Sys
  | _, .isDirectory _ => false
  | _, .createDirectory _ => false
  | history, call => fortunate history call

abbrev libraryClass : ContainerClass LibraryContainer :=
  SoftwareContainer.containerClass fun _ => none

def withoutManifests : SoftwareContainerAgent LibraryContainer where
  containers := ∅
  containerIdPool := [0]
  options := .new
  containerConfig := .defaults
  filteredConfigStore := .empty
  defaultConfigStore := .empty
  heap := .empty
  connections := []

theorem constructed_withoutManifests : construct .defaults [] [] = .ok withoutManifests := rfl

theorem ids_in_use_are_not_handed_out_created :
    IdsApart (runAll (perform libraryClass emptyOptions) fortunate
      [.createContainer "[]"] ⟨withoutManifests, []⟩).2.state :=
  (ids_in_use_are_not_handed_out libraryClass emptyOptions constructed_withoutManifests
    fortunate [] (by decide)).1

theorem failed_creation_asBefore_iff_rejected :
    AsBefore withoutManifests ((createContainer libraryClass emptyOptions "").run fortunate
      ⟨withoutManifests, []⟩).2.state := by
  have thrown : (createContainer libraryClass emptyOptions "").run fortunate
      ⟨withoutManifests, []⟩ = (.error (.containerOptionParseError
        "Empty JSON config strings are not supported."), ⟨withoutManifests, []⟩) := rfl
  rw [thrown]
  exact (failed_creation_asBefore_iff libraryClass emptyOptions constructed_withoutManifests
    fortunate [] [] rfl thrown nofun).1.mpr (by decide)

/-- The factory fails, and the id is not given back. -/
theorem failed_creation_loses_an_id :
    ¬ ∀ (oracle : Oracle Sys) config error after,
      (createContainer libraryClass emptyOptions config).run oracle ⟨withoutManifests, []⟩ =
        (.error error, after) → error ≠ .undefined →
      AsBefore withoutManifests after.state := by
  intro atomic
  have asBefore := atomic noDirectories "[]"
    (.softwareContainerError "Failed to create container root directory") _ rfl nofun
  exact absurd asBefore.2 (by decide)

end

end SoftwareContainerAgent

end SoftwareContainers
