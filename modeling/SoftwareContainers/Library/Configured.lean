import SoftwareContainers.Effect.Invariant
import SoftwareContainers.Library.Erasure

namespace SoftwareContainers

open Effect Effect.Act

variable {I : Interface} {γ κ : Type}

/-! Gateways that log when they are configured, beside what they work on.  The log is not
part of the program. -/

namespace GatewayClass

def logging (cls : GatewayClass I γ κ) : GatewayClass I γ (κ × List String) where
  id := cls.id
  setConfig config := do
    modify fun whole => (whole.1, (whole.2.1, whole.2.2 ++ [cls.id whole.1]))
    zoom withoutLog (cls.setConfig config)
  activate := zoom withoutLog cls.activate
  teardown := zoom withoutLog cls.teardown
  isConfigured := cls.isConfigured
  isActivated := cls.isActivated

variable (cls : GatewayClass I γ κ)

theorem erases_logging : ErasesGateways (fun gateway => gateway) Prod.fst cls.logging cls where
  id _ := rfl
  setConfig _ _ _ := rfl
  activate _ _ := rfl
  teardown _ _ := rfl
  isConfigured _ := rfl
  isActivated _ := rfl

theorem run_logging_setConfig (config : Json) (oracle : Oracle I)
    (world : World I (γ × (κ × List String))) :
    ((cls.logging.setConfig config).run oracle world).2.state.2.2 =
      world.state.2.2 ++ [cls.id world.state.1] :=
  rfl

end GatewayClass

namespace SoftwareContainer

variable {cls : GatewayClass I γ κ} {gwConfig : GatewayConfiguration}

/-- What `startGateways` throws before it looks at a gateway: the container is not ready, or
an id of the configuration maps to no gateway. -/
def Refuses (cls : GatewayClass I γ κ) (self : SoftwareContainer γ κ)
    (gwConfig : GatewayConfiguration) : Prop :=
  self.containerState ≠ .ready ∨ (unmatchedId cls self.gateways gwConfig).isSome

theorem run_startGateways_of_refuses {self : SoftwareContainer γ κ}
    (refuses : Refuses cls self gwConfig) (oracle : Oracle I) (history : History I) :
    ∃ error, (startGateways cls gwConfig).run oracle ⟨self, history⟩ =
        (.error error, ⟨self, history⟩) ∧
      ∀ message, error ≠ .softwareContainerError message := by
  by_cases ready : self.containerState = .ready
  · obtain ⟨id, unmatched⟩ := Option.isSome_iff_exists.mp
      (refuses.resolve_left (not_not_intro ready))
    have failed := run_configureGateways_of_unmatched (by simp [ready]) unmatched oracle history
    have stops := run_startGateways_of_configure_failed ready
      (by rw [failed]; exact fun same => by cases same)
    exact ⟨_, stops.trans failed, fun _ same => by cases same⟩
  · rw [startGateways]
    by_cases valid : self.containerState = .invalid
    · have thrown : (assertValidState : Act I Fault (SoftwareContainer γ κ) PUnit).run oracle
          ⟨self, history⟩ = (.error (.invalidContainerError
            ("Container is invalid " ++ self.id)), ⟨self, history⟩) := by
        rw [assertValidState, run_get_bind, if_pos valid, run_throw]
      exact ⟨_, run_bind_error thrown, fun _ same => by cases same⟩
    · rw [run_bind_ok (run_assertValidState valid oracle history), run_get_bind, if_pos ready,
        run_throw]
      exact ⟨_, rfl, fun _ same => by cases same⟩

/-! The log only grows. -/

def AtLeast (count : Nat) (container : κ × List String) : Prop :=
  count ≤ container.2.length

theorem preserves_configureGateway_log (count : Nat) :
    Preserves (fun whole => AtLeast count whole.2)
      (configureGateway cls.logging gwConfig) := by
  refine preserves_get_bind fun whole => ?_
  cases gwConfig[cls.logging.id whole.1]? with
  | none => exact preserves_pure _
  | some config =>
      refine preserves_bind (fun oracle world fewer => ?_) fun _ =>
        preserves_ite (fun _ => preserves_pure _) fun _ => preserves_pure _
      rw [AtLeast, GatewayClass.run_logging_setConfig, List.length_append]
      exact Nat.le_add_right_of_le fewer

theorem preserves_activateGateways_log (count : Nat) :
    Preserves (fun self => AtLeast count self.container) (activateGateways cls.logging) := by
  have one : Preserves (fun whole => AtLeast count whole.2) (activateGateway cls.logging) :=
    preserves_get_bind fun whole => preserves_ite (fun _ => preserves_bind
      (fun _ _ fewer => fewer) fun _ => preserves_ite (fun _ => preserves_pure _)
        fun _ => preserves_pure _) fun _ => preserves_pure _
  exact preserves_bind (preserves_zoom_of (fun _ fewer => fewer) (fun _ _ _ fewer => fewer)
    (preserves_sweep_rest one)) fun _ => preserves_pure _

theorem sweepList_log {gateways : List γ}
    (named : ∃ gateway ∈ gateways, cls.id gateway ∈ gwConfig) (oracle : Oracle I)
    (container : κ × List String) (history : History I) :
    AtLeast (container.2.length + 1) (sweepList (configureGateway cls.logging gwConfig) oracle
      gateways container history).2.state.2 := by
  induction gateways with
  | nil =>
      obtain ⟨gateway, member, _⟩ := named
      cases member
  | cons head tail ih =>
      cases found : gwConfig[cls.logging.id head]? with
      | none =>
          rw [sweepList_cons_of_next (run_configureGateway_of_unnamed found oracle container
            history)]
          refine ih ?_
          obtain ⟨gateway, member, there⟩ := named
          rcases List.mem_cons.mp member with rfl | member
          · exact (nomatch found.symm.trans (Std.ExtTreeMap.getElem?_eq_some_getElem there))
          · exact ⟨gateway, member, there⟩
      | some config =>
          cases ended : (configureGateway cls.logging gwConfig).run oracle
              ⟨(head, container), history⟩ with
          | mk result world =>
              have logged : AtLeast (container.2.length + 1) world.state.2 := by
                rw [run_configureGateway_of_named found] at ended
                have grown := GatewayClass.run_logging_setConfig cls config oracle
                  ⟨(head, container), history⟩
                rw [(Prod.mk.inj ended).2] at grown
                exact Nat.le_of_eq (by rw [grown, List.length_append, List.length_singleton])
              by_cases next : result = .ok none
              · subst next
                rw [sweepList_cons_of_next ended]
                exact preserves_sweep_rest (preserves_configureGateway_log _) oracle
                  ⟨(tail, world.state.2), world.history⟩ logged
              · rw [sweepList_cons_of_stop ended next]
                exact logged

theorem run_startGateways_log {self : SoftwareContainer γ (κ × List String)}
    (accepted : ¬ Refuses cls.logging self gwConfig) (nonempty : gwConfig ≠ ∅)
    (oracle : Oracle I) (history : History I) :
    AtLeast (self.container.2.length + 1) ((startGateways cls.logging gwConfig).run oracle
      ⟨self, history⟩).2.state.container := by
  obtain ⟨unready, unmatched⟩ := not_or.mp accepted
  have ready := not_not.mp unready
  have matched := Option.not_isSome_iff_eq_none.mp unmatched
  have named : ∃ gateway ∈ self.gateways, cls.id gateway ∈ gwConfig := by
    obtain ⟨id, there⟩ : ∃ id, id ∈ gwConfig := by
      by_contra none
      exact nonempty (Std.ExtTreeMap.eq_empty_iff_forall_not_mem.mpr (not_exists.mp none))
    have found := List.find?_eq_none.mp matched id (Std.ExtTreeMap.mem_keys.mpr there)
    simp only [Bool.not_eq_true', Bool.not_eq_false, List.any_eq_true, beq_iff_eq] at found
    obtain ⟨gateway, member, same⟩ := found
    exact ⟨gateway, member, by rw [show cls.id gateway = id from same]; exact there⟩
  have swept := sweepList_log named oracle self.container history
  have configured := run_configureGateways_of_matched (by simp [ready]) matched oracle history
  rw [run_startGateways_of_ready ready, run_bind, configured]
  dsimp only
  cases ended : sweepList (configureGateway cls.logging gwConfig) oracle self.gateways
      self.container history with
  | mk result world =>
      rw [ended] at swept
      cases result with
      | error error => exact swept
      | ok left =>
          let logged (after : SoftwareContainer γ (κ × List String)) : Prop :=
            AtLeast (self.container.2.length + 1) after.container
          have activated : Preserves logged (activateGateways cls.logging) :=
            preserves_activateGateways_log _
          refine @preserves_ite _ _ _ _ logged _ _ _ _ (fun _ => preserves_pure _)
            (fun _ => ?_) oracle _ swept
          exact preserves_bind activated fun _ => preserves_ite (fun _ => preserves_pure _)
            fun _ => preserves_bind (preserves_modify fun _ holds => holds)
              fun _ => preserves_pure _

end SoftwareContainer

end SoftwareContainers
