import SoftwareContainers.Library.Machine

namespace SoftwareContainers

open Effect Effect.Act

/-! What the operations of a `SoftwareContainer` keep that are no step of its life. -/

def ConfigFits (gwConfig : GatewayConfiguration) : Prop :=
  ∀ (id : String) config, gwConfig[id]? = some config →
    ∀ element ∈ config.elements, AnyGateway.Fits id element

namespace SoftwareContainer

def ValidGateways (self : LibraryContainer) : Prop :=
  ∀ gateway ∈ self.gateways, gateway.Valid

structure Stays (ok : Prop) (state : Container.ContainerState)
    (containerState : ContainerState) (whole : LibraryContainer) : Prop where
  gateways : ok → whole.ValidGateways
  container : whole.container.state = state
  machine : whole.containerState = containerState

def Idle (ok : Prop) {α : Type} (method : Method α) : Prop :=
  ∀ state containerState, Keeps (Stays ok state containerState) Steady
    (fun error => ok → Caught error) method

/-! Parts of a container that the small operations leave alone. -/

section

variable {τ : Type} {part : LibraryContainer → τ}

theorem leaves_assertReady (message : String) : Leaves part (assertReady message) :=
  leaves_bind (leaves_get_bind fun _ => leaves_ite (leaves_throw _) (leaves_pure _))
    fun _ => leaves_get_bind fun _ => leaves_ite (leaves_throw _) (leaves_pure _)

theorem leaves_invalidate
    (machine : ∀ (self : LibraryContainer) containerState,
      part { self with containerState } = part self) (message : String) :
    Leaves part (invalidate message) :=
  leaves_bind (leaves_modify fun self => machine self .invalid) fun _ =>
    leaves_get_bind fun _ => leaves_throw _

end

section

variable {ok : Prop} {state : Container.ContainerState} {containerState : ContainerState}
  {may : Fault → Prop}

theorem keeps_assertValidState :
    Keeps (Stays ok state containerState) Steady Caught
      (assertValidState : Method PUnit) :=
  keeps_get_bind fun _ _ => keeps_ite (fun _ => keeps_throw rfl) fun _ => keeps_pure _

theorem keeps_assertReady (message : String) :
    Keeps (Stays ok state containerState) Steady Caught (assertReady message) :=
  keeps_bind keeps_assertValidState fun _ => keeps_get_bind fun _ _ =>
    keeps_ite (fun _ => keeps_throw rfl) fun _ => keeps_pure _

theorem keeps_onContainer {α : Type} {method : Container.Method α}
    (quiet : Container.Quiet may method) :
    Keeps (Stays ok state containerState) Steady may (onContainer method) :=
  keeps_zoom (fun _ stays => stays.container)
    (fun _ _ stays after => ⟨stays.gateways, after, stays.machine⟩) (quiet state)

theorem keeps_sweepGateways {ρ : Type}
    {body : Act Sys Fault (AnyGateway × Container) (Option ρ)}
    (kept : Keeps (fun whole => (ok → whole.1.Valid) ∧ whole.2.state = state) Steady may
      body) :
    Keeps (Stays ok state containerState) Steady may (zoom gatewaysLens (sweep body)) := by
  have swept : Keeps (fun whole : List AnyGateway × Container =>
      (∀ gateway ∈ whole.1, ok → gateway.Valid) ∧ whole.2.state = state) Steady may
      (sweep body) :=
    @keeps_sweep _ _ _ _ _ (fun gateway : AnyGateway => ok → gateway.Valid)
      (fun container : Container => container.state = state) _ _ _ kept
  exact keeps_zoom
    (fun _ stays => ⟨fun gateway member fine => stays.gateways fine gateway member,
      stays.container⟩)
    (fun _ _ stays after =>
      ⟨fun fine gateway member => after.1 gateway member fine, after.2, stays.machine⟩)
    swept

theorem keeps_configureGateway {gwConfig : GatewayConfiguration}
    (fits : ok → ConfigFits gwConfig) :
    Keeps (fun whole => (ok → whole.1.Valid) ∧ whole.2.state = state) Steady
      (fun error => ok → Caught error)
      (configureGateway AnyGateway.gatewayClass gwConfig) := by
  refine (triple_get_bind fun whole holds => ?_).keeps
  cases named : gwConfig[AnyGateway.gatewayClass.id whole.1]? with
  | none => exact triple_pure fun after same => ⟨same ▸ holds, nofun⟩
  | some config =>
      have configured := AnyGateway.triple_setConfig holds.1
        (fun fine element member => fits fine _ config named element member) state
      refine triple_bind (configured.weaken
        (fun after same => ⟨congrArg Prod.fst same, same ▸ holds.2⟩)
          fun _ _ after => after) (fun succeeded => ?_) fun _ _ after => ⟨after.1, ?_⟩
      · exact triple_ite (fun _ => triple_pure fun _ after => ⟨after.1, nofun⟩)
          fun _ => triple_pure fun _ after => ⟨after.1, nofun⟩
      · intro error same
        cases same
        exact after.2 _ rfl

theorem keeps_activateGateway :
    Keeps (fun whole => (ok → whole.1.Valid) ∧ whole.2.state = state) Steady
      (fun error => ok → Caught error)
      (activateGateway AnyGateway.gatewayClass) := by
  refine keeps_get_bind fun whole _ => keeps_ite (fun _ => ?_) fun _ => keeps_pure _
  exact keeps_bind (AnyGateway.sound_activate ok state) fun _ =>
    keeps_ite (fun _ => keeps_pure _) fun _ => keeps_pure _

end

theorem idle_startGateways {ok : Prop} {gwConfig : GatewayConfiguration}
    (fits : ok → ConfigFits gwConfig) :
    Idle ok (startGateways AnyGateway.gatewayClass gwConfig) := by
  intro state containerState
  have valid : Keeps (Stays ok state containerState) Steady
      (fun error => ok → Caught error) (assertValidState : Method PUnit) :=
    keeps_assertValidState.weaken (fun _ steady => steady) fun _ caught _ => caught
  refine keeps_bind valid fun _ => keeps_get_bind fun self _ =>
    keeps_ite (fun _ => keeps_throw fun _ => rfl) fun _ => ?_
  have configured : Keeps (Stays ok state containerState) Steady
      (fun error => ok → Caught error)
      (configureGateways AnyGateway.gatewayClass gwConfig : Method Bool) := by
    refine keeps_bind valid fun _ => keeps_get_bind fun self _ => ?_
    cases unmatchedId AnyGateway.gatewayClass self.gateways gwConfig with
    | some id => exact keeps_throw fun _ => rfl
    | none =>
        dsimp only
        exact keeps_bind (keeps_sweepGateways (keeps_configureGateway fits))
          fun _ => keeps_pure _
  refine keeps_bind configured fun _ => keeps_ite (fun _ => keeps_pure _) fun _ => ?_
  refine keeps_bind (keeps_bind (keeps_sweepGateways keeps_activateGateway)
    fun _ => keeps_pure _) fun _ => keeps_ite (fun _ => keeps_pure _) fun _ => ?_
  exact keeps_bind (keeps_modify fun _ stays =>
    ⟨stays.gateways, stays.container, stays.machine⟩) fun _ => keeps_pure _

theorem idle_bindMount {ok : Prop} {pathOnHost pathInContainer : String} {readonly : Bool}
    (nonempty : ok → pathInContainer ≠ "") :
    Idle ok (bindMount pathOnHost pathInContainer readonly) := by
  intro state containerState
  refine keeps_bind ((keeps_assertReady _).weaken (fun _ steady => steady)
    fun _ caught _ => caught) fun _ => ?_
  exact (keeps_onContainer (Container.quiet_bindMountInContainer _ _ _)).weaken
    (fun _ steady => steady) fun _ may fine => caught_of_mountMay may (nonempty fine)

theorem idle_assertReady {ok : Prop} (message : String) : Idle ok (assertReady message) :=
  fun _ _ => (keeps_assertReady message).weaken (fun _ steady => steady)
    fun _ caught _ => caught

theorem keeps_shutdownGateway (state : Container.ContainerState) :
    Keeps (fun whole => (False → whole.1.Valid) ∧ whole.2.state = state) Steady
      (fun _ => False) shutdownGateway := by
  refine (triple_get_bind fun whole holds => triple_ite (fun activated => ?_)
    fun _ => triple_pure fun _ same => ⟨⟨nofun, same ▸ holds.2⟩, nofun⟩).keeps
  refine triple_bind ((AnyGateway.triple_teardown state).weaken
    (fun _ same => ⟨same ▸ activated, same ▸ holds.2⟩) fun _ _ after => after)
      (fun _ => triple_pure fun _ after => ⟨⟨nofun, after.1⟩, nofun⟩)
      fun error _ after => (after.2 error rfl).elim

theorem triple_shutdownGateways (state : Container.ContainerState)
    (containerState : ContainerState) :
    Triple (Stays False state containerState) Steady
      (fun result self => Stays True state containerState self ∧ result = .ok ⟨⟩)
      shutdownGateways := by
  have destroyed : Keeps (fun whole : AnyGateway × Container =>
      (False → whole.1.Valid) ∧ whole.2.state = state) Steady (fun _ => False)
      destroyGateway := by
    have kept : Keeps (fun whole : AnyGateway × Container =>
        (False → whole.1.Valid) ∧ whole.2.state = state) Steady (fun _ => False)
        AnyGateway.destructor :=
      fun oracle world holds =>
        let ⟨after, recorded, never⟩ :=
          AnyGateway.keeps_destructor state oracle world holds.2
        ⟨⟨nofun, after⟩, recorded, never⟩
    exact keeps_bind kept fun _ => keeps_pure _
  refine triple_bind_keeps (keeps_sweepGateways (keeps_shutdownGateway state)) fun _ => ?_
  refine triple_bind_keeps (keeps_sweepGateways destroyed) fun _ => ?_
  exact triple_modify fun _ stays => ⟨⟨by simp [ValidGateways], stays.container,
    stays.machine⟩, rfl⟩

end SoftwareContainer

end SoftwareContainers
