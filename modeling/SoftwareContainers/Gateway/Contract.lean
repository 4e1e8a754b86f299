import SoftwareContainers.Container.Steady
import SoftwareContainers.Effect.Triple
import SoftwareContainers.Gateway.Hook

namespace SoftwareContainers

open Effect Effect.Act

/-! What a gateway may do to its container and may throw.  The promises that need
more than any container does are made under a condition `ok`, so that one contract
serves runs with and without it. -/

def Caught (error : Fault) : Prop := error.isSoftwareContainerError = true

namespace Hook

variable {γ α β : Type} {ok : Prop} {inv : γ → Prop} {may : Fault → Prop}

/-- The state of the container stays what it is, and so does the invariant of the
gateway. -/
def Sound (ok : Prop) (inv : γ → Prop) (may : Fault → Prop) (method : Hook γ α) : Prop :=
  ∀ state, Keeps (fun whole => (ok → inv whole.1) ∧ whole.2.state = state) Steady
    (fun error => ok → may error) method

theorem sound_pure (value : α) : Sound ok inv may (pure value : Hook γ α) :=
  fun _ => keeps_pure value

theorem sound_throw {error : Fault} (permitted : ok → may error) :
    Sound ok inv may (throw error : Hook γ α) :=
  fun _ => keeps_throw permitted

theorem sound_bind {method : Hook γ α} {next : α → Hook γ β}
    (first : Sound ok inv may method) (rest : ∀ value, Sound ok inv may (next value)) :
    Sound ok inv may (method >>= next) :=
  fun state => keeps_bind (first state) fun value => rest value state

theorem sound_ite {condition : Prop} [Decidable condition] {first second : Hook γ α}
    (whenTrue : Sound ok inv may first) (whenFalse : Sound ok inv may second) :
    Sound ok inv may (if condition then first else second) :=
  fun state => keeps_ite (fun _ => whenTrue state) fun _ => whenFalse state

theorem sound_getGateway_bind {next : γ → Hook γ β}
    (rest : ∀ self, (ok → inv self) → Sound ok inv may (next self)) :
    Sound ok inv may (getGateway >>= next) :=
  fun state oracle world holds =>
    rest world.state.1 holds.1 state oracle world holds

theorem sound_modifyGateway {change : γ → γ}
    (kept : ok → ∀ self, inv self → inv (change self)) :
    Sound ok inv may (modifyGateway change) :=
  fun _ => keeps_modify fun whole holds =>
    ⟨fun fine => kept fine whole.1 (holds.1 fine), holds.2⟩

theorem sound_sys {call : SysCall} (steady : call.isLifecycle = false) :
    Sound ok inv may (sys call : Hook γ call.Answer) :=
  fun _ => steady_sys steady

theorem sound_onContainer {thrown : Fault → Prop} {method : Container.Method α}
    (quiet : Container.Quiet thrown method) (permitted : ∀ error, thrown error → ok → may error) :
    Sound ok inv may (onContainer method) :=
  fun state => (keeps_zoom (fun _ holds => holds.2) (fun _ _ holds after => ⟨holds.1, after⟩)
    (quiet state)).weaken (fun _ steady => steady) permitted

theorem sound_onContainer_quiet {method : Container.Method α}
    (quiet : Container.Quiet (fun _ => False) method) :
    Sound ok inv may (onContainer method) :=
  sound_onContainer quiet fun _ never => never.elim

theorem Sound.weaken {thrown : Fault → Prop} {method : Hook γ α}
    (sound : Sound ok inv thrown method) (permitted : ∀ error, thrown error → may error) :
    Sound ok inv may method :=
  fun state => (sound state).weaken (fun _ steady => steady)
    fun error holds fine => permitted error (holds fine)

end Hook

open Hook

variable {γ : Type}

/-- The contract of a class: its methods keep the invariant where the elements they
are given fit, and a teardown of what is activated throws nothing. -/
structure GatewayClass.Sound (cls : GatewayClass Sys γ Container) (inv : γ → Prop)
    (fits : Json → Prop) : Prop where
  setConfig : ∀ (ok : Prop) config, (ok → ∀ element ∈ config.elements, fits element) →
    Hook.Sound ok inv Caught (cls.setConfig config)
  activate : ∀ ok, Hook.Sound ok inv Caught cls.activate
  teardown : ∀ state, Triple
    (fun whole => cls.isActivated whole.1 = true ∧ whole.2.state = state) Steady
    (fun result whole => whole.2.state = state ∧ ∀ error, result ≠ .error error)
    cls.teardown

namespace GatewayHooks

/-- The contract of the hooks a class implements; `thrown` is what reading an element
may throw besides. -/
structure Sound (hooks : GatewayHooks Sys γ Container) (inv : γ → Prop)
    (thrown : Fault → Prop) (fits : Json → Prop) : Prop where
  state : ∀ state gateway, inv gateway →
    inv (hooks.base.set { hooks.base.get gateway with state } gateway)
  readConfigElement : ∀ (ok : Prop) element, (ok → fits element) →
    Hook.Sound ok inv (fun error => Caught error ∨ thrown error)
      (hooks.readConfigElement element)
  activateGateway : ∀ ok, Hook.Sound ok inv Caught hooks.activateGateway
  teardownGateway : ∀ state, Keeps (fun whole => whole.2.state = state) Steady
    (fun _ => False) hooks.teardownGateway

variable {hooks : GatewayHooks Sys γ Container} {inv : γ → Prop} {thrown : Fault → Prop}
  {fits : Json → Prop}

theorem Sound.setState (sound : hooks.Sound inv thrown fits) (ok : Prop)
    {may : Fault → Prop} (state : GatewayState) :
    Hook.Sound ok inv may (hooks.setState state) :=
  fun _ => keeps_modify fun whole holds =>
    ⟨fun fine => sound.state state whole.1 (holds.1 fine), holds.2⟩

theorem sound_getBase_bind {ok : Prop} {may : Fault → Prop} {α : Type}
    {next : GatewayBase → Hook γ α} (rest : ∀ base, Hook.Sound ok inv may (next base)) :
    Hook.Sound ok inv may (hooks.getBase >>= next) :=
  fun state oracle world holds =>
    rest (hooks.base.get world.state.1) state oracle world holds

theorem sound_readConfigElements {ok : Prop} {may : Fault → Prop} {elements : List Json}
    (read : ∀ element ∈ elements, Hook.Sound ok inv may (hooks.readConfigElement element)) :
    Hook.Sound ok inv may (hooks.readConfigElements elements) := by
  induction elements with
  | nil => exact sound_pure true
  | cons element rest ih =>
      refine sound_ite (sound_pure _) ?_
      refine sound_bind (read element List.mem_cons_self) fun succeeded => ?_
      exact sound_ite (sound_pure _)
        (ih fun other member => read other (List.mem_cons_of_mem _ member))

theorem sound_setConfig {ok : Prop} {may : Fault → Prop} {config : Json}
    (caught : ∀ error, Caught error → may error)
    (configured : ∀ gateway, inv gateway →
      inv (hooks.base.set { hooks.base.get gateway with state := .configured } gateway))
    (read : ∀ element ∈ config.elements,
      Hook.Sound ok inv may (hooks.readConfigElement element)) :
    Hook.Sound ok inv may (hooks.setConfig config) := by
  refine sound_getBase_bind fun base =>
    sound_ite (sound_throw fun _ => caught _ rfl) ?_
  match config, read with
  | .array [], _ => exact sound_pure _
  | .array (element :: rest), read =>
      refine sound_bind (sound_readConfigElements read) fun succeeded =>
        sound_ite (sound_pure _) ?_
      have moved : Hook.Sound ok inv may (hooks.setState .configured) :=
        fun _ => keeps_modify fun whole holds =>
          ⟨fun fine => configured whole.1 (holds.1 fine), holds.2⟩
      exact sound_bind moved fun _ => sound_pure _
  | .null, _ | .boolean _, _ | .integer _, _ | .real _, _ | .string _, _
  | .object _, _ => exact sound_pure _

theorem Sound.setConfig (sound : hooks.Sound inv thrown fits) {ok : Prop} {config : Json}
    (allFit : ok → ∀ element ∈ config.elements, fits element) :
    Hook.Sound ok inv (fun error => Caught error ∨ thrown error)
      (hooks.setConfig config) :=
  sound_setConfig (fun _ => .inl) (sound.state .configured) fun element member =>
    sound.readConfigElement ok element fun fine => allFit fine element member

theorem Sound.activate (sound : hooks.Sound inv thrown fits) (ok : Prop) :
    Hook.Sound ok inv Caught hooks.activate := by
  refine sound_getBase_bind fun base => sound_ite (sound_throw fun _ => rfl) ?_
  refine sound_ite (sound_throw fun _ => rfl) ?_
  refine sound_bind (sound.activateGateway ok) fun activated => sound_ite (sound_pure _) ?_
  exact sound_bind (sound.setState ok .activated) fun _ => sound_pure _

theorem not_teardown_guard {base : GatewayBase} (activated : base.isActivated = true) :
    ¬ (base.state ≠ .activated ∧ base.activatedOnce = false) := by
  rintro ⟨notActivated, notOnce⟩
  rw [GatewayBase.isActivated, notOnce] at activated
  cases dynamic : base.isDynamic
  · rw [dynamic] at activated
    cases state : base.state
    · simp [state, GatewayState.value] at activated
    · simp [state, GatewayState.value] at activated
    · exact notActivated state
  · simp [dynamic] at activated

theorem Sound.teardown (sound : hooks.Sound inv thrown fits)
    (state : Container.ContainerState) :
    Triple (fun whole => (hooks.base.get whole.1).isActivated = true ∧ whole.2.state = state)
      Steady (fun result whole => whole.2.state = state ∧ ∀ error, result ≠ .error error)
      hooks.teardown := by
  have body : Keeps (fun whole : γ × Container => whole.2.state = state) Steady
      (fun _ => False) (do
        if !(← hooks.teardownGateway) then
          return false
        else
          modify fun whole => (hooks.base.set { hooks.base.get whole.1 with
            state := .created, activatedOnce := false } whole.1, whole.2)
          return true : Hook γ Bool) := by
    refine keeps_bind (sound.teardownGateway state) fun torn =>
      keeps_ite (fun _ => keeps_pure _) fun _ => ?_
    exact keeps_bind (keeps_modify fun _ same => same) fun _ => keeps_pure _
  intro oracle world ⟨activated, same⟩
  rw [GatewayHooks.teardown, getBase]
  simp only [run_bind, run_get, run_pure]
  rw [if_neg (not_teardown_guard activated)]
  exact body.triple oracle world same

theorem Sound.toGatewayClass (sound : hooks.Sound inv (fun _ => False) fits) :
    hooks.toGatewayClass.Sound inv fits where
  setConfig ok config allFit := (sound.setConfig allFit).weaken fun _ => by simp
  activate := sound.activate
  teardown := sound.teardown

end GatewayHooks

end SoftwareContainers
