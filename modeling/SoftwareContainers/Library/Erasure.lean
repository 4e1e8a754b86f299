import SoftwareContainers.Effect.Erasure
import SoftwareContainers.Library.Startup

namespace SoftwareContainers

open Effect Effect.Act

variable {I : Interface} {γ γ' κ κ' ι ρ : Type}

def withoutLog : Lens (γ × (κ × List ι)) (γ × κ) where
  get whole := (whole.1, whole.2.1)
  set part whole := (part.1, (part.2, whole.2.2))
  get_set _ _ := rfl
  set_set _ _ _ := rfl

/-! A `SoftwareContainer` does the same on gateways that keep something beside what they
are. -/

/-- Every method of the second class does what that of the first does, on what is left after
erasing. -/
structure ErasesGateways (erase : γ' → γ) (eraseOther : κ' → κ)
    (ghosted : GatewayClass I γ' κ') (cls : GatewayClass I γ κ) : Prop where
  id : ∀ gateway, cls.id (erase gateway) = ghosted.id gateway
  setConfig : ∀ config,
    Erases (Prod.map erase eraseOther) (ghosted.setConfig config) (cls.setConfig config)
  activate : Erases (Prod.map erase eraseOther) ghosted.activate cls.activate
  teardown : Erases (Prod.map erase eraseOther) ghosted.teardown cls.teardown
  isConfigured : ∀ gateway, cls.isConfigured (erase gateway) = ghosted.isConfigured gateway
  isActivated : ∀ gateway, cls.isActivated (erase gateway) = ghosted.isActivated gateway

namespace SoftwareContainer

def map (change : γ' → γ) (changeOther : κ' → κ) (self : SoftwareContainer γ' κ') :
    SoftwareContainer γ κ where
  containerID := self.containerID
  containerState := self.containerState
  container := changeOther self.container
  gateways := self.gateways.map change
  config := self.config
  previouslyConfigured := self.previouslyConfigured

variable {erase : γ' → γ} {eraseOther : κ' → κ}

theorem erases_assertValidState :
    Erases (map erase eraseOther) (assertValidState : Act I Fault (SoftwareContainer γ' κ') _)
      (assertValidState : Act I Fault (SoftwareContainer γ κ) _) :=
  erases_get_bind fun _ => erases_ite (erases_throw _) (erases_pure _)

theorem erases_sweepGateways {ghosted : Act I Fault (γ' × κ') (Option ρ)}
    {body : Act I Fault (γ × κ) (Option ρ)}
    (erases : Erases (Prod.map erase eraseOther) ghosted body) :
    Erases (map erase eraseOther) (zoom gatewaysLens (sweep ghosted))
      (zoom gatewaysLens (sweep body)) :=
  erases_zoom (fun _ => rfl) (fun _ _ => rfl) (erases_sweep erases)

section

variable {ghosted : GatewayClass I γ' κ'} {cls : GatewayClass I γ κ}
  (erases : ErasesGateways erase eraseOther ghosted cls)

include erases

theorem erases_configureGateway (gwConfig : GatewayConfiguration) :
    Erases (Prod.map erase eraseOther) (configureGateway ghosted gwConfig)
      (configureGateway cls gwConfig) := by
  refine erases_get_bind fun whole => ?_
  have sameId : cls.id (Prod.map erase eraseOther whole).1 = ghosted.id whole.1 :=
    erases.id whole.1
  rw [sameId]
  cases gwConfig[ghosted.id whole.1]? with
  | none => exact erases_pure _
  | some config =>
      exact erases_bind (erases.setConfig config) fun _ =>
        erases_ite (erases_pure _) (erases_pure _)

theorem erases_activateGateway :
    Erases (Prod.map erase eraseOther) (activateGateway ghosted) (activateGateway cls) := by
  refine erases_get_bind fun whole => ?_
  have same : cls.isConfigured (Prod.map erase eraseOther whole).1 =
      ghosted.isConfigured whole.1 := erases.isConfigured whole.1
  rw [same]
  exact erases_ite (erases_bind erases.activate fun _ =>
    erases_ite (erases_pure _) (erases_pure _)) (erases_pure _)

theorem unmatchedId_erase (gateways : List γ') (gwConfig : GatewayConfiguration) :
    unmatchedId cls (gateways.map erase) gwConfig = unmatchedId ghosted gateways gwConfig := by
  simp only [unmatchedId, List.any_map, Function.comp_def, erases.id]

theorem erases_configureGateways (gwConfig : GatewayConfiguration) :
    Erases (map erase eraseOther) (configureGateways ghosted gwConfig)
      (configureGateways cls gwConfig) := by
  refine erases_bind erases_assertValidState fun _ => erases_get_bind fun self => ?_
  have same : unmatchedId cls (map erase eraseOther self).gateways gwConfig =
      unmatchedId ghosted self.gateways gwConfig :=
    unmatchedId_erase erases self.gateways gwConfig
  rw [same]
  cases unmatchedId ghosted self.gateways gwConfig with
  | some id => exact erases_throw _
  | none =>
      exact erases_bind (erases_sweepGateways (erases_configureGateway erases gwConfig))
        fun _ => erases_pure _

theorem erases_startGateways (gwConfig : GatewayConfiguration) :
    Erases (map erase eraseOther) (startGateways ghosted gwConfig)
      (startGateways cls gwConfig) := by
  refine erases_bind erases_assertValidState fun _ => erases_get_bind fun self =>
    erases_ite (erases_throw _) ?_
  refine erases_bind (erases_configureGateways erases gwConfig) fun _ =>
    erases_ite (erases_pure _) ?_
  refine erases_bind (erases_bind (erases_sweepGateways (erases_activateGateway erases))
    fun _ => erases_pure _) fun _ => erases_ite (erases_pure _) ?_
  exact erases_bind (erases_modify fun _ => rfl) fun _ => erases_pure _

end

end SoftwareContainer

end SoftwareContainers
