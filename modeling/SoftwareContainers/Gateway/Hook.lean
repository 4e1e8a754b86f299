import SoftwareContainers.Container.Container
import SoftwareContainers.Gateway.Base

namespace SoftwareContainers

open Effect Effect.Act

/-! What the gateways of the library share: their hooks work on the gateway and on
the container it belongs to. -/

abbrev Hook (γ : Type) := Act Sys Fault (γ × Container)

namespace Hook

variable {γ α : Type}

def containerLens : Lens (γ × Container) Container where
  get := Prod.snd
  set container whole := (whole.1, container)
  get_set _ _ := rfl
  set_set _ _ _ := rfl

def onContainer (method : Container.Method α) : Hook γ α :=
  zoom containerLens method

def getGateway : Hook γ γ := do
  return (← get).1

def modifyGateway (change : γ → γ) : Hook γ PUnit :=
  modify fun whole => (change whole.1, whole.2)

def nothingToTearDown : Hook γ Bool := return true

end Hook

end SoftwareContainers
