import SoftwareContainers.Library.Noted

namespace SoftwareContainers

open Effect Effect.Act Hook

/-! The shutdown of a container after any run. -/

namespace Tracked

def Faithful (self : Tracked) : Prop := self.gateway.Faithful self.activated

theorem sound_setConfig (config : Json) :
    Sound False AnyGateway.Valid Caught (AnyGateway.gatewayClass.setConfig config) := by
  intro state oracle world holds
  obtain ⟨⟨after, caught⟩, recorded⟩ := AnyGateway.triple_setConfig
    (fun impossible : False => impossible.elim) (fun impossible => impossible.elim) state
    oracle world ⟨rfl, holds.2⟩
  exact ⟨after, recorded, caught⟩

end Tracked

namespace TrackedContainer

open SoftwareContainer

def Faithful (self : TrackedContainer) : Prop := ∀ tracked ∈ self.gateways, tracked.Faithful

theorem keeps_sweepGateways {ρ : Type}
    {body : Act Sys Fault (Tracked × Container) (Option ρ)}
    (kept : Keeps (fun whole => whole.1.Faithful ∧ True) Steady (fun _ => True) body) :
    Keeps Faithful Steady (fun _ => True) (zoom gatewaysLens (sweep body)) := by
  have swept : Keeps (fun whole : List Tracked × Container =>
      (∀ tracked ∈ whole.1, tracked.Faithful) ∧ True) Steady (fun _ => True) (sweep body) :=
    @keeps_sweep _ _ _ _ _ Tracked.Faithful (fun _ : Container => True) _ _ _ kept
  exact keeps_zoom (fun _ faithful => ⟨faithful, trivial⟩) (fun _ _ _ after => after.1) swept

end TrackedContainer

namespace AnyGateway

end AnyGateway

namespace SoftwareContainer

open TrackedContainer

variable {oracle : Oracle Sys} {before : History Sys}

end SoftwareContainer

end SoftwareContainers
