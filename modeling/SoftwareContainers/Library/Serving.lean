import SoftwareContainers.Agent.Library
import SoftwareContainers.Gateways.Serving

namespace SoftwareContainers

open Effect Effect.Act

namespace SoftwareContainer

/-! What the operations of a `SoftwareContainer` ask of LXC that are no step of its life. -/

variable {α : Type} {part : NetworkGateway → Prop} {inv : Container → Prop}
  {allowed : Event Sys → Prop}

structure Holds (part : NetworkGateway → Prop) (inv : Container → Prop)
    (whole : LibraryContainer) : Prop where
  gateways : ∀ gateway ∈ whole.gateways, AnyGateway.Networks part gateway
  container : inv whole.container

theorem holds_of_container {self : LibraryContainer} (holds : inv self.container) :
    Holds (fun _ => True) inv self := by
  refine ⟨fun gateway _ => ?_, holds⟩
  cases gateway <;> trivial

abbrev Serving (part : NetworkGateway → Prop) (inv : Container → Prop)
    (allowed : Event Sys → Prop) (method : Method α) : Prop :=
  Keeps (Holds part inv) allowed Fault.OfContainer method

theorem serving_assertValidState : Serving part inv allowed assertValidState :=
  keeps_get_bind fun _ _ => keeps_ite (fun _ => keeps_throw trivial) fun _ => keeps_pure _

theorem serving_assertReady (message : String) :
    Serving part inv allowed (assertReady message) :=
  keeps_bind serving_assertValidState fun _ => keeps_get_bind fun _ _ =>
    keeps_ite (fun _ => keeps_throw trivial) fun _ => keeps_pure _

theorem serving_onContainer {method : Container.Method α}
    (serving : Container.Serving inv allowed method) :
    Serving part inv allowed (onContainer method) :=
  keeps_zoom (fun _ holds => holds.container) (fun _ _ holds after => ⟨holds.gateways, after⟩)
    serving

theorem serving_sweepGateways {ρ : Type} {body : Hook AnyGateway (Option ρ)}
    (serving : Hook.ServingAs (AnyGateway.Networks part) inv allowed body) :
    Serving part inv allowed (zoom gatewaysLens (sweep body)) := by
  have each : Keeps (fun whole => AnyGateway.Networks part whole.1 ∧ inv whole.2) allowed
      Fault.OfContainer body := fun oracle world holds =>
    let ⟨after, recorded⟩ := serving oracle world ⟨holds.1, holds.2⟩
    ⟨⟨after.gateway, after.container⟩, recorded⟩
  exact keeps_zoom (fun _ holds => ⟨holds.gateways, holds.container⟩)
    (fun _ _ _ after => ⟨after.1, after.2⟩) (keeps_sweep each)

section

variable (serves : Container.Serves inv allowed)

include serves

theorem serving_startGateways (network : NetworkGateway.hooks.Serve part inv allowed)
    (usable : Container.Usable inv allowed) (gwConfig : GatewayConfiguration) :
    Serving part inv allowed (startGateways AnyGateway.gatewayClass gwConfig) := by
  have gateways := AnyGateway.serve serves network
  have configured : Serving part inv allowed
      (configureGateways AnyGateway.gatewayClass gwConfig) := by
    refine keeps_bind serving_assertValidState fun _ => keeps_get_bind fun self _ => ?_
    cases unmatchedId AnyGateway.gatewayClass self.gateways gwConfig with
    | some id => exact keeps_throw trivial
    | none =>
        refine keeps_bind (serving_sweepGateways ?_) fun _ => keeps_pure _
        refine keeps_get_bind fun whole _ => ?_
        cases gwConfig[AnyGateway.gatewayClass.id whole.1]? with
        | none => exact keeps_pure _
        | some config =>
            exact keeps_bind (gateways.setConfig config) fun _ =>
              keeps_ite (fun _ => keeps_pure _) fun _ => keeps_pure _
  have activated : Serving part inv allowed (activateGateways AnyGateway.gatewayClass) := by
    refine keeps_bind (serving_sweepGateways ?_) fun _ => keeps_pure _
    exact keeps_get_bind fun _ _ => keeps_ite (fun _ => keeps_bind (gateways.activate usable)
      fun _ => keeps_ite (fun _ => keeps_pure _) fun _ => keeps_pure _) fun _ => keeps_pure _
  refine keeps_bind serving_assertValidState fun _ => keeps_get_bind fun _ _ =>
    keeps_ite (fun _ => keeps_throw trivial) fun _ => ?_
  refine keeps_bind configured fun _ => keeps_ite (fun _ => keeps_pure _) fun _ => ?_
  refine keeps_bind activated fun _ => keeps_ite (fun _ => keeps_pure _) fun _ => ?_
  exact keeps_bind (keeps_modify fun _ holds => ⟨holds.gateways, holds.container⟩)
    fun _ => keeps_pure _

theorem serving_bindMount (pathOnHost pathInContainer : String) (readonly : Bool) :
    Serving part inv allowed (bindMount pathOnHost pathInContainer readonly) :=
  keeps_bind (serving_assertReady _) fun _ =>
    serving_onContainer (Container.serving_bindMountInContainer serves _ _ _)

theorem serving_startJob (shellParseArgv : String → Option (List String)) (job : CommandJob) :
    Serving part inv allowed (startJob shellParseArgv job) :=
  serving_onContainer (Container.serving_executeCommand serves _ _ _ _ _ _ _ _)

theorem serving_destroyGateways :
    Serving part inv allowed (zoom gatewaysLens (sweep destroyGateway)) :=
  serving_sweepGateways (keeps_bind (AnyGateway.serving_destructor serves) fun _ => keeps_pure _)

theorem serving_shutdownGateways (network : NetworkGateway.hooks.Serve part inv allowed) :
    Serving part inv allowed shutdownGateways := by
  have shut : Serving part inv allowed (zoom gatewaysLens (sweep shutdownGateway)) :=
    serving_sweepGateways (keeps_get_bind fun _ _ => keeps_ite
      (fun _ => keeps_bind (AnyGateway.serve serves network).teardown fun _ => keeps_pure _)
      fun _ => keeps_pure _)
  exact keeps_bind shut fun _ => keeps_bind (serving_destroyGateways serves) fun _ =>
    keeps_modify fun _ holds => ⟨fun _ member => absurd member List.not_mem_nil, holds.container⟩

end

theorem startGateways_throws {gwConfig : GatewayConfiguration} {oracle : Oracle Sys}
    {world : World Sys LibraryContainer} {error : Fault}
    (failed : ((startGateways AnyGateway.gatewayClass gwConfig).run oracle world).1 =
      .error error) : error.OfContainer := by
  have serves : Container.Serves (fun _ => True) (fun _ => True) :=
    ⟨fun _ _ _ => trivial, fun _ _ _ _ _ _ => trivial, fun _ _ _ => trivial, fun _ _ _ => trivial⟩
  have network : NetworkGateway.hooks.Serve (fun _ => True) (fun _ => True) (fun _ => True) :=
    @NetworkGateway.serve _ _ serves (fun _ => True) fun _ _ _ _ _ => trivial
  exact (serving_startGateways serves network (fun _ _ _ _ _ => trivial) gwConfig oracle world
    (holds_of_container trivial)).2.2 error failed

/-! What is done before there is a container. -/

section

variable {σ : Type} (system : AllowsSystem allowed)

abbrev Preparing (allowed : Event Sys → Prop) (method : Act Sys Fault σ α) : Prop :=
  Keeps (fun _ => True) allowed (fun _ => True) method

include system

theorem preparing_checkContainerRoot (containerRoot : String) :
    Preparing allowed (checkContainerRoot containerRoot : Act Sys Fault σ PUnit) := by
  refine keeps_bind (system.keeps rfl) fun _ => keeps_ite (fun _ => ?_) fun _ =>
    keeps_bind (system.keeps rfl) fun _ => keeps_pure _
  exact keeps_bind (system.keeps rfl) fun _ => keeps_ite (fun _ => keeps_throw trivial)
    fun _ => keeps_bind (system.keeps rfl) fun _ => keeps_pure _

theorem preparing_mountContainerRoot (config : SoftwareContainerConfig)
    (containerRoot : String) :
    Preparing allowed (mountContainerRoot config containerRoot : Act Sys Fault σ PUnit) :=
  keeps_ite (fun _ => keeps_bind (keeps_runOn trivial
    (Toolkit.bare_tmpfsMount system _ _).anyError) fun _ => keeps_pure _) fun _ => keeps_pure _

theorem preparing_checkNetworkSettings (config : SoftwareContainerConfig) :
    Preparing allowed (checkNetworkSettings config : Act Sys Fault σ PUnit) := by
  refine keeps_bind (system.keeps rfl) fun outcome => ?_
  exact match outcome with
    | .spawned _ => keeps_ite (fun _ => keeps_throw trivial) fun _ => keeps_pure _
    | .spawnError => keeps_throw trivial
    | .shellError => keeps_throw trivial

end

end SoftwareContainer

end SoftwareContainers
