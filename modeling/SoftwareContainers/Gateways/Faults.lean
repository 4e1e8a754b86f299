import SoftwareContainers.Container.Serving
import SoftwareContainers.Gateways.Cgroups
import SoftwareContainers.Network.Activation

namespace SoftwareContainers

/-! What is thrown while an element is read, and while an address is generated. -/

/-- If the computation throws, it is something that a container throws as well. -/
def ThrowsOfContainer {α : Type} (result : Except Fault α) : Prop :=
  ∀ error, result = .error error → error.OfContainer

section

variable {α β : Type}

theorem throws_pure (value : α) : ThrowsOfContainer (pure value) := nofun

theorem throws_throw {error : Fault} (ofContainer : error.OfContainer) :
    ThrowsOfContainer (throw error : Except Fault α) := by
  rintro _ ⟨⟩
  exact ofContainer

theorem throws_bind {result : Except Fault α} {next : α → Except Fault β}
    (first : ThrowsOfContainer result) (rest : ∀ value, ThrowsOfContainer (next value)) :
    ThrowsOfContainer (result >>= next) := by
  cases result with
  | error error =>
      rintro _ ⟨⟩
      exact first error rfl
  | ok value => exact rest value

theorem throws_ite {condition : Prop} [Decidable condition] {first second : Except Fault α}
    (isTrue : ThrowsOfContainer first) (isFalse : ThrowsOfContainer second) :
    ThrowsOfContainer (if condition then first else second) := by
  split
  · exact isTrue
  · exact isFalse

end

theorem throws_popBack (text : String) : ThrowsOfContainer (popBack text) :=
  throws_ite (throws_throw trivial) (throws_pure _)

theorem throws_stoInteger (lower upper : Int) (text : String) :
    ThrowsOfContainer (stoInteger lower upper text) := by
  unfold stoInteger
  split
  · exact throws_throw trivial
  · exact throws_ite (throws_pure _) (throws_throw trivial)

namespace CGroupsParser

theorem throws_convertToBytes (value : String) (multiply : Int) (errnoIsRange : Bool) :
    ThrowsOfContainer (convertToBytes value multiply errnoIsRange) :=
  throws_ite (throws_throw trivial) (throws_ite (throws_throw trivial)
    (throws_ite (throws_throw trivial) (throws_pure _)))

theorem throws_suffixCorrection (value : String) (errnoIsRange : Bool) :
    ThrowsOfContainer (suffixCorrection value errnoIsRange) := by
  unfold suffixCorrection
  split
  · exact throws_throw trivial
  · refine throws_bind (throws_popBack value) fun removeUnit =>
      throws_ite (throws_pure value) ?_
    split
    · exact throws_convertToBytes removeUnit _ errnoIsRange
    · exact throws_throw trivial

theorem throws_storeMemoryLimit (key value : String) (errnoIsRange : Bool)
    (settings : CgroupSettings) :
    ThrowsOfContainer (storeMemoryLimit key value errnoIsRange settings) := by
  refine throws_bind (throws_suffixCorrection value errnoIsRange) fun limit => ?_
  split
  · exact throws_pure _
  · exact throws_bind (throws_stoInteger _ _ _) fun _ =>
      throws_bind (throws_stoInteger _ _ _) fun _ => throws_ite (throws_pure _) (throws_pure _)

theorem throws_storeCpuShares (key value : String) (settings : CgroupSettings) :
    ThrowsOfContainer (storeCpuShares key value settings) := by
  unfold storeCpuShares
  split
  · exact throws_throw trivial
  · exact throws_throw trivial
  · refine throws_ite (throws_throw trivial) ?_
    split
    · exact throws_pure _
    · exact throws_bind (throws_stoInteger _ _ _) fun _ =>
        throws_ite (throws_pure _) (throws_pure _)

theorem throws_storeClassId (key value : String) (settings : CgroupSettings) :
    ThrowsOfContainer (storeClassId key value settings) :=
  throws_ite (throws_throw trivial) (throws_ite (throws_throw trivial) (throws_pure _))

theorem throws_parseCGroupsGatewayConfiguration (element : Json) (errnoIsRange : Bool)
    (settings : CgroupSettings) :
    ThrowsOfContainer (parseCGroupsGatewayConfiguration element errnoIsRange settings) := by
  unfold parseCGroupsGatewayConfiguration
  split
  · exact throws_throw trivial
  · split
    · exact throws_throw trivial
    · exact throws_ite (throws_storeMemoryLimit _ _ _ _) (throws_ite
        (throws_storeCpuShares _ _ _) (throws_ite (throws_storeClassId _ _ _) (throws_pure _)))

end CGroupsParser

namespace NetworkGatewayParser

theorem throws_rulePorts (element : Json) : ThrowsOfContainer (rulePorts element) := by
  unfold rulePorts
  split
  · exact throws_pure _
  · rename_i ports _
    refine throws_bind ?_ fun _ => throws_pure _
    unfold parsePort
    split
    · exact throws_pure _
    · exact throws_pure _
    · split
      · exact throws_pure _
      · exact throws_bind (throws_popBack _) fun _ => throws_pure _
    · exact throws_pure _

theorem throws_parseRule (element : Json) (rules : List IPTableEntry.Rule) :
    ThrowsOfContainer (parseRule element rules) := by
  unfold parseRule
  split
  · exact throws_pure _
  · exact throws_bind (throws_rulePorts element) fun _ => throws_pure _

theorem throws_parseRules (elements : List Json) (rules : List IPTableEntry.Rule) :
    ThrowsOfContainer (parseRules elements rules) := by
  induction elements generalizing rules with
  | nil => exact throws_pure _
  | cons element rest ih =>
      exact throws_ite (throws_bind (throws_parseRule element rules) fun parsed =>
        throws_ite (throws_pure _) (ih parsed.2)) (throws_pure _)

theorem throws_parseNetworkGatewayConfiguration (element : Json) (entry : IPTableEntry) :
    ThrowsOfContainer (parseNetworkGatewayConfiguration element entry) := by
  unfold parseNetworkGatewayConfiguration
  split
  · exact throws_pure _
  · dsimp only
    split
    · exact throws_pure _
    · split
      · exact throws_bind (throws_parseRules _ _) fun _ => throws_pure _
      · exact throws_pure _

end NetworkGatewayParser

theorem throws_generateIP (netmask : Nat) (gatewayIP : String) (containerID : Int) :
    ThrowsOfContainer (generateIP netmask gatewayIP containerID) := by
  intro error generated
  rcases NetworkGateway.generateIP_error generated with ⟨_, rfl⟩ | ⟨_, _, rfl⟩ <;> exact trivial

end SoftwareContainers
