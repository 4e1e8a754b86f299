import Mathlib.Data.Nat.Bitwise
import SoftwareContainers.Network.Gateway

namespace SoftwareContainers

/-! Addresses of a subnet, in host byte order, and their two byte orders. -/

namespace Subnet

def size (netmask : Nat) : Nat := 2 ^ (32 - netmask)

theorem size_pos (netmask : Nat) : 0 < size netmask := Nat.two_pow_pos _

/-- The two addresses have the same first bits. -/
def Same (netmask first second : Nat) : Prop := first / size netmask = second / size netmask

def highest (netmask address : Nat) : Nat :=
  size netmask * (address / size netmask) + (size netmask - 1)

theorem le_highest (netmask address : Nat) : address ≤ highest netmask address := by
  have parts := Nat.div_add_mod address (size netmask)
  have small := Nat.mod_lt address (size_pos netmask)
  unfold highest
  omega

theorem highest_eq_of_same {netmask first second : Nat} (same : Same netmask first second) :
    highest netmask first = highest netmask second := by
  rw [highest, same]
  rfl

theorem same_of_between {netmask address other : Nat} (above : address ≤ other)
    (below : other ≤ highest netmask address) : Same netmask address other := by
  have positive := size_pos netmask
  apply Nat.le_antisymm (Nat.div_le_div_right above)
  apply Nat.lt_succ_iff.mp
  rw [Nat.div_lt_iff_lt_mul positive, Nat.succ_mul, Nat.mul_comm]
  unfold highest at below
  omega

theorem or_low_bits {bits rest : Nat} (small : rest < 2 ^ bits) :
    rest ||| (2 ^ bits - 1) = 2 ^ bits - 1 := by
  apply Nat.eq_of_testBit_eq
  intro index
  rw [Nat.testBit_or, Nat.testBit_two_pow_sub_one]
  by_cases low : index < bits
  · rw [decide_eq_true low, Bool.or_true]
  · have high : rest < 2 ^ index :=
      Nat.lt_of_lt_of_le small (Nat.pow_le_pow_right (by decide) (Nat.not_lt.mp low))
    rw [Nat.testBit_lt_two_pow high, Bool.false_or]

theorem or_mask_eq_highest (netmask address : Nat) :
    address ||| (size netmask - 1) = highest netmask address := by
  have positive := size_pos netmask
  have joined {rest : Nat} (small : rest < size netmask) :
      size netmask * (address / size netmask) + rest =
        size netmask * (address / size netmask) ||| rest :=
    Nat.two_pow_add_eq_or_of_lt small _
  have small := Nat.mod_lt address positive
  have masked : address % size netmask ||| (size netmask - 1) = size netmask - 1 :=
    or_low_bits small
  calc address ||| (size netmask - 1)
      = (size netmask * (address / size netmask) ||| address % size netmask) |||
          (size netmask - 1) := by rw [← joined small, Nat.div_add_mod]
    _ = size netmask * (address / size netmask) ||| (size netmask - 1) := by
        rw [Nat.or_assoc, masked]
    _ = highest netmask address := (joined (Nat.sub_lt positive Nat.one_pos)).symm

theorem highest_lt {netmask address : Nat} (small : address < 2 ^ 32) :
    highest netmask address < 2 ^ 32 := by
  rw [← or_mask_eq_highest]
  refine Nat.or_lt_two_pow small (Nat.lt_of_lt_of_le (Nat.sub_lt (size_pos _) Nat.one_pos) ?_)
  exact Nat.pow_le_pow_right (by decide) (Nat.sub_le 32 netmask)

end Subnet

/-- `htonl` and `ntohl` of a machine that stores the low byte first. -/
def htonl (address : BitVec 32) : BitVec 32 :=
  address.extractLsb' 0 8 ++ address.extractLsb' 8 8 ++ address.extractLsb' 16 8 ++
    address.extractLsb' 24 8

def swapped (index : Nat) : Nat := 8 * (3 - index / 8) + index % 8

theorem getLsbD_htonl (address : BitVec 32) {index : Nat} (inside : index < 32) :
    (htonl address).getLsbD index = address.getLsbD (swapped index) := by
  simp only [htonl, BitVec.getLsbD_append, BitVec.getLsbD_extractLsb', swapped]
  by_cases first : index < 8
  · rw [if_pos first, decide_eq_true first, Bool.true_and]
    congr 1
    omega
  · rw [if_neg first]
    by_cases second : index - 8 < 8
    · rw [if_pos second, decide_eq_true second, Bool.true_and]
      congr 1
      omega
    · rw [if_neg second]
      by_cases third : index - 8 - 8 < 8
      · rw [if_pos third, decide_eq_true third, Bool.true_and]
        congr 1
        omega
      · rw [if_neg third, decide_eq_true (by omega), Bool.true_and]
        congr 1
        omega

theorem swapped_lt {index : Nat} (inside : index < 32) : swapped index < 32 := by
  unfold swapped
  omega

theorem swapped_swapped {index : Nat} (inside : index < 32) : swapped (swapped index) = index := by
  unfold swapped
  omega

@[simp] theorem htonl_htonl (address : BitVec 32) : htonl (htonl address) = address := by
  apply BitVec.eq_of_getLsbD_eq
  intro index inside
  rw [getLsbD_htonl _ inside, getLsbD_htonl _ (swapped_lt inside), swapped_swapped inside]

theorem htonl_injective {first second : BitVec 32} (same : htonl first = htonl second) :
    first = second := by
  rw [← htonl_htonl first, same, htonl_htonl]

/-! `generateIP`. -/

theorem parseOctet_le {part : List Char} {octet : Nat} (parsed : parseOctet part = some octet) :
    octet ≤ 255 := by
  rw [parseOctet] at parsed
  split at parsed
  · rename_i valid
    cases parsed
    exact valid.2.2.1
  · cases parsed

theorem forall_of_mapM {α β : Type} {f : α → Option β} {holds : β → Prop}
    (each : ∀ item value, f item = some value → holds value) {items : List α} {values : List β}
    (mapped : items.mapM f = some values) : ∀ value ∈ values, holds value := by
  induction items generalizing values with
  | nil =>
      cases mapped
      exact fun _ member => nomatch member
  | cons item rest ih =>
      rw [List.mapM_cons, Option.bind_eq_bind, Option.bind_eq_some_iff] at mapped
      obtain ⟨first, isFirst, mapped⟩ := mapped
      rw [Option.bind_eq_bind, Option.bind_eq_some_iff] at mapped
      obtain ⟨others, areOthers, mapped⟩ := mapped
      cases mapped
      exact List.forall_mem_cons.mpr ⟨each item first isFirst, ih areOthers⟩

theorem inetPton_lt {text : String} {address : Nat} (valid : inetPton text = some address) :
    address < 2 ^ 32 := by
  rw [inetPton, Option.bind_eq_bind, Option.bind_eq_some_iff] at valid
  obtain ⟨octets, parsed, valid⟩ := valid
  have each : ∀ octet ∈ octets, octet ≤ 255 :=
    forall_of_mapM (fun _ _ isOctet => parseOctet_le isOctet) parsed
  split at valid
  · rename_i a b c d
    cases valid
    have first := each a (by simp)
    have second := each b (by simp)
    have third := each c (by simp)
    have fourth := each d (by simp)
    omega
  · cases valid

/-- What `generateIP` returns, in network byte order. -/
def generatedAddress (netmask : Nat) (gatewayIP : String) (containerID : Nat) :
    Except Fault (BitVec 32) :=
  (generateIP netmask gatewayIP containerID).map fun address =>
    htonl (BitVec.ofNat 32 address)

def Throws {α : Type} (result : Except Fault α) : Prop :=
  ∃ message, result = .error (.ipAllocationError message)

/-- There is no room above the gateway, or a container gets its own address there. -/
structure Allocates (netmask : Nat) (gatewayIP : String) (gateway containerID : Nat) : Prop where
  throws : Throws (generatedAddress netmask gatewayIP containerID) ↔
    netmask < 1 ∨ 31 < netmask ∨ Subnet.highest netmask gateway < gateway + containerID + 1
  returns : ¬ Throws (generatedAddress netmask gatewayIP containerID) →
    generatedAddress netmask gatewayIP containerID =
        .ok (htonl (BitVec.ofNat 32 (gateway + containerID + 1))) ∧
      gateway + containerID + 1 < 2 ^ 32 ∧
      Subnet.Same netmask gateway (gateway + containerID + 1)
  distinct : ∀ other address, other + 1 < 2 ^ 31 →
    generatedAddress netmask gatewayIP containerID = .ok address →
      generatedAddress netmask gatewayIP other = .ok address → containerID = other

section

variable {netmask gateway containerID : Nat} {gatewayIP : String}

theorem generatedAddress_of_large (large : 31 < netmask) :
    generatedAddress netmask gatewayIP containerID = .error .undefined := by
  rw [generatedAddress, generateIP, if_pos large]
  rfl

theorem throws_of_zero : Throws (generatedAddress 0 gatewayIP containerID) :=
  ⟨_, rfl⟩

theorem generatedAddress_eq (valid : inetPton gatewayIP = some gateway) (atLeast : 1 ≤ netmask)
    (atMost : netmask ≤ 31) :
    generatedAddress netmask gatewayIP containerID =
      if Subnet.highest netmask gateway < (gateway + containerID + 1) % 2 ^ 32 then
        .error (.ipAllocationError "There is no suitable IP address for this container.")
      else .ok (htonl (BitVec.ofNat 32 (gateway + containerID + 1))) := by
  have generated : ((gateway + (containerID : Int) + 1) % 2 ^ 32).toNat =
      (gateway + containerID + 1) % 2 ^ 32 := by
    omega
  rw [generatedAddress, generateIP, if_neg (Nat.not_lt.mpr atMost),
    if_neg (Nat.not_lt.mpr atLeast), valid]
  dsimp only
  rw [generated, show 2 ^ (32 - netmask) - 1 = Subnet.size netmask - 1 from rfl,
    Subnet.or_mask_eq_highest]
  split
  · rfl
  · change Except.ok (htonl (BitVec.ofNat 32 ((gateway + containerID + 1) % 2 ^ 32))) = _
    congr 2
    apply BitVec.eq_of_toNat_eq
    rw [BitVec.toNat_ofNat, BitVec.toNat_ofNat, Nat.mod_mod]

theorem distinct_of_valid (valid : inetPton gatewayIP = some gateway) (atLeast : 1 ≤ netmask)
    (atMost : netmask ≤ 31) {other : Nat} {address : BitVec 32}
    (small : containerID + 1 < 2 ^ 31) (otherSmall : other + 1 < 2 ^ 31)
    (first : generatedAddress netmask gatewayIP containerID = .ok address)
    (second : generatedAddress netmask gatewayIP other = .ok address) : containerID = other := by
  rw [generatedAddress_eq valid atLeast atMost] at first second
  split at first
  · cases first
  · split at second
    · cases second
    · have same := htonl_injective (Except.ok.inj (first.trans second.symm))
      have values := congrArg BitVec.toNat same
      rw [BitVec.toNat_ofNat, BitVec.toNat_ofNat] at values
      omega

/-- Without wrapping around, and for a netmask that fits the check. -/
theorem generateIP_allocates_iff (valid : inetPton gatewayIP = some gateway)
    (small : containerID + 1 < 2 ^ 31) :
    Allocates netmask gatewayIP gateway containerID ↔
      netmask ≤ 31 ∧ (netmask = 0 ∨ gateway + containerID + 1 < 2 ^ 32) := by
  have bound := inetPton_lt valid
  have above := Subnet.le_highest netmask gateway
  have highest : Subnet.highest netmask gateway < 2 ^ 32 := Subnet.highest_lt bound
  constructor
  · intro allocates
    have atMost : netmask ≤ 31 := by
      by_contra large
      obtain ⟨message, threw⟩ := allocates.throws.mpr (.inr (.inl (Nat.not_le.mp large)))
      rw [generatedAddress_of_large (Nat.not_le.mp large)] at threw
      cases threw
    refine ⟨atMost, (Nat.eq_zero_or_pos netmask).imp_right fun atLeast => ?_⟩
    by_contra wraps
    obtain ⟨message, threw⟩ := allocates.throws.mpr (.inr (.inr (by omega)))
    rw [generatedAddress_eq valid atLeast atMost, if_neg (by omega)] at threw
    cases threw
  · rintro ⟨atMost, zero | noWrap⟩
    · subst zero
      refine ⟨⟨fun _ => .inl Nat.one_pos, fun _ => throws_of_zero⟩,
        fun none => absurd throws_of_zero none, fun other address _ first _ => ?_⟩
      obtain ⟨message, threw⟩ : Throws (generatedAddress 0 gatewayIP containerID) :=
        throws_of_zero
      rw [threw] at first
      cases first
    · rcases Nat.eq_zero_or_pos netmask with zero | atLeast
      · subst zero
        refine ⟨⟨fun _ => .inl Nat.one_pos, fun _ => throws_of_zero⟩,
          fun none => absurd throws_of_zero none, fun other address _ first _ => ?_⟩
        obtain ⟨message, threw⟩ : Throws (generatedAddress 0 gatewayIP containerID) :=
          throws_of_zero
        rw [threw] at first
        cases first
      · have eq := @generatedAddress_eq _ _ containerID _ valid atLeast atMost
        rw [Nat.mod_eq_of_lt noWrap] at eq
        refine ⟨?_, fun noThrow => ?_, fun other address otherSmall =>
          distinct_of_valid valid atLeast atMost small otherSmall⟩
        · rw [eq]
          split
          · rename_i tooHigh
            exact ⟨fun _ => .inr (.inr tooHigh), fun _ => ⟨_, rfl⟩⟩
          · rename_i notTooHigh
            refine ⟨fun ⟨_, threw⟩ => (nomatch threw), ?_⟩
            rintro (low | high | tooHigh)
            · omega
            · omega
            · exact absurd tooHigh notTooHigh
        · rw [eq] at noThrow ⊢
          split
          · rename_i tooHigh
            rw [if_pos tooHigh] at noThrow
            exact absurd ⟨_, rfl⟩ noThrow
          · rename_i notTooHigh
            exact ⟨rfl, noWrap, Subnet.same_of_between (by omega) (Nat.not_lt.mp notTooHigh)⟩

theorem generateIP_allocates_iff_bridge :
    Allocates 24 "10.0.3.1" 167772929 5 ↔
      24 ≤ 31 ∧ (24 = 0 ∨ 167772929 + 5 + 1 < 2 ^ 32) :=
  generateIP_allocates_iff rfl (by decide)

/-- Above the highest gateway there is no address, and the lowest one of all is returned. -/
theorem generateIP_wraps_around : ¬ Allocates 24 "255.255.255.254" 4294967294 1 := by
  intro allocates
  obtain ⟨message, threw⟩ := allocates.throws.mpr (.inr (.inr (by decide)))
  have returned : generatedAddress 24 "255.255.255.254" 1 = .ok (htonl 0#32) := rfl
  cases returned.symm.trans threw

end

end SoftwareContainers
