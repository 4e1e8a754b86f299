import SoftwareContainers.Network.NetlinkRoom
import SoftwareContainers.Network.Subnet

namespace SoftwareContainers

def encode32 (value : BitVec 32) : Bytes :=
  [⟨value.extractLsb' 0 8⟩, ⟨value.extractLsb' 8 8⟩, ⟨value.extractLsb' 16 8⟩,
    ⟨value.extractLsb' 24 8⟩]

theorem encode32_injective {first second : BitVec 32} (same : encode32 first = encode32 second) :
    first = second := by
  simp only [encode32, List.cons.injEq, UInt8.ofBitVec.injEq] at same
  obtain ⟨lowest, low, high, highest, _⟩ := same
  have swappedSame : htonl first = htonl second := by
    rw [htonl, htonl, lowest, low, high, highest]
  exact htonl_injective swappedSame

namespace Netlink

abbrev RTM_NEWADDR : Int := 20
abbrev NLM_F_REPLACE : Int := 0x100
abbrev NLM_F_CREATE : Int := 0x400
abbrev AF_INET : UInt8 := 2
abbrev RT_SCOPE_UNIVERSE : UInt8 := 0
abbrev IFA_LOCAL : Int := 2
abbrev IFA_BROADCAST : Int := 4

def addressData (address : BitVec 32) : AttributeData :=
  ⟨encode32 address, (by decide : 4 < 2 ^ 63)⟩

/-- The broadcast address of `setIP`, in network byte order.  From 31 on the netmask does
not fit in an `int`. -/
def inetBcast (ip : BitVec 32) (netmask : UInt8) : Except Fault (BitVec 32) :=
  if 30 < netmask.toNat then
    .error .undefined
  else
    let inetNetmask := (1#32 <<< netmask.toNat) - 1#32
    .ok (ip ||| ~~~inetNetmask)

/-- The message that `setIP` sends for the link it finds. -/
def setIPMessage (self : Netlink) (ifaceIndex ip : BitVec 32) (netmask : UInt8) :
    Except Fault (NetlinkRequest 8 × Netlink) := do
  let created := self.createMessage 8 RTM_NEWADDR (NLM_F_CREATE + NLM_F_REPLACE)
  let pay := [AF_INET, netmask, 0, RT_SCOPE_UNIVERSE] ++ encode32 ifaceIndex
  match writeRequest created.1 NLMSG_HDRLEN pay with
  | none => throw .undefined
  | some request =>
      let bcastAddr ← inetBcast ip netmask
      let (_, request) ← addAttribute request IFA_LOCAL (addressData ip)
      let (_, request) ← addAttribute request IFA_BROADCAST (addressData bcastAddr)
      return (request, created.2)

/-! The two masks, bit by bit. -/

theorem getLsbD_inetNetmask {bits index : Nat} (small : bits ≤ 30) (inside : index < 32) :
    ((1#32 <<< bits) - 1#32).getLsbD index = decide (index < bits) := by
  have power : 2 ^ bits < 2 ^ 32 := Nat.pow_lt_pow_right (by decide) (by omega)
  have positive : 0 < 2 ^ bits := Nat.two_pow_pos bits
  have same : (1#32 <<< bits) - 1#32 = BitVec.ofNat 32 (2 ^ bits - 1) := by
    apply BitVec.eq_of_toNat_eq
    rw [BitVec.toNat_sub, BitVec.toNat_shiftLeft, BitVec.toNat_ofNat, BitVec.toNat_ofNat,
      Nat.shiftLeft_eq]
    omega
  rw [same, BitVec.getLsbD_ofNat, decide_eq_true inside, Bool.true_and,
    Nat.testBit_two_pow_sub_one]

/-- In the byte in which the prefix ends, `setIP` masks the high bits where the low ones are
asked for.  Where only one of the two masks has a bit, the address has it. -/
def EndsInOnes (ip : BitVec 32) (netmask : Nat) : Prop :=
  ∀ bit < 8, (netmask % 8 ≤ bit ↔ netmask % 8 + bit < 8) ∨
    ip.getLsbD (8 * (netmask / 8) + bit) = true

/-- The highest address of the subnet, in network byte order. -/
def subnetBroadcast (ip : BitVec 32) (netmask : Nat) : BitVec 32 :=
  htonl (BitVec.ofNat 32 (Subnet.highest netmask (htonl ip).toNat))

theorem getLsbD_subnetBroadcast (ip : BitVec 32) (netmask : Nat) {index : Nat}
    (inside : index < 32) :
    (subnetBroadcast ip netmask).getLsbD index =
      (ip.getLsbD index || decide (swapped index < 32 - netmask)) := by
  have swappedInside := swapped_lt inside
  rw [subnetBroadcast, getLsbD_htonl _ inside, BitVec.getLsbD_ofNat,
    decide_eq_true swappedInside, Bool.true_and, ← Subnet.or_mask_eq_highest, Nat.testBit_or,
    Subnet.size, Nat.testBit_two_pow_sub_one]
  congr 1
  change (htonl ip).getLsbD (swapped index) = _
  rw [getLsbD_htonl _ swappedInside, swapped_swapped inside]

theorem inetBcast_eq_iff {ip : BitVec 32} {netmask : UInt8} (small : netmask.toNat ≤ 30) :
    inetBcast ip netmask = .ok (subnetBroadcast ip netmask.toNat) ↔
      EndsInOnes ip netmask.toNat := by
  rw [inetBcast, if_neg (Nat.not_lt.mpr small), Except.ok.injEq, BitVec.eq_of_getLsbD_eq_iff]
  generalize netmask.toNat = bits at small ⊢
  have sides {index : Nat} (inside : index < 32) :
      ((ip ||| ~~~((1#32 <<< bits) - 1#32)).getLsbD index =
          (subnetBroadcast ip bits).getLsbD index) ↔
        (bits ≤ index ↔ swapped index < 32 - bits) ∨ ip.getLsbD index = true := by
    rw [getLsbD_subnetBroadcast ip bits inside, BitVec.getLsbD_or, BitVec.getLsbD_not,
      getLsbD_inetNetmask small inside, decide_eq_true inside, Bool.true_and]
    by_cases masked : bits ≤ index <;> by_cases asked : swapped index < 32 - bits <;>
      simp [masked, asked]
  constructor
  · intro same bit bitSmall
    have inside : 8 * (bits / 8) + bit < 32 := by omega
    refine ((sides inside).mp (same _ inside)).imp_left fun masks => ?_
    unfold swapped at masks
    omega
  · intro ones index inside
    apply (sides inside).mpr
    by_cases ends : index / 8 = bits / 8
    · have here : 8 * (bits / 8) + index % 8 = index := by omega
      have one := ones (index % 8) (Nat.mod_lt _ (by decide))
      rw [here] at one
      refine one.imp_left fun masks => ?_
      unfold swapped
      omega
    · refine .inl ?_
      unfold swapped
      omega

/-! The message. -/

theorem setIPMessage_eq (self : Netlink) (ifaceIndex ip : BitVec 32) {netmask : UInt8}
    {bcastAddr : BitVec 32} (isBcast : inetBcast ip netmask = .ok bcastAddr) :
    ∃ request after, setIPMessage self ifaceIndex ip netmask = .ok (request, after) ∧
      getAttributes 8 request = .ok (true, [attributeOf (IFA_LOCAL, addressData ip),
        attributeOf (IFA_BROADCAST, addressData bcastAddr)]) := by
  obtain ⟨created, isCreated⟩ : ∃ created, created =
      self.createMessage 8 RTM_NEWADDR (NLM_F_CREATE + NLM_F_REPLACE) := ⟨_, rfl⟩
  have room : (created.1.body.write (NLMSG_HDRLEN - NLMSG_HDRLEN)
      ([AF_INET, netmask, 0, RT_SCOPE_UNIVERSE] ++ encode32 ifaceIndex)).isSome := by
    rw [Bytes.write_isSome_iff, created.1.body_length]
    exact (by decide : 0 + 8 ≤ 8 + 2048)
  obtain ⟨body, written⟩ := Option.isSome_iff_exists.mp room
  obtain ⟨request, isWritten⟩ : ∃ request, writeRequest created.1 NLMSG_HDRLEN
      ([AF_INET, netmask, 0, RT_SCOPE_UNIVERSE] ++ encode32 ifaceIndex) = some request := by
    rw [writeRequest, if_neg (by decide)]
    split
    · rename_i failed
      cases failed.symm.trans written
    · exact ⟨_, rfl⟩
  have sameHdr := (writeRequest_eq_some isWritten).2.2
  have ends : EndsAt request 24 := by
    have start := endsAt_createMessage self 8 RTM_NEWADDR (NLM_F_CREATE + NLM_F_REPLACE)
    rw [← isCreated] at start
    exact ⟨by rw [sameHdr, start.len], start.behind, start.inside⟩
  have holds : Holds request [] := by
    refine ⟨⟨8, .nil ?_, ?_⟩, fun _ member => by cases member⟩
    · rw [request.body_length]
      decide
    · rw [ends.len]
      decide
  obtain ⟨between, added, _, endsBetween⟩ := @EndsAt.addAttribute_eq _ _ _ ends IFA_LOCAL
    (addressData ip) (by decide) (show 24 + 8 ≤ 2072 by decide)
  have endsBetween : EndsAt between 32 := endsBetween
  obtain ⟨after, addedLast, _, _⟩ := @EndsAt.addAttribute_eq _ _ _ endsBetween IFA_BROADCAST
    (addressData bcastAddr) (by decide) (show 32 + 8 ≤ 2072 by decide)
  have read := getAttributes_of_holds (by decide) (by decide)
    (holds_addAttribute (holds_addAttribute holds (by decide) added) (by decide) addedLast)
  refine ⟨after, created.2, ?_, read⟩
  unfold setIPMessage
  rw [← isCreated]
  dsimp only
  rw [isWritten]
  dsimp only
  rw [isBcast]
  change (addAttribute request IFA_LOCAL (addressData ip) >>= _) = _
  rw [added]
  change (addAttribute between IFA_BROADCAST (addressData bcastAddr) >>= _) = _
  rw [addedLast]
  rfl

/-- The message has the highest address of the subnet, which is the bound of `generateIP`
for every gateway of the subnet. -/
structure BroadcastRight (netlink : Netlink) (ifaceIndex ip : BitVec 32) (netmask : UInt8) :
    Prop where
  message : ∃ request after, setIPMessage netlink ifaceIndex ip netmask = .ok (request, after) ∧
    getAttributes 8 request = .ok (true, [attributeOf (IFA_LOCAL, addressData ip),
      attributeOf (IFA_BROADCAST, addressData (subnetBroadcast ip netmask.toNat))])
  bound : ∀ gateway, Subnet.Same netmask.toNat gateway (htonl ip).toNat →
    htonl (BitVec.ofNat 32 (gateway ||| (2 ^ (32 - netmask.toNat) - 1))) =
      subnetBroadcast ip netmask.toNat

theorem BroadcastRight.endsInOnes {self : Netlink} {ifaceIndex ip : BitVec 32} {netmask : UInt8}
    (right : BroadcastRight self ifaceIndex ip netmask) :
    netmask.toNat ≤ 30 ∧ EndsInOnes ip netmask.toNat := by
  obtain ⟨request, after, isMessage, read⟩ := right.message
  have small : netmask.toNat ≤ 30 := by
    by_contra large
    unfold setIPMessage at isMessage
    rw [inetBcast, if_pos (Nat.not_le.mp large)] at isMessage
    dsimp only at isMessage
    split at isMessage
    · cases isMessage
    · cases isMessage
  refine ⟨small, (inetBcast_eq_iff small).mp ?_⟩
  obtain ⟨bcastAddr, isBcast⟩ : ∃ bcastAddr, inetBcast ip netmask = .ok bcastAddr := by
    rw [inetBcast, if_neg (Nat.not_lt.mpr small)]
    exact ⟨_, rfl⟩
  obtain ⟨other, _, sameMessage, sameRead⟩ := setIPMessage_eq self ifaceIndex ip isBcast
  cases isMessage.symm.trans sameMessage
  have lists := (Prod.mk.inj (Except.ok.inj (read.symm.trans sameRead))).2
  have last := (List.cons.inj (List.cons.inj lists).2).1
  rw [isBcast, encode32_injective (congrArg Prod.snd last)]

theorem setIP_broadcastRight_iff (self : Netlink) (ifaceIndex ip : BitVec 32) {netmask : UInt8}
    (atMost : netmask.toNat ≤ 31) :
    BroadcastRight self ifaceIndex ip netmask ↔
      netmask.toNat ≠ 31 ∧ EndsInOnes ip netmask.toNat := by
  constructor
  · intro right
    obtain ⟨small, ones⟩ := right.endsInOnes
    exact ⟨by omega, ones⟩
  · rintro ⟨small, ones⟩
    have isBcast := (inetBcast_eq_iff (show netmask.toNat ≤ 30 by omega)).mpr ones
    refine ⟨setIPMessage_eq self ifaceIndex ip isBcast, fun gateway same => ?_⟩
    rw [subnetBroadcast, ← Subnet.highest_eq_of_same same, ← Subnet.or_mask_eq_highest]
    rfl

theorem setIP_broadcastRight_iff_bridge :
    BroadcastRight ⟨1, 0⟩ 2#32 (htonl 0x0a000305#32) 24 ↔
      (24 : UInt8).toNat ≠ 31 ∧ EndsInOnes (htonl 0x0a000305#32) (24 : UInt8).toNat :=
  setIP_broadcastRight_iff ⟨1, 0⟩ 2#32 (htonl 0x0a000305#32) (by decide)

/-- For 172.16.0.5/20 the broadcast address is 172.16.240.255. -/
theorem setIP_broadcast_is_wrong :
    ¬ BroadcastRight ⟨1, 0⟩ 2#32 (htonl 0xac100005#32) 20 := by
  intro right
  rcases right.endsInOnes.2 0 (by decide) with masks | one
  · exact absurd (masks.mpr (by decide)) (by decide)
  · exact absurd one (by decide)

end Netlink

end SoftwareContainers
