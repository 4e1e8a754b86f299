import SoftwareContainers.Network.Netlink

namespace SoftwareContainers.Netlink

/-! Whether the attributes that are added stay in the attribute buffer. -/

/-- An attribute that is added now is in the buffer, with its header and its data. -/
def InBuffer {payload : Nat} (request : NetlinkRequest payload) (length : Nat) : Prop :=
  NLMSG_HDRLEN + payload ≤ NLMSG_ALIGN request.hdr.len ∧
    NLMSG_ALIGN request.hdr.len + RTA_LENGTH length ≤ NLMSG_HDRLEN + payload + 2048

/-- Each call writes within the request, and each attribute it accepts is in the buffer. -/
def StaysInside {payload : Nat} : NetlinkRequest payload → List (Int × AttributeData) → Prop
  | _, [] => True
  | request, (type, data) :: rest =>
      ∃ accepted after, addAttribute request type data = .ok (accepted, after) ∧
        (accepted = true → InBuffer request data.bytes.length) ∧ StaysInside after rest

def roundUp (offset : Nat) : Nat := (offset + 3) / 4 * 4

/-- Where the check finds room for an attribute, there is room for the padding in front of
it as well, and the offsets can be written with 32 bits. -/
def Fits (payload : Nat) : Nat → List Nat → Prop
  | _, [] => True
  | stop, length :: rest =>
      if stop + RTA_LENGTH length ≤ NLMSG_HDRLEN + payload + 2048 then
        stop + 3 < 2 ^ 32 ∧
          roundUp stop + RTA_LENGTH length ≤ NLMSG_HDRLEN + payload + 2048 ∧
          Fits payload (roundUp stop + RTA_LENGTH length) rest
      else
        Fits payload stop rest

/-- The attributes end at `stop`, of which the header holds 32 bits. -/
structure EndsAt {payload : Nat} (request : NetlinkRequest payload) (stop : Nat) : Prop where
  len : request.hdr.len = stop % 2 ^ 32
  behind : NLMSG_HDRLEN + payload ≤ stop
  inside : stop ≤ NLMSG_HDRLEN + payload + 2048

namespace EndsAt

variable {payload stop : Nat} {request : NetlinkRequest payload}

theorem used_eq (ends : EndsAt request stop) :
    toInt (request.hdr.len - NLMSG_HDRLEN - payload) = (stop - NLMSG_HDRLEN - payload : Int) := by
  obtain ⟨len, behind, inside⟩ := ends
  unfold NLMSG_HDRLEN at *
  rw [len, toInt, Int.bmod_def]
  split <;> omega

/-- The check of `addAttribute` is the one without wrapping around. -/
theorem room_iff (ends : EndsAt request stop) (data : AttributeData) :
    (toInt (request.hdr.len - NLMSG_HDRLEN - payload) + RTA_LENGTH data.bytes.length) % 2 ^ 64 ≤
        2048 ↔
      stop + RTA_LENGTH data.bytes.length ≤ NLMSG_HDRLEN + payload + 2048 := by
  have size := data.size_lt
  rw [ends.used_eq]
  obtain ⟨_, behind, inside⟩ := ends
  unfold RTA_LENGTH NLMSG_HDRLEN at *
  omega

theorem align_eq (ends : EndsAt request stop) (small : stop + 3 < 2 ^ 32) :
    NLMSG_ALIGN request.hdr.len = roundUp stop := by
  rw [ends.len]
  unfold NLMSG_ALIGN roundUp
  omega

theorem not_inBuffer_of_wrapped (ends : EndsAt request stop) (large : ¬ stop + 3 < 2 ^ 32)
    (length : Nat) : ¬ InBuffer request length := by
  rintro ⟨behindHeader, _⟩
  rw [ends.len] at behindHeader
  obtain ⟨_, behind, inside⟩ := ends
  unfold NLMSG_ALIGN NLMSG_HDRLEN at *
  omega

theorem le_roundUp (offset : Nat) : offset ≤ roundUp offset := by
  unfold roundUp
  omega

theorem addAttribute_eq (ends : EndsAt request stop) (type : Int) {data : AttributeData}
    (small : stop + 3 < 2 ^ 32)
    (fits : roundUp stop + RTA_LENGTH data.bytes.length ≤ NLMSG_HDRLEN + payload + 2048) :
    ∃ after, addAttribute request type data = .ok (true, after) ∧
      InBuffer request data.bytes.length ∧
      EndsAt after (roundUp stop + RTA_LENGTH data.bytes.length) := by
  have aligned := ends.align_eq small
  have above := le_roundUp stop
  have behind := ends.behind
  have inBuffer : InBuffer request data.bytes.length := by
    rw [InBuffer, aligned]
    exact ⟨Nat.le_trans behind above, fits⟩
  obtain ⟨after, added, len, _⟩ := addAttribute_accepts request type data
    ((ends.room_iff data).mpr (by omega))
    (Nat.le_trans (Nat.le_add_right _ _) inBuffer.1) inBuffer.2
  refine ⟨after, added, inBuffer, ?_, by omega, fits⟩
  rw [len, aligned]

theorem staysInside_iff (ends : EndsAt request stop) (calls : List (Int × AttributeData)) :
    StaysInside request calls ↔ Fits payload stop (calls.map (·.2.bytes.length)) := by
  induction calls generalizing request stop with
  | nil => exact Iff.rfl
  | cons call rest ih =>
      obtain ⟨type, data⟩ := call
      rw [List.map_cons, StaysInside, Fits]
      by_cases room : stop + RTA_LENGTH data.bytes.length ≤ NLMSG_HDRLEN + payload + 2048
      · rw [if_pos room]
        constructor
        · rintro ⟨accepted, after, added, inBuffer, later⟩
          obtain rfl : accepted = true := by
            unfold addAttribute at added
            dsimp only at added
            rw [if_neg (Int.not_lt.mpr ((ends.room_iff data).mpr room))] at added
            split at added
            · cases added
            · cases added
              rfl
          have small : stop + 3 < 2 ^ 32 := by
            by_contra large
            exact ends.not_inBuffer_of_wrapped large _ (inBuffer rfl)
          have fits := (inBuffer rfl).2
          rw [ends.align_eq small] at fits
          obtain ⟨other, sameAdded, _, endsAfter⟩ := ends.addAttribute_eq type small fits
          cases added.symm.trans sameAdded
          exact ⟨small, fits, (ih endsAfter).mp later⟩
        · rintro ⟨small, fits, later⟩
          obtain ⟨after, added, inBuffer, endsAfter⟩ := ends.addAttribute_eq type small fits
          exact ⟨true, after, added, fun _ => inBuffer, (ih endsAfter).mpr later⟩
      · rw [if_neg room, ← ih ends]
        have rejected : addAttribute request type data = .ok (false, request) := by
          unfold addAttribute
          dsimp only
          rw [if_pos (Int.not_le.mp (mt (ends.room_iff data).mp room))]
        constructor
        · rintro ⟨accepted, after, added, _, later⟩
          cases rejected.symm.trans added
          exact later
        · intro later
          exact ⟨false, request, rejected, nofun, later⟩

end EndsAt

theorem endsAt_createMessage (self : Netlink) (payload : Nat) (type flags : Int) :
    EndsAt (self.createMessage payload type flags).1 (NLMSG_HDRLEN + payload) where
  len := by
    change NLMSG_LENGTH payload % 2 ^ 32 = _
    rw [NLMSG_LENGTH, Nat.add_comm]
  behind := Nat.le_refl _
  inside := Nat.le_add_right _ _

theorem addAttribute_staysInside_iff (self : Netlink) (payload : Nat) (type flags : Int)
    (calls : List (Int × AttributeData)) :
    StaysInside (self.createMessage payload type flags).1 calls ↔
      Fits payload (NLMSG_HDRLEN + payload) (calls.map (·.2.bytes.length)) :=
  (endsAt_createMessage self payload type flags).staysInside_iff calls

/-- The one byte of the first attribute is followed by three of padding, and so the second
one ends three bytes behind the buffer. -/
theorem padding_is_not_counted :
    ¬ StaysInside ((⟨1, 0⟩ : Netlink).createMessage 12 24 0).1
      [(3, ⟨[0], by decide⟩),
        (5, ⟨List.replicate 2039 0, by rw [List.length_replicate]; decide⟩)] := by
  intro stays
  have fits := (endsAt_createMessage ⟨1, 0⟩ 12 24 0).staysInside_iff _ |>.mp stays
  rw [List.map_cons, List.map_cons, List.length_replicate] at fits
  exact absurd fits.2.2.2.1 (by decide)

end SoftwareContainers.Netlink
