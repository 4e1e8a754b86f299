import SoftwareContainers.Network.NetlinkReply

namespace SoftwareContainers.Netlink

/-! Which bytes of the buffer are copied for a message. -/

/-- All that is copied is in the message: without anything before and behind it the outcome
is the same. -/
def CopiesInside (msgtype : MsgType) (buf : Bytes) (start len : Nat) : Prop :=
  ∃ extent info, buf.read start len = some extent ∧
    saveMessage msgtype extent 0 len = .ok info ∧ saveMessage msgtype buf start len = .ok info

section

variable {buf extent : Bytes} {start length : Nat}

theorem readAttribute_extent {offset : Nat} (found : buf.read start length = some extent)
    (inside : offset + 4 ≤ length) :
    readAttribute extent offset = readAttribute buf (start + offset) := by
  rw [readAttribute, readAttribute, Bytes.read_read found (show offset + 2 ≤ length by omega),
    Bytes.read_read found (show offset + 2 + 2 ≤ length by omega), Nat.add_assoc]

theorem readAttribute_isSome {offset : Nat} (inside : offset + 4 ≤ buf.length) :
    ∃ rta, readAttribute buf offset = some rta := by
  obtain ⟨len, isLen⟩ := Bytes.exists_read (show offset + 2 ≤ buf.length by omega)
  obtain ⟨type, isType⟩ := Bytes.exists_read (show offset + 2 + 2 ≤ buf.length by omega)
  refine ⟨⟨decode16 len, decode16 type⟩, ?_⟩
  rw [readAttribute, isLen, isType]
  rfl

theorem attributesFrom_extent (found : buf.read start length = some extent) {offset : Nat}
    {len : Int} (inside : (offset : Int) + len ≤ length) :
    ∃ list, attributesFrom extent offset len = .ok list ∧
      attributesFrom buf (start + offset) len = .ok list := by
  generalize size : len.toNat = bound
  induction bound using Nat.strongRecOn generalizing offset len with
  | ind bound ih =>
      have extentLength := Bytes.read_length found
      by_cases short : len < 4
      · exact ⟨[], attributesFrom_short extent offset short, attributesFrom_short buf _ short⟩
      · obtain ⟨rta, header⟩ := readAttribute_isSome (show offset + 4 ≤ extent.length by omega)
        have sameHeader := readAttribute_extent found (show offset + 4 ≤ length by omega)
        by_cases ok : 4 ≤ rta.len.toNat ∧ (rta.len.toNat : Int) ≤ len
        · obtain ⟨data, content⟩ := Bytes.exists_read
            (show offset + 4 + (rta.len.toNat - 4) ≤ extent.length by omega)
          have sameContent := Bytes.read_read found
            (show offset + 4 + (rta.len.toNat - 4) ≤ length by omega)
          have aligned := four_le_align ok.1 rta.len.toNat_lt
          obtain ⟨rest, inExtent, inBuf⟩ := @ih (len - RTA_ALIGN rta.len.toNat).toNat (by omega)
            (offset + RTA_ALIGN rta.len.toNat) (len - RTA_ALIGN rta.len.toNat) (by omega) rfl
          refine ⟨(rta, data) :: rest, ?_, ?_⟩
          · rw [attributesFrom_step header ok.1 ok.2 content, inExtent]
            rfl
          · rw [← Nat.add_assoc] at inBuf sameContent
            rw [attributesFrom_step (sameHeader.symm.trans header) ok.1 ok.2
              (sameContent.symm.trans content), inBuf]
            rfl
        · have stops {body : Bytes} {position : Nat}
              (read : readAttribute body position = some rta) :
              attributesFrom body position len = .ok [] := by
            rw [attributesFrom, if_neg short, read]
            dsimp only
            rw [dif_neg ok]
          exact ⟨[], stops header, stops (sameHeader.symm.trans header)⟩

theorem align_size (msgtype : MsgType) : NLMSG_ALIGN msgtype.size = msgtype.size := by
  cases msgtype <;> decide

theorem copiesInside_iff {msgtype : MsgType} {len : Nat} (inside : start + len ≤ buf.length)
    (isInt : FitsInt len) :
    CopiesInside msgtype buf start len ↔ NLMSG_LENGTH msgtype.size ≤ len := by
  have header : NLMSG_HDRLEN = 16 := rfl
  have lengths : NLMSG_LENGTH msgtype.size = 16 + msgtype.size := Nat.add_comm _ _
  have size : msgtype.size ≤ 16 := by cases msgtype <;> decide
  have rest : toInt (len - NLMSG_LENGTH msgtype.size : Int) = len - NLMSG_LENGTH msgtype.size := by
    refine toInt_of_fitsInt ?_
    unfold FitsInt at *
    omega
  obtain ⟨extent, found⟩ := Bytes.exists_read inside
  have extentLength := Bytes.read_length found
  have saved {body : Bytes} {position : Nat} {list : List (RtAttr × Bytes)}
      (attributes : attributesFrom body (position + NLMSG_HDRLEN + NLMSG_ALIGN msgtype.size)
        (len - NLMSG_LENGTH msgtype.size) = .ok list) :
      saveMessage msgtype body position len =
        (body.read (position + NLMSG_HDRLEN) msgtype.size).elim (.error .undefined)
          fun msg => .ok ⟨msg, list⟩ := by
    rw [saveMessage, rest, attributes]
    dsimp only [Bind.bind, Except.bind]
    cases body.read (position + NLMSG_HDRLEN) msgtype.size <;> rfl
  obtain ⟨list, inExtent, inBuf⟩ := @attributesFrom_extent buf extent start len found
    (0 + NLMSG_HDRLEN + NLMSG_ALIGN msgtype.size) (len - NLMSG_LENGTH msgtype.size) (by
      rw [align_size, lengths]
      omega)
  constructor
  · rintro ⟨other, info, isExtent, inMessage, _⟩
    cases found.symm.trans isExtent
    by_contra short
    rw [saved inExtent, Bytes.read_eq_none (by omega)] at inMessage
    cases inMessage
  · intro long
    obtain ⟨msg, isMsg⟩ := Bytes.exists_read
      (show 0 + NLMSG_HDRLEN + msgtype.size ≤ extent.length by omega)
    have same := Bytes.read_read found (show 0 + NLMSG_HDRLEN + msgtype.size ≤ len by omega)
    refine ⟨extent, ⟨msg, list⟩, found, ?_, ?_⟩
    · rw [saved inExtent, isMsg, Option.elim_some]
    · rw [Nat.zero_add, ← Nat.add_assoc] at inBuf
      rw [saved inBuf, ← Nat.zero_add NLMSG_HDRLEN, ← same, isMsg, Option.elim_some]

end

/-- The walk ends, its messages are in the bytes received, and nothing outside of a message
is saved for it. -/
structure ParsesInside (received : Received) : Prop where
  bounded : 16 * received.messages.length ≤ received.len.toNat
  loop : ∀ cache last, readBuffer received.buf 0 received.len cache last =
    handleEach received.buf received.messages cache last
  inside : ∀ message ∈ received.messages, (message.1 : Int) + message.2.len ≤ received.len
  copies : ∀ message ∈ received.messages, ∀ msgtype, savedAs message.2.type = some msgtype →
    CopiesInside msgtype received.buf message.1 message.2.len

theorem copiesInside_of_mem_iff {received : Received} {message : Nat × ReceivedHdr}
    (member : message ∈ received.messages) (msgtype : MsgType) :
    CopiesInside msgtype received.buf message.1 message.2.len ↔
      NLMSG_LENGTH msgtype.size ≤ message.2.len := by
  have within := within_of_mem member
  have inside := within.inside
  have room := received.inside
  have isInt := received.isInt
  refine copiesInside_iff (by omega) ?_
  unfold FitsInt at *
  omega

/-- A message that is saved must have room for its `struct`. -/
theorem readMessage_parsesInside_iff (received : Received) :
    ParsesInside received ↔
      ∀ message ∈ received.messages, ∀ msgtype, savedAs message.2.type = some msgtype →
        NLMSG_LENGTH msgtype.size ≤ message.2.len := by
  constructor
  · intro parses message member msgtype isSaved
    exact (copiesInside_of_mem_iff member msgtype).mp
      (parses.copies message member msgtype isSaved)
  · intro long
    refine ⟨length_messagesFrom, fun cache last => readBuffer_eq ?_ cache last, ?_, ?_⟩
    · have inside := received.inside
      omega
    · intro message member
      have inside := (within_of_mem member).inside
      omega
    · intro message member msgtype isSaved
      exact (copiesInside_of_mem_iff member msgtype).mpr (long message member msgtype isSaved)

theorem fitsInt_header : FitsInt 16 := by decide

def bareHeader : Received where
  buf := [16, 0, 0, 0, 16, 0, 0, 0, 0, 0, 0, 0, 0, 0, 0, 0] ++ List.replicate 16 255
  len := 16
  isInt := fitsInt_header
  inside := by decide

theorem other_bytes_are_saved : ¬ ParsesInside bareHeader := by
  intro parses
  have header : readHeader bareHeader.buf 0 = some ⟨16, 16⟩ := by decide
  have member : (0, ⟨16, 16⟩) ∈ bareHeader.messages := by
    rw [Received.messages, messagesFrom_ok (by decide) header (by decide)]
    exact List.mem_cons_self
  have long := (copiesInside_of_mem_iff member .ifinfomsg).mp
    (parses.copies _ member .ifinfomsg (by decide))
  exact absurd long (by decide)

end SoftwareContainers.Netlink
