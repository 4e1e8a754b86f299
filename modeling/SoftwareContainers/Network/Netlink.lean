import SoftwareContainers.Base.Bytes
import SoftwareContainers.Base.Fault
import SoftwareContainers.Base.Json

namespace SoftwareContainers

/-! `class Netlink`: the messages it builds and the attributes it reads. -/

structure NlMsgHdr where
  len : Nat
  type : UInt16
  flags : UInt16
  seq : Nat
  pid : Int
  deriving DecidableEq

/-- `struct rtattr`, the header of an attribute. -/
structure RtAttr where
  len : UInt16
  type : UInt16
  deriving DecidableEq, Repr

/-- What an attribute is made from; no object is larger. -/
structure AttributeData where
  bytes : Bytes
  size_lt : bytes.length < 2 ^ 63

/-- The payload and the attribute buffer are the bytes after the header. -/
structure NetlinkRequest (payload : Nat) where
  hdr : NlMsgHdr
  body : Bytes
  body_length : body.length = payload + 2048

structure Netlink where
  sequenceNumber : Nat
  pid : Int

namespace Netlink

abbrev NLMSG_HDRLEN : Nat := 16
abbrev NLM_F_REQUEST : UInt16 := 1
abbrev NLM_F_ACK : UInt16 := 4

/-- The macros align to four bytes with a mask of 32 bits. -/
def NLMSG_ALIGN (length : Nat) : Nat := (length + 3) % 2 ^ 32 / 4 * 4

abbrev RTA_ALIGN : Nat → Nat := NLMSG_ALIGN

def NLMSG_LENGTH (length : Nat) : Nat := length + NLMSG_HDRLEN

def RTA_LENGTH (length : Nat) : Nat := 4 + length

def createMessage (self : Netlink) (payload : Nat) (type flags : Int) :
    NetlinkRequest payload × Netlink :=
  ({ hdr := {
        len := NLMSG_LENGTH payload % 2 ^ 32
        type := UInt16.ofInt type
        flags := UInt16.ofInt flags ||| NLM_F_ACK ||| NLM_F_REQUEST
        seq := self.sequenceNumber
        pid := self.pid }
     body := List.replicate (payload + 2048) 0
     body_length := List.length_replicate },
    { self with sequenceNumber := (self.sequenceNumber + 1) % 2 ^ 32 })

/-- A pointer into the request, to be written through. -/
def writeRequest {payload : Nat} (request : NetlinkRequest payload) (offset : Nat)
    (bytes : Bytes) : Option (NetlinkRequest payload) :=
  if offset < NLMSG_HDRLEN then
    none
  else
    match written : request.body.write (offset - NLMSG_HDRLEN) bytes with
    | none => none
    | some body =>
        some { request with
          body := body
          body_length := (Bytes.write_length written).trans request.body_length }

def addAttribute {payload : Nat} (request : NetlinkRequest payload) (type : Int)
    (data : AttributeData) : Except Fault (Bool × NetlinkRequest payload) :=
  let length := data.bytes.length
  let usedAttributeLength := toInt (request.hdr.len - NLMSG_HDRLEN - payload)
  if (usedAttributeLength + RTA_LENGTH length) % 2 ^ 64 > 2048 then
    .ok (false, request)
  else
    let rta : RtAttr := ⟨UInt16.ofNat (RTA_LENGTH length), UInt16.ofInt type⟩
    match writeRequest request (NLMSG_ALIGN request.hdr.len)
        (encode16 rta.len ++ (encode16 rta.type ++ data.bytes)) with
    | none => .error .undefined
    | some request =>
        .ok (true, { request with hdr := { request.hdr with
          len := (NLMSG_ALIGN request.hdr.len + RTA_LENGTH length) % 2 ^ 32 } })

def readAttribute (body : Bytes) (offset : Nat) : Option RtAttr := do
  let len ← body.read offset 2
  let type ← body.read (offset + 2) 2
  return ⟨decode16 len, decode16 type⟩

theorem four_le_align {length : Nat} (atLeast : 4 ≤ length) (atMost : length < 2 ^ 16) :
    4 ≤ RTA_ALIGN length := by
  unfold RTA_ALIGN NLMSG_ALIGN
  omega

/-- The loop of `getAttributes`, from an offset behind the header, with `RTA_OK` as its
condition and `RTA_NEXT` as its step. -/
def attributesFrom (body : Bytes) (offset : Nat) (len : Int) :
    Except Fault (List (RtAttr × Bytes)) :=
  if len < 4 then
    .ok []
  else
    match readAttribute body offset with
    | none => .error .undefined
    | some rta =>
        if _ : 4 ≤ rta.len.toNat ∧ (rta.len.toNat : Int) ≤ len then
          match body.read (offset + RTA_LENGTH 0) (rta.len.toNat - RTA_LENGTH 0) with
          | none => .error .undefined
          | some data =>
              match attributesFrom body (offset + RTA_ALIGN rta.len.toNat)
                  (len - RTA_ALIGN rta.len.toNat) with
              | .error error => .error error
              | .ok rest => .ok ((rta, data) :: rest)
        else
          .ok []
termination_by len.toNat
decreasing_by
  have aligned := four_le_align
    (‹4 ≤ rta.len.toNat ∧ (rta.len.toNat : Int) ≤ len›).1 rta.len.toNat_lt
  omega

/-- With a `malloc` that succeeds. -/
def getAttributes (msgtype : Nat) {payload : Nat} (request : NetlinkRequest payload) :
    Except Fault (Bool × List (RtAttr × Bytes)) := do
  let len := toInt (request.hdr.len - NLMSG_LENGTH msgtype)
  let result ← attributesFrom request.body (NLMSG_ALIGN msgtype) len
  return (true, result)

theorem attributesFrom_short (body : Bytes) (offset : Nat) {len : Int} (short : len < 4) :
    attributesFrom body offset len = .ok [] := by
  rw [attributesFrom, if_pos short]

theorem attributesFrom_step {body data : Bytes} {offset : Nat} {len : Int} {rta : RtAttr}
    (header : readAttribute body offset = some rta) (atLeast : 4 ≤ rta.len.toNat)
    (fits : (rta.len.toNat : Int) ≤ len)
    (content : body.read (offset + 4) (rta.len.toNat - 4) = some data) :
    attributesFrom body offset len =
      (attributesFrom body (offset + RTA_ALIGN rta.len.toNat)
        (len - RTA_ALIGN rta.len.toNat)).map ((rta, data) :: ·) := by
  have found : body.read (offset + RTA_LENGTH 0) (rta.len.toNat - RTA_LENGTH 0) = some data :=
    content
  rw [attributesFrom, if_neg (by omega), header]
  dsimp only
  rw [dif_pos ⟨atLeast, fits⟩, found]
  dsimp only
  cases attributesFrom body (offset + RTA_ALIGN rta.len.toNat)
    (len - RTA_ALIGN rta.len.toNat) <;> rfl

/-! What the request holds while attributes are added. -/

theorem le_align {length : Nat} (small : length + 3 < 2 ^ 32) :
    length ≤ NLMSG_ALIGN length := by
  unfold NLMSG_ALIGN
  omega

theorem align_align_add {stop length : Nat} (small : NLMSG_ALIGN stop + length + 3 < 2 ^ 32) :
    NLMSG_ALIGN (NLMSG_ALIGN stop + length) = NLMSG_ALIGN stop + RTA_ALIGN length := by
  unfold RTA_ALIGN NLMSG_ALIGN at *
  omega

/-- The attributes are in the memory from an offset on, and the last of them ends at
`stop`.  Each begins at the next aligned offset. -/
inductive Placed (body : Bytes) (offset : Nat) : List (RtAttr × Bytes) → Nat → Prop
  | nil (inside : offset ≤ body.length) : Placed body offset [] offset
  | snoc {list : List (RtAttr × Bytes)} {stop : Nat} {rta : RtAttr} {data : Bytes}
      (placed : Placed body offset list stop)
      (header : readAttribute body (NLMSG_ALIGN stop) = some rta)
      (atLeast : 4 ≤ rta.len.toNat)
      (content : body.read (NLMSG_ALIGN stop + 4) (rta.len.toNat - 4) = some data) :
      Placed body offset (list ++ [(rta, data)]) (NLMSG_ALIGN stop + rta.len.toNat)

namespace Placed

variable {body after bytes : Bytes} {offset stop start : Nat}
  {list : List (RtAttr × Bytes)}

theorem inside (placed : Placed body offset list stop) : stop ≤ body.length := by
  cases placed with
  | nil inside => exact inside
  | snoc placed header atLeast content =>
      unfold Bytes.read at content
      split at content
      · omega
      · cases content

theorem offset_le (placed : Placed body offset list stop) (small : body.length + 3 < 2 ^ 32) :
    offset ≤ stop := by
  induction placed with
  | nil => exact Nat.le_refl offset
  | snoc placed header atLeast content ih =>
      have aligned := le_align (Nat.lt_of_le_of_lt (Nat.add_le_add_right placed.inside 3) small)
      omega

theorem write (placed : Placed body offset list stop)
    (written : body.write start bytes = some after) (behind : stop ≤ start)
    (small : body.length + 3 < 2 ^ 32) : Placed after offset list stop := by
  induction placed with
  | nil inside => exact .nil (by rw [Bytes.write_length written]; exact inside)
  | @snoc list stop rta data placed header atLeast content ih =>
      have aligned := le_align (Nat.lt_of_le_of_lt (Nat.add_le_add_right placed.inside 3) small)
      refine .snoc (ih (by omega)) ?_ atLeast ?_
      · rw [← header, readAttribute, readAttribute,
          Bytes.read_write_before written (by omega),
          Bytes.read_write_before written (by omega)]
      · rw [Bytes.read_write_before written (by omega)]
        exact content

/-- The loop reads the attributes and goes on behind the last of them. -/
theorem attributesFrom_eq (placed : Placed body offset list stop)
    (small : body.length + 3 < 2 ^ 32) {finish : Nat} (enough : stop ≤ finish)
    (aligned : offset % 4 = 0) :
    attributesFrom body offset (finish - offset : Int) =
      (attributesFrom body (NLMSG_ALIGN stop) (finish - NLMSG_ALIGN stop : Int)).map
        (list ++ ·) := by
  induction placed with
  | nil inside =>
      have same : NLMSG_ALIGN offset = offset := by
        unfold NLMSG_ALIGN
        omega
      rw [same]
      cases attributesFrom body offset (finish - offset) <;> rfl
  | @snoc list stop rta data placed header atLeast content ih =>
      have before := le_align
        (Nat.lt_of_le_of_lt (Nat.add_le_add_right placed.inside 3) small)
      have inside := (Placed.snoc placed header atLeast content).inside
      have next : NLMSG_ALIGN (NLMSG_ALIGN stop + rta.len.toNat) =
          NLMSG_ALIGN stop + RTA_ALIGN rta.len.toNat := align_align_add (by omega)
      rw [ih (by omega), attributesFrom_step header atLeast (by omega) content, next]
      have rest : (finish - NLMSG_ALIGN stop - RTA_ALIGN rta.len.toNat : Int) =
          finish - (NLMSG_ALIGN stop + RTA_ALIGN rta.len.toNat : Nat) := by
        omega
      rw [rest]
      cases attributesFrom body (NLMSG_ALIGN stop + RTA_ALIGN rta.len.toNat)
          (finish - (NLMSG_ALIGN stop + RTA_ALIGN rta.len.toNat : Nat)) with
      | error error => rfl
      | ok found =>
          change Except.ok (list ++ (rta, data) :: found) =
            Except.ok (list ++ [(rta, data)] ++ found)
          rw [List.append_assoc, List.singleton_append]

end Placed

/-! Adding attributes. -/

/-- Each of the attributes is accepted, one after the other. -/
inductive Accepts {payload : Nat} :
    NetlinkRequest payload → List (Int × AttributeData) → NetlinkRequest payload → Prop
  | nil (request : NetlinkRequest payload) : Accepts request [] request
  | snoc {request between after : NetlinkRequest payload}
      {list : List (Int × AttributeData)} {type : Int} {data : AttributeData}
      (accepts : Accepts request list between)
      (added : addAttribute between type data = .ok (true, after)) :
      Accepts request (list ++ [(type, data)]) after

/-- What is read back for an attribute. -/
def attributeOf (pair : Int × AttributeData) : RtAttr × Bytes :=
  (⟨UInt16.ofNat (RTA_LENGTH pair.2.bytes.length), UInt16.ofInt pair.1⟩, pair.2.bytes)

/-- The length in the header is that of the attributes that are in the request. -/
def Holds {payload : Nat} (request : NetlinkRequest payload)
    (list : List (Int × AttributeData)) : Prop :=
  (∃ stop, Placed request.body payload (list.map attributeOf) stop ∧
    request.hdr.len = NLMSG_LENGTH stop) ∧
    ∀ pair ∈ list, RTA_LENGTH pair.2.bytes.length ≤ 2048

theorem holds_createMessage (self : Netlink) {payload : Nat} (type flags : Int)
    (small : payload + 2064 < 2 ^ 32) :
    Holds (self.createMessage payload type flags).1 [] := by
  refine ⟨⟨payload, .nil ?_, ?_⟩, fun _ member => nomatch member⟩
  · rw [(self.createMessage payload type flags).1.body_length]
    omega
  · change NLMSG_LENGTH payload % 2 ^ 32 = NLMSG_LENGTH payload
    unfold NLMSG_LENGTH NLMSG_HDRLEN
    omega

theorem writeRequest_eq_some {payload offset : Nat} {request after : NetlinkRequest payload}
    {bytes : Bytes} (written : writeRequest request offset bytes = some after) :
    NLMSG_HDRLEN ≤ offset ∧ request.body.write (offset - NLMSG_HDRLEN) bytes = some after.body ∧
      after.hdr = request.hdr := by
  unfold writeRequest at written
  split at written
  · cases written
  · rename_i behind
    split at written
    · cases written
    · rename_i body bodyWritten
      cases written
      exact ⟨Nat.not_lt.mp behind, bodyWritten, rfl⟩

theorem readAttribute_of_write {body after : Bytes} {offset : Nat} {rta : RtAttr}
    {data : Bytes}
    (written : body.write offset (encode16 rta.len ++ (encode16 rta.type ++ data)) =
      some after) :
    readAttribute after offset = some rta ∧ after.read (offset + 4) data.length = some data := by
  have len : after.read offset 2 = some (encode16 rta.len) :=
    @Bytes.read_write_part body after [] (encode16 rta.len) (encode16 rta.type ++ data) offset
      written
  have type : after.read (offset + 2) 2 = some (encode16 rta.type) :=
    Bytes.read_write_part written
  have all : body.write offset ((encode16 rta.len ++ encode16 rta.type) ++ (data ++ [])) =
      some after := by
    rw [List.append_nil, List.append_assoc]
    exact written
  refine ⟨?_, Bytes.read_write_part all⟩
  rw [readAttribute, len, type]
  change some (RtAttr.mk (decode16 (encode16 rta.len)) (decode16 (encode16 rta.type))) = _
  rw [decode16_encode16, decode16_encode16]

theorem holds_addAttribute {payload : Nat} {request after : NetlinkRequest payload}
    {list : List (Int × AttributeData)} {type : Int} {data : AttributeData}
    (holds : Holds request list) (small : payload + 2067 < 2 ^ 32)
    (added : addAttribute request type data = .ok (true, after)) :
    Holds after (list ++ [(type, data)]) := by
  obtain ⟨⟨stop, placed, sameLen⟩, lengths⟩ := holds
  have bodyLength := request.body_length
  have inside := placed.inside
  have atLeast := placed.offset_le (by omega)
  have size := data.size_lt
  unfold addAttribute at added
  dsimp only at added
  have used : toInt (request.hdr.len - NLMSG_HDRLEN - payload) = (stop - payload : Int) := by
    rw [sameLen]
    unfold NLMSG_LENGTH NLMSG_HDRLEN
    rw [toInt_of_fitsInt ⟨by omega, by omega⟩]
    omega
  rw [used] at added
  split at added
  · cases added
  · rename_i fits
    split at added
    · cases added
    · rename_i written isWritten
      cases added
      obtain ⟨_, bodyWritten, sameHdr⟩ := writeRequest_eq_some isWritten
      have length : RTA_LENGTH data.bytes.length = 4 + data.bytes.length := rfl
      have short : 4 + data.bytes.length ≤ 2048 := by omega
      have offset : NLMSG_ALIGN request.hdr.len - NLMSG_HDRLEN = NLMSG_ALIGN stop := by
        rw [sameLen]
        unfold NLMSG_LENGTH NLMSG_HDRLEN NLMSG_ALIGN
        omega
      rw [offset] at bodyWritten
      have rtaLength : (attributeOf (type, data)).1.len.toNat = 4 + data.bytes.length := by
        change (UInt16.ofNat (4 + data.bytes.length)).toNat = _
        rw [UInt16.toNat_ofNat']
        omega
      obtain ⟨header, content⟩ := @readAttribute_of_write _ _ _
        (attributeOf (type, data)).1 data.bytes bodyWritten
      have dataLength : data.bytes.length = (attributeOf (type, data)).1.len.toNat - 4 := by
        omega
      rw [dataLength] at content
      have notEmpty : 4 ≤ (attributeOf (type, data)).1.len.toNat := by omega
      have aligned := le_align (show stop + 3 < 2 ^ 32 by omega)
      have next : Placed written.body payload (list.map attributeOf ++ [attributeOf (type, data)])
          (NLMSG_ALIGN stop + (attributeOf (type, data)).1.len.toNat) :=
        .snoc (placed.write bodyWritten aligned (by omega)) header notEmpty content
      rw [Holds, List.map_append]
      refine ⟨⟨NLMSG_ALIGN stop + (attributeOf (type, data)).1.len.toNat, next, ?_⟩, ?_⟩
      rotate_left
      · intro pair member
        rcases List.mem_append.mp member with earlier | last
        · exact lengths pair earlier
        · rw [List.mem_singleton.mp last]
          exact short
      have writtenInside := next.inside
      rw [written.body_length, rtaLength] at writtenInside
      rw [rtaLength]
      change (NLMSG_ALIGN written.hdr.len + RTA_LENGTH data.bytes.length) % 2 ^ 32 = _
      rw [sameHdr, length]
      unfold NLMSG_LENGTH NLMSG_HDRLEN at *
      omega

theorem holds_of_accepts (self : Netlink) {payload : Nat} {type flags : Int}
    {list : List (Int × AttributeData)} {request : NetlinkRequest payload}
    (aligned : payload % 4 = 0) (small : payload + 2064 < 2 ^ 32)
    (accepts : Accepts (self.createMessage payload type flags).1 list request) :
    Holds request list := by
  induction accepts with
  | nil => exact holds_createMessage self type flags small
  | snoc accepts added ih => exact holds_addAttribute ih (by omega) added

theorem getAttributes_of_holds {payload : Nat} {request : NetlinkRequest payload}
    {list : List (Int × AttributeData)} (aligned : payload % 4 = 0)
    (small : payload + 2064 < 2 ^ 32) (holds : Holds request list) :
    getAttributes payload request = .ok (true, list.map attributeOf) := by
  obtain ⟨⟨stop, placed, sameLen⟩, _⟩ := holds
  have bodyLength := request.body_length
  have inside := placed.inside
  have atLeast := placed.offset_le (by omega)
  have fits := le_align (show stop + 3 < 2 ^ 32 by omega)
  have start : NLMSG_ALIGN payload = payload := by
    unfold NLMSG_ALIGN
    omega
  have len : toInt (request.hdr.len - NLMSG_LENGTH payload) = (stop - payload : Int) := by
    rw [sameLen]
    unfold NLMSG_LENGTH NLMSG_HDRLEN
    rw [toInt_of_fitsInt ⟨by omega, by omega⟩]
    omega
  have read := placed.attributesFrom_eq (by omega) (Nat.le_refl stop) aligned
  rw [attributesFrom_short request.body (NLMSG_ALIGN stop) (by omega)] at read
  rw [getAttributes, start, len, read]
  change Except.ok (true, list.map attributeOf ++ []) = _
  rw [List.append_nil]

/-- The attributes are read back in order, with their lengths and data, and with their
types seen in a certain way. -/
def Returns {payload : Nat} (request : NetlinkRequest payload)
    (list : List (Int × AttributeData)) (types : Int → Int) : Prop :=
  ∃ found, getAttributes payload request = .ok (true, found) ∧
    found.map (fun item => ((item.1.type.toNat : Int), item.1.len.toNat, item.2)) =
      list.map fun pair => (types pair.1, RTA_LENGTH pair.2.bytes.length, pair.2.bytes)

/-- Of each type the lowest sixteen bits come back. -/
theorem getAttributes_addAttribute (self : Netlink) {payload : Nat} {type flags : Int}
    {list : List (Int × AttributeData)} {request : NetlinkRequest payload}
    (aligned : payload % 4 = 0) (small : payload + 2064 < 2 ^ 32)
    (accepts : Accepts (self.createMessage payload type flags).1 list request) :
    Returns request list (· % 2 ^ 16) := by
  have holds := holds_of_accepts self aligned small accepts
  refine ⟨_, getAttributes_of_holds aligned small holds, ?_⟩
  rw [List.map_map]
  refine List.map_congr_left fun pair member => ?_
  have short := holds.2 pair member
  have length : (UInt16.ofNat (RTA_LENGTH pair.2.bytes.length)).toNat =
      RTA_LENGTH pair.2.bytes.length := by
    rw [UInt16.toNat_ofNat']
    omega
  have types : ((UInt16.ofInt pair.1).toNat : Int) = pair.1 % 2 ^ 16 := by
    rw [UInt16.ofInt, UInt16.toNat_ofNat']
    omega
  exact Prod.ext types (Prod.ext length rfl)

theorem addAttribute_accepts {payload : Nat} (request : NetlinkRequest payload) (type : Int)
    (data : AttributeData)
    (used : (toInt (request.hdr.len - NLMSG_HDRLEN - payload) +
      RTA_LENGTH data.bytes.length) % 2 ^ 64 ≤ 2048)
    (behind : NLMSG_HDRLEN ≤ NLMSG_ALIGN request.hdr.len)
    (inside : NLMSG_ALIGN request.hdr.len + RTA_LENGTH data.bytes.length ≤
      NLMSG_HDRLEN + payload + 2048) :
    ∃ after, addAttribute request type data = .ok (true, after) ∧
      after.hdr.len = (NLMSG_ALIGN request.hdr.len + RTA_LENGTH data.bytes.length) % 2 ^ 32 ∧
      request.body.write (NLMSG_ALIGN request.hdr.len - NLMSG_HDRLEN)
        (encode16 (attributeOf (type, data)).1.len ++
          (encode16 (attributeOf (type, data)).1.type ++ data.bytes)) = some after.body := by
  have room : (request.body.write (NLMSG_ALIGN request.hdr.len - NLMSG_HDRLEN)
      (encode16 (attributeOf (type, data)).1.len ++
        (encode16 (attributeOf (type, data)).1.type ++ data.bytes))).isSome := by
    rw [Bytes.write_isSome_iff, request.body_length]
    simp only [List.length_append, encode16_length]
    unfold RTA_LENGTH NLMSG_HDRLEN at *
    omega
  obtain ⟨body, written⟩ := Option.isSome_iff_exists.mp room
  have whole : writeRequest request (NLMSG_ALIGN request.hdr.len)
      (encode16 (attributeOf (type, data)).1.len ++
        (encode16 (attributeOf (type, data)).1.type ++ data.bytes)) =
        some { request with
          body := body
          body_length := (Bytes.write_length written).trans request.body_length } := by
    rw [writeRequest, if_neg (Nat.not_lt.mpr behind)]
    split
    · rename_i failed
      rw [failed] at written
      cases written
    · rename_i other otherWritten
      cases otherWritten.symm.trans written
      rfl
  dsimp only [attributeOf] at whole
  have added : addAttribute request type data = .ok (true, {
      hdr := { request.hdr with
        len := (NLMSG_ALIGN request.hdr.len + RTA_LENGTH data.bytes.length) % 2 ^ 32 }
      body := body
      body_length := (Bytes.write_length written).trans request.body_length }) := by
    unfold addAttribute
    dsimp only
    rw [if_neg (Int.not_lt.mpr used), whole]
  exact ⟨_, added, rfl, written⟩

/-- Two attributes behind a `struct rtmsg`, the first of an unaligned length. -/
theorem unaligned_attributes_return :
    ∃ request, Accepts ((⟨1, 0⟩ : Netlink).createMessage 12 24 0).1
        [(3, ⟨[101, 116, 104], by decide⟩), (5, ⟨[10, 0, 3, 1], by decide⟩)] request ∧
      Returns request [(3, ⟨[101, 116, 104], by decide⟩), (5, ⟨[10, 0, 3, 1], by decide⟩)]
        (· % 2 ^ 16) := by
  obtain ⟨between, firstAdded, firstLen, _⟩ := addAttribute_accepts
    ((⟨1, 0⟩ : Netlink).createMessage 12 24 0).1 3 ⟨[101, 116, 104], by decide⟩
    (by decide) (by decide) (by decide)
  have len : between.hdr.len = 35 := firstLen.trans (by decide)
  obtain ⟨after, secondAdded, _⟩ := addAttribute_accepts between 5 ⟨[10, 0, 3, 1], by decide⟩
    (by rw [len]; decide) (by rw [len]; decide) (by rw [len]; decide)
  have accepts := Accepts.snoc (.snoc (.nil _) firstAdded) secondAdded
  exact ⟨after, accepts, getAttributes_addAttribute ⟨1, 0⟩ (by decide) (by decide) accepts⟩

theorem wide_type_is_lost :
    ¬ ∀ (self : Netlink) (payload : Nat) (type flags : Int)
        (list : List (Int × AttributeData)) (request : NetlinkRequest payload),
      payload % 4 = 0 → payload + 2064 < 2 ^ 32 →
      Accepts (self.createMessage payload type flags).1 list request →
      Returns request list id := by
  intro returns
  obtain ⟨request, added, _⟩ := addAttribute_accepts
    ((⟨1, 0⟩ : Netlink).createMessage 12 24 0).1 65536 ⟨[], by decide⟩
    (by decide) (by decide) (by decide)
  obtain ⟨found, _, same⟩ := returns ⟨1, 0⟩ 12 24 0 _ request (by decide) (by decide)
    (.snoc (.nil _) added)
  cases found with
  | nil => cases same
  | cons item rest =>
      have type : (item.1.type.toNat : Int) = 65536 :=
        congrArg Prod.fst (List.head_eq_of_cons_eq same)
      have bound := item.1.type.toNat_lt
      omega

/-! A payload so large that the length of the message wraps around. -/

abbrev hugePayload : Nat := 2 ^ 32 - 1040

def firstData : AttributeData :=
  ⟨List.replicate 1100 0, by rw [List.length_replicate]; decide⟩

theorem firstData_length : firstData.bytes.length = 1100 := List.length_replicate

theorem firstAttribute_length : (attributeOf (1, firstData)).1.len.toNat = 1104 := by
  rw [attributeOf, firstData_length]
  decide

theorem attributesFrom_zero {body : Bytes} {offset : Nat} {len : Int}
    (header : readAttribute body offset = some ⟨0, 0⟩) :
    attributesFrom body offset len = .ok [] := by
  by_cases short : len < 4
  · exact attributesFrom_short body offset short
  · rw [attributesFrom, if_neg short, header]
    dsimp only
    rw [dif_neg (fun ok => absurd ok.1 (by decide))]

theorem hugePayload_loses_attribute :
    ∃ request, Accepts ((⟨1, 0⟩ : Netlink).createMessage hugePayload 24 0).1
        [(1, firstData), (2, ⟨[], by decide⟩)] request ∧
      getAttributes hugePayload request = .ok (true, [attributeOf (1, firstData)]) := by
  obtain ⟨between, firstAdded, firstLen, firstWritten⟩ := addAttribute_accepts
    ((⟨1, 0⟩ : Netlink).createMessage hugePayload 24 0).1 1 firstData
    (by rw [firstData_length]; decide) (by decide) (by rw [firstData_length]; decide)
  rw [firstData_length] at firstLen
  have len : between.hdr.len = 80 := firstLen.trans (by decide)
  obtain ⟨after, secondAdded, secondLen, secondWritten⟩ :=
    addAttribute_accepts between 2 ⟨[], by decide⟩ (by rw [len]; decide) (by rw [len]; decide)
      (by rw [len]; decide)
  have lastLen : after.hdr.len = 84 := secondLen.trans (by rw [len]; decide)
  have firstOffset : NLMSG_ALIGN ((⟨1, 0⟩ : Netlink).createMessage hugePayload 24 0).1.hdr.len -
      NLMSG_HDRLEN = hugePayload := by decide
  have secondOffset : NLMSG_ALIGN between.hdr.len - NLMSG_HDRLEN = 64 := by
    rw [len]
    decide
  rw [firstOffset] at firstWritten
  rw [secondOffset] at secondWritten
  refine ⟨after, .snoc (.snoc (.nil _) firstAdded) secondAdded, ?_⟩
  obtain ⟨firstHeader, firstContent⟩ := @readAttribute_of_write _ _ _
    (attributeOf (1, firstData)).1 firstData.bytes firstWritten
  have kept {offset size : Nat} (behind : 68 ≤ offset) :
      after.body.read offset size = between.body.read offset size :=
    Bytes.read_write_behind secondWritten behind
  have header : readAttribute after.body hugePayload = some (attributeOf (1, firstData)).1 := by
    rw [← firstHeader, readAttribute, readAttribute, kept (by decide), kept (by decide)]
  have content : after.body.read (hugePayload + 4)
      ((attributeOf (1, firstData)).1.len.toNat - 4) = some firstData.bytes := by
    rw [firstData_length] at firstContent
    rw [kept (by decide), firstAttribute_length]
    exact firstContent
  have blank {offset : Nat} (behind : hugePayload + 1104 ≤ offset)
      (inside : offset + 2 ≤ hugePayload + 2048) :
      after.body.read offset 2 = some (List.replicate 2 0) := by
    rw [kept (by omega), Bytes.read_write_behind firstWritten]
    · exact Bytes.read_replicate inside
    · simp only [List.length_append, encode16_length, firstData_length]
      exact behind
  have last : readAttribute after.body (hugePayload + 1104) = some ⟨0, 0⟩ := by
    rw [readAttribute, blank (by decide) (by decide), blank (by decide) (by decide)]
    rfl
  have start : NLMSG_ALIGN hugePayload = hugePayload := by decide
  have total : toInt (after.hdr.len - NLMSG_LENGTH hugePayload) = 1108 := by
    rw [lastLen]
    decide
  rw [getAttributes, start, total,
    attributesFrom_step header (by rw [firstAttribute_length]; decide)
      (by rw [firstAttribute_length]; decide) content, firstAttribute_length,
    show RTA_ALIGN 1104 = 1104 by decide, attributesFrom_zero last]
  rfl

/-- Neither the width of the types nor the size of the payload can be left out. -/
theorem round_trip_fails :
    (¬ ∀ (self : Netlink) (payload : Nat) (type flags : Int)
        (list : List (Int × AttributeData)) (request : NetlinkRequest payload),
      payload % 4 = 0 → payload + 2064 < 2 ^ 32 →
      Accepts (self.createMessage payload type flags).1 list request →
      Returns request list id) ∧
    ¬ ∀ (self : Netlink) (payload : Nat) (type flags : Int)
        (list : List (Int × AttributeData)) (request : NetlinkRequest payload),
      payload % 4 = 0 → (∀ pair ∈ list, 0 ≤ pair.1 ∧ pair.1 < 2 ^ 16) →
      Accepts (self.createMessage payload type flags).1 list request →
      Returns request list id := by
  refine ⟨wide_type_is_lost, fun returns => ?_⟩
  obtain ⟨request, accepts, read⟩ := hugePayload_loses_attribute
  have types : ∀ pair ∈ [((1 : Int), firstData), (2, ⟨[], by decide⟩)],
      0 ≤ pair.1 ∧ pair.1 < 2 ^ 16 := by
    intro pair member
    rcases List.mem_pair.mp member with rfl | rfl
    · exact ⟨by decide, by decide⟩
    · exact ⟨by decide, by decide⟩
  obtain ⟨found, isFound, same⟩ :=
    returns ⟨1, 0⟩ hugePayload 24 0 _ request (by decide) types accepts
  rw [read] at isFound
  cases isFound
  exact absurd (congrArg List.length same) (by decide)

end Netlink

end SoftwareContainers
