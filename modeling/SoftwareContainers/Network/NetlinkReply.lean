import SoftwareContainers.Network.Netlink

namespace SoftwareContainers

namespace Bytes

theorem read_read {memory part : Bytes} {start length offset size : Nat}
    (found : memory.read start length = some part) (inside : offset + size ≤ length) :
    part.read offset size = memory.read (start + offset) size := by
  have partLength := read_length found
  unfold read at found
  split at found
  · rename_i startInside
    cases found
    unfold read
    rw [partLength, if_pos inside, if_pos (by omega), List.drop_take, List.drop_drop,
      List.take_take, Nat.min_eq_left (by omega)]
  · cases found

theorem exists_read {memory : Bytes} {offset size : Nat} (inside : offset + size ≤ memory.length) :
    ∃ bytes, memory.read offset size = some bytes := by
  unfold read
  exact ⟨_, if_pos inside⟩

theorem read_eq_none {memory : Bytes} {offset size : Nat}
    (outside : memory.length < offset + size) : memory.read offset size = none := by
  unfold read
  exact if_neg (Nat.not_le.mpr outside)

end Bytes

def decode32 : Bytes → Nat
  | [lowest, low, high, highest] =>
      lowest.toNat + 256 * low.toNat + 65536 * high.toNat + 16777216 * highest.toNat
  | _ => 0

namespace Netlink

/-! What `readMessage` does with the bytes it receives. -/

/-- The fields of a received header that are looked at. -/
structure ReceivedHdr where
  len : Nat
  type : UInt16
  deriving DecidableEq, Repr

abbrev NLMSG_ERROR : UInt16 := 2
abbrev NLMSG_DONE : UInt16 := 3

/-- The messages that are saved: `ifinfomsg`, `ifaddrmsg` and `rtmsg`. -/
inductive MsgType where
  | ifinfomsg
  | ifaddrmsg
  | rtmsg
  deriving DecidableEq, Repr

def MsgType.size : MsgType → Nat
  | .ifinfomsg => 16
  | .ifaddrmsg => 8
  | .rtmsg => 12

/-- `RTM_NEWLINK` and `RTM_GETLINK`, and the same for addresses and routes; nothing is done
with a message of any other type. -/
def savedAs (type : UInt16) : Option MsgType :=
  if type = 16 ∨ type = 18 then some .ifinfomsg
  else if type = 20 ∨ type = 22 then some .ifaddrmsg
  else if type = 24 ∨ type = 26 then some .rtmsg
  else none

structure Info where
  msg : Bytes
  attributes : List (RtAttr × Bytes)
  deriving DecidableEq, Repr

structure Cache where
  links : List Info
  addresses : List Info
  routes : List Info
  deriving DecidableEq

def Cache.empty : Cache := ⟨[], [], []⟩

def Cache.push (cache : Cache) (msgtype : MsgType) (info : Info) : Cache :=
  match msgtype with
  | .ifinfomsg => { cache with links := cache.links ++ [info] }
  | .ifaddrmsg => { cache with addresses := cache.addresses ++ [info] }
  | .rtmsg => { cache with routes := cache.routes ++ [info] }

def readHeader (buf : Bytes) (offset : Nat) : Option ReceivedHdr := do
  let len ← buf.read offset 4
  let type ← buf.read (offset + 4) 2
  return ⟨decode32 len, decode16 type⟩

/-- `saveMessage` and `getAttributes` for a message at an offset, with a `malloc` that
succeeds. -/
def saveMessage (msgtype : MsgType) (buf : Bytes) (offset len : Nat) : Except Fault Info := do
  let attributes ← attributesFrom buf (offset + NLMSG_HDRLEN + NLMSG_ALIGN msgtype.size)
    (toInt (len - NLMSG_LENGTH msgtype.size))
  match buf.read (offset + NLMSG_HDRLEN) msgtype.size with
  | none => throw .undefined
  | some msg => return ⟨msg, attributes⟩

/-- What follows from a message: `readMessage` returns, or it goes on, perhaps for the last
time. -/
inductive Next where
  | returns (status : Int)
  | goesOn (last : Bool)
  deriving DecidableEq

/-- The `switch` of `readMessage`. -/
def handle (buf : Bytes) (offset : Nat) (msg : ReceivedHdr) (cache : Cache) (last : Bool) :
    Except Fault (Cache × Next) := do
  if msg.type = NLMSG_ERROR then
    match buf.read (offset + NLMSG_HDRLEN) 4 with
    | none => throw .undefined
    | some error =>
        if toInt (decode32 error) ≠ 0 then
          return (cache, .returns (toInt (decode32 error)))
        else
          return (cache, .goesOn true)
  else if msg.type = NLMSG_DONE then
    return (cache, .goesOn true)
  else
    match savedAs msg.type with
    | none => return (cache, .goesOn last)
    | some msgtype =>
        let info ← saveMessage msgtype buf offset msg.len
        return (cache.push msgtype info, .goesOn last)

theorem align_pos {length : Nat} {len : Int} (atLeast : 16 ≤ length)
    (fits : (length : Int) ≤ len) (isInt : FitsInt len) : 16 ≤ NLMSG_ALIGN length := by
  unfold NLMSG_ALIGN FitsInt at *
  omega

/-- `NLMSG_OK` for a header. -/
def NLMSG_OK (msg : ReceivedHdr) (len : Int) : Prop :=
  NLMSG_HDRLEN ≤ msg.len ∧ (msg.len : Int) ≤ len

instance (msg : ReceivedHdr) (len : Int) : Decidable (NLMSG_OK msg len) :=
  inferInstanceAs (Decidable (_ ∧ _))

/-- The loop over the messages in the buffer, with `NLMSG_OK` as its condition and
`NLMSG_NEXT` as its step; `len` is an `int`. -/
def readBuffer (buf : Bytes) (offset : Nat) (len : Int) (cache : Cache) (last : Bool) :
    Except Fault (Cache × Next) :=
  if inside : 16 ≤ len ∧ FitsInt len then
    match readHeader buf offset with
    | none => .error .undefined
    | some msg =>
        if ok : NLMSG_OK msg len then
          match handle buf offset msg cache last with
          | .error error => .error error
          | .ok (cache, .returns status) => .ok (cache, .returns status)
          | .ok (cache, .goesOn last) =>
              have := align_pos ok.1 ok.2 inside.2
              readBuffer buf (offset + NLMSG_ALIGN msg.len) (len - NLMSG_ALIGN msg.len) cache
                last
        else
          .ok (cache, .goesOn last)
  else
    .ok (cache, .goesOn last)
termination_by len.toNat
decreasing_by omega

/-! The messages that the loop comes to. -/

def isError (buf : Bytes) (offset : Nat) (msg : ReceivedHdr) : Bool :=
  msg.type = NLMSG_ERROR &&
    match buf.read (offset + NLMSG_HDRLEN) 4 with
    | none => true
    | some error => decide (toInt (decode32 error) ≠ 0)

/-- With their offsets, up to an error. -/
def messagesFrom (buf : Bytes) (offset : Nat) (len : Int) : List (Nat × ReceivedHdr) :=
  if inside : 16 ≤ len ∧ FitsInt len then
    match readHeader buf offset with
    | none => []
    | some msg =>
        if ok : NLMSG_OK msg len then
          have := align_pos ok.1 ok.2 inside.2
          (offset, msg) ::
            if isError buf offset msg then []
            else messagesFrom buf (offset + NLMSG_ALIGN msg.len) (len - NLMSG_ALIGN msg.len)
        else []
  else []
termination_by len.toNat
decreasing_by omega

/-- What `recvmsg` leaves in the buffer, and its result: never more than there is room for. -/
structure Received where
  buf : Bytes
  len : Int
  isInt : FitsInt len
  inside : len ≤ buf.length

def Received.messages (received : Received) : List (Nat × ReceivedHdr) :=
  messagesFrom received.buf 0 received.len

section

variable {buf : Bytes} {offset : Nat} {len : Int} {msg : ReceivedHdr}

theorem readHeader_isSome (inside : offset + 16 ≤ buf.length) :
    ∃ msg, readHeader buf offset = some msg := by
  obtain ⟨length, isLength⟩ := Bytes.exists_read (show offset + 4 ≤ buf.length by omega)
  obtain ⟨type, isType⟩ := Bytes.exists_read (show offset + 4 + 2 ≤ buf.length by omega)
  refine ⟨⟨decode32 length, decode16 type⟩, ?_⟩
  rw [readHeader, isLength, isType]
  rfl

theorem messagesFrom_stop (stops : ¬ (16 ≤ len ∧ FitsInt len)) :
    messagesFrom buf offset len = [] := by
  rw [messagesFrom, dif_neg stops]

theorem messagesFrom_notOk (header : readHeader buf offset = some msg)
    (notOk : ¬ NLMSG_OK msg len) : messagesFrom buf offset len = [] := by
  rw [messagesFrom]
  split
  · rw [header]
    dsimp only
    rw [dif_neg notOk]
  · rfl

theorem messagesFrom_ok (inside : 16 ≤ len ∧ FitsInt len)
    (header : readHeader buf offset = some msg) (ok : NLMSG_OK msg len) :
    messagesFrom buf offset len = (offset, msg) ::
      if isError buf offset msg then []
      else messagesFrom buf (offset + NLMSG_ALIGN msg.len) (len - NLMSG_ALIGN msg.len) := by
  rw [messagesFrom, dif_pos inside, header]
  dsimp only
  rw [dif_pos ok]

/-- A message is in the bytes that are left when the loop comes to it. -/
structure Within (buf : Bytes) (offset : Nat) (len : Int) (start : Nat) (msg : ReceivedHdr) :
    Prop where
  header : readHeader buf start = some msg
  behind : offset ≤ start
  length : 16 ≤ msg.len
  inside : (start : Int) + msg.len ≤ offset + len

theorem within_of_mem {message : Nat × ReceivedHdr}
    (member : message ∈ messagesFrom buf offset len) :
    Within buf offset len message.1 message.2 := by
  fun_induction messagesFrom buf offset len with
  | case1 | case3 | case4 => cases member
  | case2 offset len inside msg header ok aligned ih =>
      rcases List.mem_cons.mp member with rfl | later
      · exact ⟨header, Nat.le_refl _, ok.1, by have := ok.2; dsimp only; omega⟩
      · split at later
        · cases later
        · have within := ih later
          exact ⟨within.header, Nat.le_trans (Nat.le_add_right _ _) within.behind, within.length,
            by have := within.inside; omega⟩

theorem length_messagesFrom :
    16 * (messagesFrom buf offset len).length ≤ len.toNat := by
  fun_induction messagesFrom buf offset len with
  | case1 | case3 | case4 => exact Nat.zero_le _
  | case2 offset len inside msg header ok aligned ih =>
      rw [List.length_cons]
      split
      · rw [List.length_nil]
        omega
      · omega

def handleEach (buf : Bytes) :
    List (Nat × ReceivedHdr) → Cache → Bool → Except Fault (Cache × Next)
  | [], cache, last => .ok (cache, .goesOn last)
  | (offset, msg) :: rest, cache, last =>
      match handle buf offset msg cache last with
      | .error error => .error error
      | .ok (cache, .returns status) => .ok (cache, .returns status)
      | .ok (cache, .goesOn last) => handleEach buf rest cache last

theorem handle_of_isError (isError : isError buf offset msg = true) (cache : Cache)
    (last : Bool) :
    handle buf offset msg cache last = .error .undefined ∨
      ∃ status, handle buf offset msg cache last = .ok (cache, .returns status) := by
  rw [Netlink.isError, Bool.and_eq_true, decide_eq_true_eq] at isError
  rw [handle, if_pos isError.1]
  split
  · exact .inl rfl
  · rename_i error read
    rw [read] at isError
    dsimp only at isError
    rw [if_pos (of_decide_eq_true isError.2)]
    exact .inr ⟨_, rfl⟩

theorem readBuffer_eq (inside : (offset : Int) + len ≤ buf.length) (cache : Cache)
    (last : Bool) :
    readBuffer buf offset len cache last =
      handleEach buf (messagesFrom buf offset len) cache last := by
  generalize size : len.toNat = bound
  induction bound using Nat.strongRecOn generalizing offset len cache last with
  | ind bound ih =>
      rw [readBuffer]
      by_cases range : 16 ≤ len ∧ FitsInt len
      · rw [dif_pos range]
        obtain ⟨msg, header⟩ := readHeader_isSome (show offset + 16 ≤ buf.length by omega)
        rw [header]
        dsimp only
        by_cases ok : NLMSG_OK msg len
        · rw [dif_pos ok, messagesFrom_ok range header ok, handleEach]
          have aligned := align_pos ok.1 ok.2 range.2
          by_cases error : isError buf offset msg = true
          · rcases handle_of_isError error cache last with undefined | ⟨status, returns⟩
            · rw [undefined]
            · rw [returns]
          · rw [if_neg error]
            cases handled : handle buf offset msg cache last with
            | error fault => rfl
            | ok outcome =>
                obtain ⟨cache, next⟩ := outcome
                cases next with
                | returns status => rfl
                | goesOn last => exact ih _ (by omega) (by omega) cache last rfl
        · rw [dif_neg ok, messagesFrom_notOk header ok, handleEach]
      · rw [dif_neg range, messagesFrom_stop range, handleEach]

end

end Netlink

end SoftwareContainers
