import SoftwareContainers.Network.NetlinkReply

namespace SoftwareContainers.Netlink

/-! The replies to a request, and the cache that is filled from them. -/

/-- Whether `readMessage` has returned, or still waits for the next `recvmsg`. -/
inductive Reply where
  | waiting
  | returned (status : Int)
  deriving DecidableEq

/-- The loop of `readMessage`; without another result `recvmsg` blocks. -/
def readLoop : List Received → Cache → Except Fault (Cache × Reply)
  | [], cache => return (cache, .waiting)
  | received :: rest, cache => do
      match ← readBuffer received.buf 0 received.len cache (received.len = 0) with
      | (cache, .returns status) => return (cache, .returned status)
      | (cache, .goesOn last) =>
          if last then return (cache, .returned 0) else readLoop rest cache

/-- What the environment does about one request: whether the socket is set up, whether the
message is sent, and what is received. -/
structure Exchange where
  ready : Bool
  sent : Bool
  receives : List Received

def readMessage (exchange : Exchange) (cache : Cache) : Except Fault (Cache × Reply) :=
  if !exchange.ready then return (cache, .returned 1)
  else readLoop exchange.receives cache

/-- There is no result while `readMessage` waits. -/
def sendMessage (exchange : Exchange) (cache : Cache) : Except Fault (Cache × Option Bool) := do
  if !exchange.ready then
    return (cache, some false)
  else if !exchange.sent then
    return (cache, some false)
  else
    match ← readMessage exchange cache with
    | (cache, .waiting) => return (cache, none)
    | (cache, .returned status) =>
        -- a positive status is only logged
        if status < 0 then return (cache, some false) else return (cache, some true)

/-! Receiving that fails for good. -/

def isEnd (message : Nat × ReceivedHdr) : Bool :=
  message.2.type = NLMSG_ERROR || message.2.type = NLMSG_DONE

/-- Something has been received, or receiving has failed, and no message is an end. -/
def Received.Endless (received : Received) : Prop :=
  received.len ≠ 0 ∧ ∀ message ∈ received.messages, isEnd message = false

/-- From some point on every `recvmsg` fails, and until then there is no end. -/
def FailsForGood (receives : Nat → Received) : Prop :=
  ∃ point, (∀ later, point ≤ later → (receives later).len = -1) ∧
    ∀ earlier < point, (receives earlier).Endless

def firstResults (receives : Nat → Received) (count : Nat) : List Received :=
  (List.range count).map receives

/-- `readMessage` returns an error, and `sendMessage` returns false. -/
def ReportsFailure (receives : Nat → Received) (cache : Cache) : Prop :=
  ∃ count after status,
    readMessage ⟨true, true, firstResults receives count⟩ cache = .ok (after, .returned status) ∧
      status ≠ 0 ∧
      sendMessage ⟨true, true, firstResults receives count⟩ cache = .ok (after, some false)

theorem messages_of_failed {received : Received} (failed : received.len = -1) :
    received.messages = [] :=
  messagesFrom_stop (by rw [failed]; exact fun range => absurd range.1 (by decide))

theorem endless_of_failed {received : Received} (failed : received.len = -1) :
    received.Endless := by
  refine ⟨by rw [failed]; decide, ?_⟩
  rw [messages_of_failed failed]
  exact fun _ member => nomatch member

theorem handle_of_not_isEnd {buf : Bytes} {offset : Nat} {msg : ReceivedHdr}
    (notEnd : isEnd (offset, msg) = false) (cache : Cache) (last : Bool) :
    (∃ fault, handle buf offset msg cache last = .error fault) ∨
      ∃ after, handle buf offset msg cache last = .ok (after, .goesOn last) := by
  rw [isEnd, Bool.or_eq_false_iff, decide_eq_false_iff_not, decide_eq_false_iff_not] at notEnd
  rw [handle, if_neg notEnd.1, if_neg notEnd.2]
  cases savedAs msg.type with
  | none => exact .inr ⟨cache, rfl⟩
  | some msgtype =>
      dsimp only
      cases saveMessage msgtype buf offset msg.len with
      | error fault => exact .inl ⟨fault, rfl⟩
      | ok info => exact .inr ⟨_, rfl⟩

theorem handleEach_of_not_isEnd (buf : Bytes) (messages : List (Nat × ReceivedHdr))
    (noEnd : ∀ message ∈ messages, isEnd message = false) (cache : Cache) (last : Bool) :
    (∃ fault, handleEach buf messages cache last = .error fault) ∨
      ∃ after, handleEach buf messages cache last = .ok (after, .goesOn last) := by
  induction messages generalizing cache with
  | nil => exact .inr ⟨cache, rfl⟩
  | cons message rest ih =>
      obtain ⟨first, others⟩ := List.forall_mem_cons.mp noEnd
      rw [handleEach]
      rcases handle_of_not_isEnd first cache last with ⟨fault, failed⟩ | ⟨after, handled⟩
      · rw [failed]
        exact .inl ⟨fault, rfl⟩
      · rw [handled]
        exact ih others after

theorem readBuffer_received (received : Received) (cache : Cache) (last : Bool) :
    readBuffer received.buf 0 received.len cache last =
      handleEach received.buf received.messages cache last := by
  have inside := received.inside
  exact readBuffer_eq (by omega) cache last

theorem readLoop_of_endless (receives : List Received)
    (endless : ∀ received ∈ receives, received.Endless) (cache : Cache) :
    (∃ fault, readLoop receives cache = .error fault) ∨
      ∃ after, readLoop receives cache = .ok (after, .waiting) := by
  induction receives generalizing cache with
  | nil => exact .inr ⟨cache, rfl⟩
  | cons received rest ih =>
      obtain ⟨⟨nonzero, noEnd⟩, others⟩ := List.forall_mem_cons.mp endless
      rw [readLoop, readBuffer_received, decide_eq_false nonzero]
      rcases handleEach_of_not_isEnd received.buf _ noEnd cache false with
        ⟨fault, failed⟩ | ⟨after, handled⟩
      · rw [failed]
        exact .inl ⟨fault, rfl⟩
      · rw [handled]
        exact ih others after

theorem not_reportsFailure_of_endless {receives : Nat → Received}
    (endless : ∀ index, (receives index).Endless) (cache : Cache) :
    ¬ ReportsFailure receives cache := by
  rintro ⟨count, after, status, returned, _⟩
  have each : ∀ received ∈ firstResults receives count, received.Endless := by
    intro received member
    obtain ⟨index, _, rfl⟩ := List.mem_map.mp member
    exact endless index
  change readLoop (firstResults receives count) cache = _ at returned
  rcases readLoop_of_endless _ each cache with ⟨fault, failed⟩ | ⟨other, waits⟩
  · cases failed.symm.trans returned
  · cases waits.symm.trans returned

theorem FailsForGood.endless {receives : Nat → Received} (fails : FailsForGood receives)
    (index : Nat) : (receives index).Endless := by
  obtain ⟨point, failed, earlier⟩ := fails
  rcases Nat.lt_or_ge index point with before | later
  · exact earlier index before
  · exact endless_of_failed (failed index later)

/-- The loop goes on for ever. -/
theorem readMessage_never_reports {receives : Nat → Received} (fails : FailsForGood receives)
    (cache : Cache) : ¬ ReportsFailure receives cache :=
  not_reportsFailure_of_endless fails.endless cache

def failedReceive : Received := ⟨[], -1, by decide, by decide⟩

theorem closed_socket_is_never_reported :
    FailsForGood (fun _ => failedReceive) ∧
      ¬ ReportsFailure (fun _ => failedReceive) Cache.empty :=
  ⟨⟨0, fun _ _ => rfl, fun _ none => absurd none (Nat.not_lt_zero _)⟩,
    not_reportsFailure_of_endless (fun _ => endless_of_failed rfl) Cache.empty⟩

theorem readMessage_never_reports_closed :
    ¬ ReportsFailure (fun _ => failedReceive) Cache.empty :=
  readMessage_never_reports
    ⟨0, fun _ _ => rfl, fun _ none => absurd none (Nat.not_lt_zero _)⟩ Cache.empty

end SoftwareContainers.Netlink
