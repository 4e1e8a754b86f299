import SoftwareContainers.Network.NetlinkDump

namespace SoftwareContainers

/-- The members of `class Netlink` that a dump changes. -/
structure NetlinkCache where
  netlink : Netlink
  cache : Netlink.Cache
  hasKernelDump : Bool

namespace Netlink

abbrev RTM_GETLINK : Int := 18
abbrev RTM_GETADDR : Int := 22
abbrev RTM_GETROUTE : Int := 26
abbrev NLM_F_DUMP : Int := 0x300

def Cache.append (first second : Cache) : Cache :=
  ⟨first.links ++ second.links, first.addresses ++ second.addresses,
    first.routes ++ second.routes⟩

@[simp] theorem Cache.append_empty (cache : Cache) : cache.append .empty = cache := by
  simp [append, empty]

@[simp] theorem Cache.empty_append (cache : Cache) : Cache.empty.append cache = cache := rfl

theorem Cache.append_assoc (first second third : Cache) :
    (first.append second).append third = first.append (second.append third) := by
  simp [append]

theorem Cache.push_append (cache objects : Cache) (msgtype : MsgType) (info : Info) :
    (cache.append objects).push msgtype info = cache.append (objects.push msgtype info) := by
  cases msgtype <;> simp [append, push]

theorem Cache.append_eq_right {cache objects : Cache} :
    cache.append objects = objects ↔ cache = .empty := by
  constructor
  · intro same
    obtain ⟨links, addresses, routes⟩ := cache
    simp only [append] at same
    have sameLinks := congrArg Cache.links same
    have sameAddresses := congrArg Cache.addresses same
    have sameRoutes := congrArg Cache.routes same
    rw [List.append_left_eq_self] at sameLinks sameAddresses sameRoutes
    rw [sameLinks, sameAddresses, sameRoutes, empty]
  · rintro rfl
    exact empty_append objects

/-! What the messages of a reply are, whatever the cache holds before. -/

def objectOf (buf : Bytes) (message : Nat × ReceivedHdr) (objects : Cache) : Cache :=
  match savedAs message.2.type with
  | none => objects
  | some msgtype =>
      match saveMessage msgtype buf message.1 message.2.len with
      | .error _ => objects
      | .ok info => objects.push msgtype info

def Received.objects (received : Received) (objects : Cache) : Cache :=
  received.messages.foldl (fun objects message => objectOf received.buf message objects) objects

def Received.isLast (received : Received) : Bool :=
  received.len = 0 || received.messages.any isEnd

/-- What is received up to the end of the reply. -/
def untilLast : List Received → List Received
  | [] => []
  | received :: rest => if received.isLast then [received] else received :: untilLast rest

def Exchange.objects (exchange : Exchange) (objects : Cache) : Cache :=
  (untilLast exchange.receives).foldl (fun objects received => received.objects objects) objects

end Netlink

namespace NetlinkCache

open Netlink

/-- What the environment does about the three requests of a dump. -/
structure Attempt where
  link : Exchange
  addr : Exchange
  route : Exchange

/-- `createMessage` and `sendMessage` for a message of the generic family. -/
def request (self : NetlinkCache) (type : Int) (exchange : Exchange) :
    Except Fault (NetlinkCache × Option Bool) := do
  let created := self.netlink.createMessage 1 type NLM_F_DUMP
  let (cache, replied) ← sendMessage exchange self.cache
  return ({ self with netlink := created.2, cache }, replied)

/-- There is no result while a reply is waited for. -/
def getKernelDump (attempt : Attempt) (self : NetlinkCache) :
    Except Fault (NetlinkCache × Option Bool) := do
  let self := { self with hasKernelDump := false }
  let (self, linkReplied) ← self.request RTM_GETLINK attempt.link
  if linkReplied ≠ some true then
    return (self, linkReplied)
  else
    let (self, addrReplied) ← self.request RTM_GETADDR attempt.addr
    if addrReplied ≠ some true then
      return (self, addrReplied)
    else
      let (self, routeReplied) ← self.request RTM_GETROUTE attempt.route
      if routeReplied ≠ some true then
        return (self, routeReplied)
      else
        return ({ self with hasKernelDump := true }, some true)

def Attempt.objects (attempt : Attempt) : Cache :=
  attempt.route.objects (attempt.addr.objects (attempt.link.objects .empty))

def new (pid : Int) : NetlinkCache := ⟨⟨1, pid⟩, .empty, false⟩

/-- An attempt that has returned. -/
structure Entry where
  attempt : Attempt
  before : NetlinkCache
  after : NetlinkCache
  succeeded : Bool

inductive Attempts (pid : Int) : List Entry → NetlinkCache → Prop
  | none : Attempts pid [] (new pid)
  | more {log : List Entry} {before after : NetlinkCache} {attempt : Attempt}
      {succeeded : Bool} (attempts : Attempts pid log before)
      (returned : getKernelDump attempt before = .ok (after, some succeeded)) :
      Attempts pid (log ++ [⟨attempt, before, after, succeeded⟩]) after

end NetlinkCache

namespace Netlink

/-! A reply adds its objects to the cache. -/

theorem objectOf_append (buf : Bytes) (message : Nat × ReceivedHdr) (cache objects : Cache) :
    objectOf buf message (cache.append objects) =
      cache.append (objectOf buf message objects) := by
  rw [objectOf, objectOf]
  cases savedAs message.2.type with
  | none => rfl
  | some msgtype =>
      dsimp only
      cases saveMessage msgtype buf message.1 message.2.len with
      | error fault => rfl
      | ok info => exact Cache.push_append cache objects msgtype info

theorem foldl_append {α : Type} {add : α → Cache → Cache}
    (each : ∀ item (cache objects : Cache),
      add item (cache.append objects) = cache.append (add item objects))
    (items : List α) (cache objects : Cache) :
    items.foldl (fun objects item => add item objects) (cache.append objects) =
      cache.append (items.foldl (fun objects item => add item objects) objects) := by
  induction items generalizing objects with
  | nil => rfl
  | cons item rest ih =>
      rw [List.foldl_cons, each, ih, List.foldl_cons]

theorem Received.objects_append (received : Received) (cache objects : Cache) :
    received.objects (cache.append objects) = cache.append (received.objects objects) :=
  foldl_append (objectOf_append received.buf) received.messages cache objects

theorem Exchange.objects_append (exchange : Exchange) (cache objects : Cache) :
    exchange.objects (cache.append objects) = cache.append (exchange.objects objects) :=
  foldl_append Received.objects_append (untilLast exchange.receives) cache objects

section

variable {buf : Bytes} {offset : Nat} {msg : ReceivedHdr} {cache after : Cache} {last : Bool}
  {next : Next}

theorem handle_eq_ok (handled : handle buf offset msg cache last = .ok (after, next)) :
    after = objectOf buf (offset, msg) cache ∧
      (∀ more, next = .goesOn more →
        isError buf offset msg = false ∧ more = (last || isEnd (offset, msg))) ∧
      ∀ status, next = .returns status →
        isError buf offset msg = true ∧ isEnd (offset, msg) = true := by
  rw [handle] at handled
  by_cases error : msg.type = NLMSG_ERROR
  · have kept : objectOf buf (offset, msg) cache = cache := by
      have unsaved : savedAs msg.type = none := by rw [error]; decide
      rw [objectOf, unsaved]
    have ends : isEnd (offset, msg) = true := by
      rw [isEnd, decide_eq_true error, Bool.true_or]
    rw [if_pos error] at handled
    rw [kept, ends, isError, decide_eq_true error]
    cases read : buf.read (offset + NLMSG_HDRLEN) 4 with
    | none =>
        rw [read] at handled
        cases handled
    | some bytes =>
        rw [read] at handled
        dsimp only at handled
        by_cases negative : toInt (decode32 bytes) ≠ 0
        · rw [if_pos negative] at handled
          cases handled
          exact ⟨rfl, fun _ other => (by cases other),
            fun _ _ => ⟨by rw [Bool.true_and]; exact decide_eq_true negative, rfl⟩⟩
        · rw [if_neg negative] at handled
          cases handled
          refine ⟨rfl, fun more same => ?_, fun _ other => (by cases other)⟩
          cases same
          exact ⟨by rw [Bool.true_and]; exact decide_eq_false negative,
            (Bool.or_true last).symm⟩
  · have noError : isError buf offset msg = false := by
      rw [isError, decide_eq_false error, Bool.false_and]
    rw [if_neg error] at handled
    by_cases done : msg.type = NLMSG_DONE
    · have unsaved : savedAs msg.type = none := by rw [done]; decide
      rw [if_pos done] at handled
      cases handled
      refine ⟨by rw [objectOf, unsaved], fun more same => ?_, fun _ other => (by cases other)⟩
      cases same
      refine ⟨noError, ?_⟩
      rw [isEnd, decide_eq_true done, Bool.or_true, Bool.or_true]
    · have noEnd : isEnd (offset, msg) = false := by
        rw [isEnd, decide_eq_false error, decide_eq_false done, Bool.false_or]
      rw [if_neg done] at handled
      rw [noEnd, Bool.or_false]
      cases saved : savedAs msg.type with
      | none =>
          rw [saved] at handled
          cases handled
          refine ⟨by rw [objectOf, saved], fun more same => ?_, fun _ other => (by cases other)⟩
          cases same
          exact ⟨noError, rfl⟩
      | some msgtype =>
          rw [saved] at handled
          dsimp only at handled
          cases info : saveMessage msgtype buf offset msg.len with
          | error fault =>
              rw [info] at handled
              cases handled
          | ok object =>
              rw [info] at handled
              cases handled
              refine ⟨?_, fun more same => ?_, fun _ other => (by cases other)⟩
              · rw [objectOf, saved]
                dsimp only
                rw [info]
              · cases same
                exact ⟨noError, rfl⟩

def ErrorLast (buf : Bytes) : List (Nat × ReceivedHdr) → Prop
  | [] => True
  | message :: rest => (isError buf message.1 message.2 = true → rest = []) ∧ ErrorLast buf rest

theorem errorLast_messagesFrom (buf : Bytes) (offset : Nat) (len : Int) :
    ErrorLast buf (messagesFrom buf offset len) := by
  fun_induction messagesFrom buf offset len with
  | case1 | case3 | case4 => trivial
  | case2 offset len inside msg header ok aligned ih =>
      refine ⟨fun error => if_pos error, ?_⟩
      split
      · trivial
      · exact ih

theorem handleEach_eq_ok {messages : List (Nat × ReceivedHdr)}
    (errorLast : ErrorLast buf messages)
    (handled : handleEach buf messages cache last = .ok (after, next)) :
    after = messages.foldl (fun objects message => objectOf buf message objects) cache ∧
      (∀ more, next = .goesOn more → more = (last || messages.any isEnd)) ∧
      ∀ status, next = .returns status → messages.any isEnd = true := by
  induction messages generalizing cache last with
  | nil =>
      cases handled
      exact ⟨rfl, fun more same => by cases same; exact (Bool.or_false last).symm,
        fun _ other => (by cases other)⟩
  | cons message rest ih =>
      obtain ⟨alone, restLast⟩ := errorLast
      rw [handleEach] at handled
      rw [List.foldl_cons, List.any_cons]
      cases first : handle buf message.1 message.2 cache last with
      | error fault =>
          rw [first] at handled
          cases handled
      | ok outcome =>
          rw [first] at handled
          obtain ⟨between, firstNext⟩ := outcome
          obtain ⟨isObject, goesOn, returns⟩ := handle_eq_ok first
          cases firstNext with
          | returns status =>
              obtain ⟨error, ends⟩ := returns status rfl
              cases handled
              rw [alone error]
              exact ⟨isObject, fun _ other => (by cases other),
                fun _ _ => by rw [ends, Bool.true_or]⟩
          | goesOn more =>
              obtain ⟨_, isMore⟩ := goesOn more rfl
              obtain ⟨isFold, goesOnLater, returnsLater⟩ := ih restLast handled
              refine ⟨by rw [isFold, isObject], fun final same => ?_, fun status same => ?_⟩
              · rw [goesOnLater final same, isMore, Bool.or_assoc]
              · rw [returnsLater status same, Bool.or_true]

theorem readLoop_eq_ok {receives : List Received} {status : Int}
    (returned : readLoop receives cache = .ok (after, .returned status)) :
    after = (untilLast receives).foldl (fun objects received => received.objects objects)
      cache := by
  induction receives generalizing cache with
  | nil => cases returned
  | cons received rest ih =>
      rw [readLoop, readBuffer_received] at returned
      cases handled : handleEach received.buf received.messages cache
          (decide (received.len = 0)) with
      | error fault =>
          rw [handled] at returned
          cases returned
      | ok outcome =>
          rw [handled] at returned
          obtain ⟨between, next⟩ := outcome
          have errorLast : ErrorLast received.buf received.messages :=
            errorLast_messagesFrom _ _ _
          obtain ⟨isFold, goesOn, returns⟩ := handleEach_eq_ok errorLast handled
          have objects : between = received.objects cache := isFold
          cases next with
          | returns other =>
              have isLast : received.isLast = true := by
                rw [Received.isLast, returns other rfl, Bool.or_true]
              cases returned
              rw [untilLast, if_pos isLast]
              exact objects
          | goesOn more =>
              have isLast : received.isLast = more := (goesOn more rfl).symm
              rw [untilLast, isLast]
              cases more with
              | true =>
                  cases returned
                  exact objects
              | false =>
                  rw [if_neg Bool.false_ne_true, List.foldl_cons, ← objects]
                  exact ih returned

/-- Where a request is taken for acknowledged, all of its reply is in the cache. -/
theorem sendMessage_eq_ok {exchange : Exchange} {result : Bool}
    (sent : sendMessage exchange cache = .ok (after, some result)) :
    (result = true → after = exchange.objects cache) ∧
      ∃ saved, after = cache.append saved := by
  have unchanged (same : after = cache) (failed : result = false) :
      (result = true → after = exchange.objects cache) ∧ ∃ saved, after = cache.append saved := by
    refine ⟨fun succeeded => ?_, .empty, by rw [same, Cache.append_empty]⟩
    rw [failed] at succeeded
    cases succeeded
  rw [sendMessage, readMessage] at sent
  cases ready : exchange.ready with
  | false =>
      rw [ready] at sent
      cases sent
      exact unchanged rfl rfl
  | true =>
      rw [ready] at sent
      cases goes : exchange.sent with
      | false =>
          rw [goes] at sent
          cases sent
          exact unchanged rfl rfl
      | true =>
          rw [goes] at sent
          cases read : readLoop exchange.receives cache with
          | error fault =>
              rw [read] at sent
              cases sent
          | ok outcome =>
              rw [read] at sent
              obtain ⟨between, reply⟩ := outcome
              cases reply with
              | waiting => cases sent
              | returned status =>
                  have objects : between = exchange.objects cache := readLoop_eq_ok read
                  have same : after = between := by
                    change (if status < 0 then Except.ok (between, some false)
                      else Except.ok (between, some true)) = _ at sent
                    split at sent <;> cases sent <;> rfl
                  rw [same, objects]
                  refine ⟨fun _ => rfl, exchange.objects .empty, ?_⟩
                  rw [← Exchange.objects_append, Cache.append_empty]

end

end Netlink

namespace NetlinkCache

open Netlink

section

variable {attempt : Attempt} {before after : NetlinkCache} {succeeded : Bool}

theorem request_eq_ok {exchange : Exchange} {type : Int} {result : Option Bool}
    (asked : before.request type exchange = .ok (after, result)) :
    sendMessage exchange before.cache = .ok (after.cache, result) := by
  rw [request] at asked
  cases sent : sendMessage exchange before.cache with
  | error fault =>
      rw [sent] at asked
      cases asked
  | ok outcome =>
      rw [sent] at asked
      cases asked
      rfl

theorem getKernelDump_eq_ok
    (returned : getKernelDump attempt before = .ok (after, some succeeded)) :
    (succeeded = true → after.cache = before.cache.append attempt.objects) ∧
      ∃ saved, after.cache = before.cache.append saved := by
  rw [getKernelDump] at returned
  dsimp only at returned
  cases link : request { before with hasKernelDump := false } RTM_GETLINK attempt.link with
  | error fault =>
      rw [link] at returned
      cases returned
  | ok outcome =>
      rw [link] at returned
      obtain ⟨afterLink, linkReplied⟩ := outcome
      dsimp only [Bind.bind, Except.bind] at returned
      have sentLink := request_eq_ok link
      by_cases linkGoes : linkReplied = some true
      · obtain ⟨linkObjects, linkSaved, isLinkSaved⟩ := sendMessage_eq_ok (linkGoes ▸ sentLink)
        rw [if_neg (not_not.mpr linkGoes)] at returned
        cases addr : request afterLink RTM_GETADDR attempt.addr with
        | error fault =>
            rw [addr] at returned
            cases returned
        | ok outcome =>
            rw [addr] at returned
            obtain ⟨afterAddr, addrReplied⟩ := outcome
            dsimp only at returned
            have sentAddr := request_eq_ok addr
            by_cases addrGoes : addrReplied = some true
            · obtain ⟨addrObjects, addrSaved, isAddrSaved⟩ :=
                sendMessage_eq_ok (addrGoes ▸ sentAddr)
              rw [if_neg (not_not.mpr addrGoes)] at returned
              cases route : request afterAddr RTM_GETROUTE attempt.route with
              | error fault =>
                  rw [route] at returned
                  cases returned
              | ok outcome =>
                  rw [route] at returned
                  obtain ⟨afterRoute, routeReplied⟩ := outcome
                  dsimp only at returned
                  have sentRoute := request_eq_ok route
                  by_cases routeGoes : routeReplied = some true
                  · rw [if_neg (not_not.mpr routeGoes)] at returned
                    cases returned
                    obtain ⟨routeObjects, _⟩ := sendMessage_eq_ok (routeGoes ▸ sentRoute)
                    have whole : afterRoute.cache = before.cache.append attempt.objects := by
                      rw [routeObjects rfl, addrObjects rfl, linkObjects rfl, Attempt.objects,
                        ← Exchange.objects_append, ← Exchange.objects_append,
                        ← Exchange.objects_append, Cache.append_empty]
                    exact ⟨fun _ => whole, _, whole⟩
                  · rw [if_pos routeGoes] at returned
                    cases returned
                    obtain ⟨_, routeSaved, isRouteSaved⟩ := sendMessage_eq_ok sentRoute
                    refine ⟨fun same => absurd (same ▸ rfl) routeGoes,
                      linkSaved.append (addrSaved.append routeSaved), ?_⟩
                    rw [isRouteSaved, isAddrSaved, isLinkSaved, Cache.append_assoc,
                      Cache.append_assoc]
            · rw [if_pos addrGoes] at returned
              cases returned
              obtain ⟨_, addrSaved, isAddrSaved⟩ := sendMessage_eq_ok sentAddr
              refine ⟨fun same => absurd (same ▸ rfl) addrGoes, linkSaved.append addrSaved, ?_⟩
              rw [isAddrSaved, isLinkSaved, Cache.append_assoc]
      · rw [if_pos linkGoes] at returned
        cases returned
        obtain ⟨_, linkSaved, isLinkSaved⟩ := sendMessage_eq_ok sentLink
        exact ⟨fun same => absurd (same ▸ rfl) linkGoes, linkSaved, isLinkSaved⟩

end

/-! Runs of attempts. -/

def Entry.SavesNothing (entry : Entry) : Prop := entry.after.cache = entry.before.cache

/-- Whenever an attempt has succeeded, the cache is its dump. -/
def ExactDumps (log : List Entry) : Prop :=
  ∀ entry ∈ log, entry.succeeded = true → entry.after.cache = entry.attempt.objects

/-- No attempt before one that succeeds has saved anything. -/
def FirstToSave (log : List Entry) : Prop :=
  ∀ earlier entry later, log = earlier ++ entry :: later → entry.succeeded = true →
    ∀ other ∈ earlier, other.SavesNothing

theorem Cache.append_eq_empty {cache saved : Cache} (none : cache.append saved = .empty) :
    cache = .empty ∧ saved = .empty := by
  obtain ⟨links, addresses, routes⟩ := cache
  obtain ⟨moreLinks, moreAddresses, moreRoutes⟩ := saved
  simp only [Cache.append, Cache.empty, Cache.mk.injEq, List.append_eq_nil_iff] at none
  obtain ⟨⟨rfl, rfl⟩, ⟨rfl, rfl⟩, rfl, rfl⟩ := none
  exact ⟨rfl, rfl⟩

theorem Attempts.empty_iff {pid : Int} {log : List Entry} {self : NetlinkCache}
    (attempts : Attempts pid log self) :
    self.cache = .empty ↔ ∀ entry ∈ log, entry.SavesNothing := by
  induction attempts with
  | none => exact ⟨fun _ => List.forall_mem_nil _, fun _ => rfl⟩
  | @more log before after attempt succeeded attempts returned ih =>
      obtain ⟨_, saved, isSaved⟩ := getKernelDump_eq_ok returned
      rw [List.forall_mem_append, List.forall_mem_singleton, ← ih]
      constructor
      · intro none
        obtain ⟨noneBefore, _⟩ := Cache.append_eq_empty (isSaved.symm.trans none)
        exact ⟨noneBefore, none.trans noneBefore.symm⟩
      · rintro ⟨noneBefore, same⟩
        exact same.trans noneBefore

theorem getKernelDump_exact_iff {pid : Int} {log : List Entry} {self : NetlinkCache}
    (attempts : Attempts pid log self) : ExactDumps log ↔ FirstToSave log := by
  induction attempts with
  | none =>
      exact ⟨fun _ earlier entry later none => by simp at none, fun _ => List.forall_mem_nil _⟩
  | @more log before after attempt succeeded attempts returned ih =>
      obtain ⟨isDump, _⟩ := getKernelDump_eq_ok returned
      have lastExact : (succeeded = true → after.cache = attempt.objects) ↔
          (succeeded = true → ∀ other ∈ log, other.SavesNothing) := by
        refine imp_congr_right fun success => ?_
        rw [isDump success, Cache.append_eq_right, attempts.empty_iff]
      rw [ExactDumps, List.forall_mem_append, List.forall_mem_singleton]
      constructor
      · rintro ⟨exact, exactLast⟩ earlier entry later same success other member
        rcases List.eq_nil_or_concat later with rfl | ⟨front, last, rfl⟩
        · obtain ⟨rfl, sameEntry⟩ := List.append_inj' same rfl
          cases sameEntry
          exact lastExact.mp exactLast success other member
        · rw [List.concat_eq_append, ← List.cons_append, ← List.append_assoc] at same
          obtain ⟨rfl, _⟩ := List.append_inj' same rfl
          exact ih.mp exact earlier entry front rfl success other member
      · intro first
        refine ⟨ih.mpr fun earlier entry later same => ?_, lastExact.mpr ?_⟩
        · refine first earlier entry (later ++ [⟨attempt, before, after, succeeded⟩]) ?_
          rw [same, List.append_assoc, List.cons_append]
        · exact first log _ [] rfl

/-! The first attempt ends after the links, and the second one succeeds. -/

deriving instance DecidableEq for Netlink, NetlinkCache

def linkAndDone : Received where
  buf := [32, 0, 0, 0, 16, 0, 0, 0, 0, 0, 0, 0, 0, 0, 0, 0] ++ List.replicate 16 0 ++
    [16, 0, 0, 0, 3, 0, 0, 0, 0, 0, 0, 0, 0, 0, 0, 0]
  len := 48
  isInt := by decide
  inside := by decide

def doneOnly : Received where
  buf := [16, 0, 0, 0, 3, 0, 0, 0, 0, 0, 0, 0, 0, 0, 0, 0]
  len := 16
  isInt := by decide
  inside := by decide

def interrupted : Attempt :=
  ⟨⟨true, true, [linkAndDone]⟩, ⟨true, false, []⟩, ⟨true, true, []⟩⟩

def complete : Attempt :=
  ⟨⟨true, true, [linkAndDone]⟩, ⟨true, true, [doneOnly]⟩, ⟨true, true, [doneOnly]⟩⟩

def oneLink : Cache := ⟨[⟨List.replicate 16 0, []⟩], [], []⟩

def twoLinks : Cache := ⟨[⟨List.replicate 16 0, []⟩, ⟨List.replicate 16 0, []⟩], [], []⟩

def interruptedThenComplete : List Entry :=
  [⟨interrupted, new 0, ⟨⟨3, 0⟩, oneLink, false⟩, false⟩,
    ⟨complete, ⟨⟨3, 0⟩, oneLink, false⟩, ⟨⟨6, 0⟩, twoLinks, true⟩, true⟩]

theorem attempts_interruptedThenComplete :
    Attempts 0 interruptedThenComplete ⟨⟨6, 0⟩, twoLinks, true⟩ :=
  .more (.more .none (by decide +kernel)) (by decide +kernel)

theorem getKernelDump_exact_iff_interrupted :
    ExactDumps interruptedThenComplete ↔ FirstToSave interruptedThenComplete :=
  getKernelDump_exact_iff attempts_interruptedThenComplete

theorem links_are_doubled :
    Attempts 0 interruptedThenComplete ⟨⟨6, 0⟩, twoLinks, true⟩ ∧
      ¬ ExactDumps interruptedThenComplete := by
  refine ⟨attempts_interruptedThenComplete, fun exact => ?_⟩
  have same : twoLinks = complete.objects :=
    exact _ (List.mem_cons_of_mem _ (List.mem_singleton.mpr rfl)) rfl
  have objects : complete.objects = oneLink := by decide +kernel
  exact absurd (same.trans objects) (by decide)

end NetlinkCache

end SoftwareContainers
