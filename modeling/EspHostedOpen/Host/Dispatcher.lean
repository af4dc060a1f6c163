import EspHostedOpen.Host.Wrappers
import EspHostedOpen.Lib.Lease
import EspHostedOpen.Lib.Transition

/-!
# The request dispatcher (`phy_rpc.c`)

`do_call` and `on_response` between `esp_hosted_open_init` and `esp_hosted_open_deinit`, as one step
function over the steps that other tasks can come between: taking and giving the mutex, each slot
test, the reservation, the send, taking and giving a semaphore, each read of a result, the copy, and
the release of a slot, which happens without the mutex. A binary semaphore holds one token at most;
a take with a timeout fails only while there is none.

Any number of tasks run `do_call` (one `CallId` an invocation) and any number deliver messages to
`on_response` (one `RxId` a context, used again and again).
-/

namespace EspHostedOpen.Dispatcher

open ByteCodec Sharing

def maxInflight : Nat := 4

abbrev SlotId := Fin maxInflight
abbrev CallId := Nat
abbrev RxId := Nat

instance : NeZero maxInflight := ⟨by decide⟩

/-! ## State -/

/-- A message handed to `on_response`. -/
structure Response where
  msgId : UInt32
  data : List UInt8
  deriving DecidableEq, Repr

namespace Response

/-- `rhdr->op_id`. -/
def opId (m : Response) : UInt32 :=
  UInt32.ofNat (leNat (slice (phyRpcRespHdr.offset 0) 4 m.data))

/-- `rhdr->status`. -/
def status (m : Response) : EspErr :=
  (UInt32.ofNat (leNat (slice (phyRpcRespHdr.offset 1) 4 m.data))).toInt32

/-- What follows the header. -/
def body (m : Response) : List UInt8 := m.data.drop phyRpcRespHdr.sizeof

end Response

/-- An entry of `s_inflight`. `out_buf` is the call whose buffer it points to. -/
structure Inflight where
  done : Bool := false
  opId : UInt32 := 0
  wantRespId : UInt32 := 0
  outBuf : Option CallId := none
  outCap : Nat := 0
  outLen : Nat := 0
  status : EspErr := 0
  inUse : Bool := false
  deriving DecidableEq, Repr

/-- What a `do_call` got hold of: its arguments, its slot and its op_id. -/
structure Reservation where
  args : Call
  slot : SlotId
  opId : UInt32
  deriving DecidableEq, Repr

/-- What `do_call` returns: an error of its own, or the status and the body length it found in its
slot after taking the semaphore. -/
inductive CallResult
  | failed (err : EspErr)
  | completed (args : Call) (opId : UInt32) (status : EspErr) (bodyLen : Nat)
  deriving DecidableEq, Repr

/-- Where a `do_call` stands. -/
inductive CallPc
  | idle
  | entered (a : Call)                           -- before taking the mutex
  | scanning (a : Call) (i : Nat)                -- about to test slot `i`
  | noSlot                                       -- about to give the mutex and fail
  | found (a : Call) (k : SlotId)                -- about to fill the slot in
  | reserved (h : Reservation)                   -- about to give the mutex
  | ready (h : Reservation)                      -- about to send
  | sending (h : Reservation)                    -- inside `esp_hosted_send_custom_data`
  | waiting (h : Reservation)                    -- inside the take of `done`
  | took (h : Reservation)                       -- about to read the status
  | gotStatus (h : Reservation) (st : EspErr)    -- about to read the body length
  | clearing (h : Reservation) (r : CallResult)  -- about to clear `in_use`
  | returning (r : CallResult)
  | returned (r : CallResult)
  deriving DecidableEq, Repr

/-- Where an `on_response` stands. -/
inductive RxPc
  | idle
  | arrived (m : Response)                       -- before taking the mutex
  | scanning (m : Response) (i : Nat)            -- about to test slot `i`
  | matched (m : Response) (k : SlotId)          -- about to store the status
  | statusSet (m : Response) (k : SlotId)        -- about to copy the body
  | copied (m : Response) (k : SlotId)           -- about to give `done`
  | leaving                                      -- about to give the mutex
  deriving DecidableEq, Repr

inductive Agent
  | call (c : CallId)
  | rx (j : RxId)
  deriving DecidableEq, Repr

/-- The dispatcher, its tasks and the messages so far; `bufs` is what was last copied into the
buffer of a call, `allotted` how many op_ids were handed out. -/
structure State where
  mutex : Option Agent := none
  slots : SlotId → Inflight := fun _ => {}
  nextOpId : UInt32 := 1
  calls : CallId → CallPc := fun _ => .idle
  rxs : RxId → RxPc := fun _ => .idle
  bufs : CallId → List UInt8 := fun _ => []
  sent : List (UInt32 × List UInt8) := []
  delivered : List Response := []
  allotted : Nat := 0

namespace State

def setCall (s : State) (c : CallId) (pc : CallPc) : State :=
  { s with calls := Function.update s.calls c pc }

def setRx (s : State) (j : RxId) (pc : RxPc) : State :=
  { s with rxs := Function.update s.rxs j pc }

def setSlot (s : State) (k : SlotId) (sl : Inflight) : State :=
  { s with slots := Function.update s.slots k sl }

def setMutex (s : State) (owner : Option Agent) : State := { s with mutex := owner }

section Fields

variable (s : State) (c c' : CallId) (j j' : RxId) (k k' : SlotId) (pc : CallPc) (rpc : RxPc)
  (sl : Inflight)

@[simp] theorem setCall_self : (s.setCall c pc).calls c = pc := by simp [setCall]
@[simp] theorem setRx_self : (s.setRx j rpc).rxs j = rpc := by simp [setRx]
@[simp] theorem setSlot_self : (s.setSlot k sl).slots k = sl := by simp [setSlot]
@[simp] theorem setCall_slots : (s.setCall c pc).slots = s.slots := rfl

variable {c c' j j' k k'}

theorem setCall_ne (h : c' ≠ c) : (s.setCall c pc).calls c' = s.calls c' := by simp [setCall, h]
theorem setRx_ne (h : j' ≠ j) : (s.setRx j rpc).rxs j' = s.rxs j' := by simp [setRx, h]
theorem setSlot_ne (h : k' ≠ k) : (s.setSlot k sl).slots k' = s.slots k' := by simp [setSlot, h]

end Fields

end State

/-! ## Steps -/

/-- `respBodyCap` is 0 for the callers that pass `NULL`. -/
def outBuf (a : Call) (c : CallId) : Option CallId := if a.respBodyCap = 0 then none else some c

/-- The slot as the reservation leaves it; the semaphore is not touched. -/
def reserve (sl : Inflight) (c : CallId) (a : Call) (op : UInt32) : Inflight :=
  { sl with
    opId := op, wantRespId := a.respMsgId, outBuf := outBuf a c, outCap := a.respBodyCap
    outLen := 0, status := espFail, inUse := true }

/-- The next step of `do_call` of `c`, apart from the outcomes of the send and of the wait. -/
def callStep (s : State) (c : CallId) : Option State :=
  match s.calls c with
  | .entered a =>
    if s.mutex = none then some ((s.setMutex (some (.call c))).setCall c (.scanning a 0)) else none
  | .scanning a i =>
    if hi : i < maxInflight then
      if (s.slots ⟨i, hi⟩).inUse then some (s.setCall c (.scanning a (i + 1)))
      else some (s.setCall c (.found a ⟨i, hi⟩))
    else some (s.setCall c .noSlot)
  | .noSlot => some ((s.setMutex none).setCall c (.returning (.failed espErrNoMem)))
  | .found a k =>
    some <| ({ s with nextOpId := s.nextOpId + 1, allotted := s.allotted + 1 }.setSlot k
      (reserve (s.slots k) c a s.nextOpId)).setCall c (.reserved ⟨a, k, s.nextOpId⟩)
  | .reserved h => some ((s.setMutex none).setCall c (.ready h))
  | .ready h =>
    some ({ s with sent := s.sent ++ [(h.args.reqMsgId, requestBytes h.opId h.args)] }.setCall c
      (.sending h))
  | .waiting h =>
    if (s.slots h.slot).done then
      some ((s.setSlot h.slot { s.slots h.slot with done := false }).setCall c (.took h))
    else none
  | .took h => some (s.setCall c (.gotStatus h (s.slots h.slot).status))
  | .gotStatus h st =>
    some (s.setCall c (.clearing h (.completed h.args h.opId st (s.slots h.slot).outLen)))
  | .clearing h r =>
    some ((s.setSlot h.slot { s.slots h.slot with inUse := false }).setCall c (.returning r))
  | .returning r => some (s.setCall c (.returned r))
  | .idle | .sending _ | .returned _ => none

/-- The test of `on_response` for a slot. -/
def Inflight.awaits (sl : Inflight) (m : Response) : Bool :=
  sl.inUse && sl.opId == m.opId && sl.wantRespId == m.msgId

/-- The bytes copied: none without a buffer, and not more than it holds. -/
def Inflight.copyLen (sl : Inflight) (m : Response) : Nat :=
  if sl.outBuf = none then 0 else min m.body.length sl.outCap

/-- The branch with the `memcpy`. -/
def copyBody (s : State) (m : Response) (k : SlotId) : State :=
  match (s.slots k).outBuf with
  | none => s
  | some c =>
    if m.body = [] then s
    else
      let copy := (s.slots k).copyLen m
      { s with bufs := Function.update s.bufs c (m.body.take copy) }.setSlot k
        { s.slots k with outLen := copy }

/-- The next step of `on_response` in context `j`. -/
def rxStep (s : State) (j : RxId) : Option State :=
  match s.rxs j with
  | .arrived m =>
    if s.mutex = none then some ((s.setMutex (some (.rx j))).setRx j (.scanning m 0)) else none
  | .scanning m i =>
    if hi : i < maxInflight then
      if (s.slots ⟨i, hi⟩).awaits m then some (s.setRx j (.matched m ⟨i, hi⟩))
      else some (s.setRx j (.scanning m (i + 1)))
    else some (s.setRx j .leaving)
  | .matched m k =>
    some ((s.setSlot k { s.slots k with status := m.status }).setRx j (.statusSet m k))
  | .statusSet m k => some ((copyBody s m k).setRx j (.copied m k))
  | .copied _ k => some ((s.setSlot k { s.slots k with done := true }).setRx j .leaving)
  | .leaving => some ((s.setMutex none).setRx j .idle)
  | .idle => none

inductive Action
  | invoke (c : CallId) (a : Call) (malloc : Bool)
  | call (c : CallId)
  | sendResult (c : CallId) (err : EspErr)
  | timeout (c : CallId)
  | deliver (j : RxId) (m : Response)
  | rx (j : RxId)
  deriving DecidableEq, Repr

/-- What a task does next. A send ends with any result, a message arrives at any time. -/
def step (s : State) : Action → Option State
  | .invoke c a malloc =>
    match s.calls c with
    | .idle =>
      some (s.setCall c (if malloc then .entered a else .returning (.failed espErrNoMem)))
    | _ => none
  | .call c => callStep s c
  | .sendResult c err =>
    match s.calls c with
    | .sending h =>
      some (s.setCall c (if err = espOk then .waiting h else .clearing h (.failed err)))
    | _ => none
  | .timeout c =>
    match s.calls c with
    | .waiting h =>
      if (s.slots h.slot).done then none
      else some (s.setCall c (.clearing h (.failed espErrTimeout)))
    | _ => none
  | .deliver j m =>
    match s.rxs j with
    | .idle =>
      if m.data.length < phyRpcRespHdr.sizeof then some s
      else some ({ s with delivered := s.delivered ++ [m] }.setRx j (.arrived m))
    | _ => none
  | .rx j => rxStep s j

/-! ## What a step can do -/

/-- The steps one by one, each with what it found and what it leaves. -/
inductive Effect (s : State) : Action → State → Prop
  | enter {c a} (hc : s.calls c = .idle) : Effect s (.invoke c a true) (s.setCall c (.entered a))
  | noMem {c a} (hc : s.calls c = .idle) :
    Effect s (.invoke c a false) (s.setCall c (.returning (.failed espErrNoMem)))
  | take {c a} (hc : s.calls c = .entered a) (hfree : s.mutex = none) :
    Effect s (.call c) ((s.setMutex (some (.call c))).setCall c (.scanning a 0))
  | testUsed {c a i} {k : SlotId} (hc : s.calls c = .scanning a i) (hk : k.val = i)
    (huse : (s.slots k).inUse = true) :
    Effect s (.call c) (s.setCall c (.scanning a (i + 1)))
  | testFree {c a i} {k : SlotId} (hc : s.calls c = .scanning a i) (hk : k.val = i)
    (hfree : (s.slots k).inUse = false) :
    Effect s (.call c) (s.setCall c (.found a k))
  | full {c a i} (hc : s.calls c = .scanning a i) (hi : maxInflight ≤ i) :
    Effect s (.call c) (s.setCall c .noSlot)
  | giveUp {c} (hc : s.calls c = .noSlot) :
    Effect s (.call c) ((s.setMutex none).setCall c (.returning (.failed espErrNoMem)))
  | reserve {c a k} (hc : s.calls c = .found a k) :
    Effect s (.call c) (({ s with nextOpId := s.nextOpId + 1, allotted := s.allotted + 1 }.setSlot k
      (reserve (s.slots k) c a s.nextOpId)).setCall c (.reserved ⟨a, k, s.nextOpId⟩))
  | give {c h} (hc : s.calls c = .reserved h) :
    Effect s (.call c) ((s.setMutex none).setCall c (.ready h))
  | send {c h} (hc : s.calls c = .ready h) :
    Effect s (.call c)
      ({ s with sent := s.sent ++ [(h.args.reqMsgId, requestBytes h.opId h.args)] }.setCall c
        (.sending h))
  | sent {c h} (hc : s.calls c = .sending h) :
    Effect s (.sendResult c espOk) (s.setCall c (.waiting h))
  | sendFailed {c h err} (hc : s.calls c = .sending h) (herr : err ≠ espOk) :
    Effect s (.sendResult c err) (s.setCall c (.clearing h (.failed err)))
  | timeout {c h} (hc : s.calls c = .waiting h) (hdone : (s.slots h.slot).done = false) :
    Effect s (.timeout c) (s.setCall c (.clearing h (.failed espErrTimeout)))
  | takeDone {c h} (hc : s.calls c = .waiting h) (hdone : (s.slots h.slot).done = true) :
    Effect s (.call c)
      ((s.setSlot h.slot { s.slots h.slot with done := false }).setCall c (.took h))
  | readStatus {c h} (hc : s.calls c = .took h) :
    Effect s (.call c) (s.setCall c (.gotStatus h (s.slots h.slot).status))
  | readLen {c h st} (hc : s.calls c = .gotStatus h st) :
    Effect s (.call c)
      (s.setCall c (.clearing h (.completed h.args h.opId st (s.slots h.slot).outLen)))
  | clear {c h r} (hc : s.calls c = .clearing h r) :
    Effect s (.call c)
      ((s.setSlot h.slot { s.slots h.slot with inUse := false }).setCall c (.returning r))
  | ret {c r} (hc : s.calls c = .returning r) : Effect s (.call c) (s.setCall c (.returned r))
  | drop {j m} : Effect s (.deliver j m) s
  | arrive {j m} (hj : s.rxs j = .idle) :
    Effect s (.deliver j m) ({ s with delivered := s.delivered ++ [m] }.setRx j (.arrived m))
  | rxTake {j m} (hj : s.rxs j = .arrived m) (hfree : s.mutex = none) :
    Effect s (.rx j) ((s.setMutex (some (.rx j))).setRx j (.scanning m 0))
  | rxMatch {j m i} {k : SlotId} (hj : s.rxs j = .scanning m i) (hk : k.val = i)
    (hm : (s.slots k).awaits m = true) :
    Effect s (.rx j) (s.setRx j (.matched m k))
  | rxMiss {j m i} {k : SlotId} (hj : s.rxs j = .scanning m i) (hk : k.val = i)
    (hm : (s.slots k).awaits m = false) :
    Effect s (.rx j) (s.setRx j (.scanning m (i + 1)))
  | rxNone {j m i} (hj : s.rxs j = .scanning m i) (hi : maxInflight ≤ i) :
    Effect s (.rx j) (s.setRx j .leaving)
  | rxStatus {j m k} (hj : s.rxs j = .matched m k) :
    Effect s (.rx j) ((s.setSlot k { s.slots k with status := m.status }).setRx j (.statusSet m k))
  | rxCopy {j m k} (hj : s.rxs j = .statusSet m k) :
    Effect s (.rx j) ((copyBody s m k).setRx j (.copied m k))
  | rxGive {j m k} (hj : s.rxs j = .copied m k) :
    Effect s (.rx j) ((s.setSlot k { s.slots k with done := true }).setRx j .leaving)
  | rxLeave {j} (hj : s.rxs j = .leaving) : Effect s (.rx j) ((s.setMutex none).setRx j .idle)

theorem callStep_effect {s s' : State} {c : CallId} (h : callStep s c = some s') :
    Effect s (.call c) s' := by
  unfold callStep at h
  split at h
  · rename_i hc
    split at h
    · cases h
      exact .take hc ‹_›
    · cases h
  · rename_i hc
    split at h
    · split at h
      · cases h
        exact .testUsed hc rfl ‹_›
      · rename_i hfree
        cases h
        exact .testFree hc rfl (by simpa using hfree)
    · cases h
      exact .full hc (by omega)
  · cases h
    exact .giveUp ‹_›
  · cases h
    exact .reserve ‹_›
  · cases h
    exact .give ‹_›
  · cases h
    exact .send ‹_›
  · rename_i hc
    split at h
    · cases h
      exact .takeDone hc ‹_›
    · cases h
  · cases h
    exact .readStatus ‹_›
  · cases h
    exact .readLen ‹_›
  · cases h
    exact .clear ‹_›
  · cases h
    exact .ret ‹_›
  all_goals cases h

theorem rxStep_effect {s s' : State} {j : RxId} (h : rxStep s j = some s') :
    Effect s (.rx j) s' := by
  unfold rxStep at h
  split at h
  · rename_i hj
    split at h
    · cases h
      exact .rxTake hj ‹_›
    · cases h
  · rename_i hj
    split at h
    · split at h
      · cases h
        exact .rxMatch hj rfl ‹_›
      · rename_i hm
        cases h
        exact .rxMiss hj rfl (by simpa using hm)
    · cases h
      exact .rxNone hj (by omega)
  · cases h
    exact .rxStatus ‹_›
  · cases h
    exact .rxCopy ‹_›
  · cases h
    exact .rxGive ‹_›
  · cases h
    exact .rxLeave ‹_›
  · cases h

/-- **Inversion**: every step is one of these. -/
theorem step_effect {s s' : State} {a : Action} (h : step s a = some s') : Effect s a s' := by
  cases a with
  | invoke c a malloc =>
    simp only [step] at h
    split at h
    · cases h
      cases malloc with
      | true => exact .enter ‹_›
      | false => exact .noMem ‹_›
    · cases h
  | call c => exact callStep_effect h
  | sendResult c err =>
    simp only [step] at h
    split at h
    · rename_i hc
      cases h
      by_cases herr : err = espOk
      · subst herr
        exact .sent hc
      · rw [if_neg herr]
        exact .sendFailed hc herr
    · cases h
  | timeout c =>
    simp only [step] at h
    split at h
    · rename_i hc
      split at h
      · cases h
      · rename_i hdone
        cases h
        exact .timeout hc (by simpa using hdone)
    · cases h
  | deliver j m =>
    simp only [step] at h
    split at h
    · split at h
      · cases h
        exact .drop
      · cases h
        exact .arrive ‹_›
    · cases h
  | rx j => exact rxStep_effect h

end EspHostedOpen.Dispatcher
