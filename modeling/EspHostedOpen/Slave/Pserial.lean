import EspHostedOpen.Lib.Transition
import EspHostedOpen.Slave.ReplyContract

/-!
# The RPC queue of the slave (`protocomm_pserial.c`, `slave_control.c`)

One bounded queue, `req_queue`, carries the requests of the host and every event for the host.
`pserial_task` is its only consumer, and it also runs the custom-RPC handlers, which answer through
`esp_hosted_send_custom_data`, that is, through the same queue, with a blocking `xQueueSend`.

`answers_never_block`: a handler sends once, so where no other task takes the last free place while
an answer is due, the consumer finds room for it. `last_place_blocks`: where one does, it does not,
and nobody ever makes room again (`blocked_forever`). `queue_deadlock` is a run of the shipped
queue.

Requests reach the queue whole: the reassembly of serial fragments is not modelled.
-/

namespace EspHostedOpen.Pserial

open ByteCodec Transition

/-! ## Into the queue -/

def rpcIdEventBase : Nat := 768
def rpcIdEventCustomRpc : Nat := 788
def rpcIdEventMax : Nat := 790
def unknownRpcMsgId : Nat := 0

/-- `REQ_Q_MAX`; 3 on the ESP32-C2. -/
def reqQMax : Nat := 10

/-- `serial_arg_t`, an entry of `req_queue`. -/
structure SerialArg where
  data : List UInt8
  msgId : Nat
  deriving DecidableEq, Repr

/-- `protocomm_pserial_data_ready` up to its `xQueueSend`: the entry, unless its copy could not be
allocated. -/
def protocommPserialDataReady (malloc : Bool) (data : List UInt8) (msgId : Nat) :
    Option SerialArg :=
  if data ≠ [] ∧ malloc = false then none else some { data := data, msgId := msgId }

/-- `send_event_data_to_host`, and `send_event_to_host` without data. -/
def sendEventDataToHost (malloc : Bool) (eventId : Nat) (data : List UInt8) : Option SerialArg :=
  protocommPserialDataReady malloc data eventId

/-- `esp_hosted_send_custom_data` on a buffer that is not `NULL`, up to the `xQueueSend` inside it.
`malloc` is for its own buffer, `malloc'` for the copy. -/
def espHostedSendCustomData (malloc malloc' : Bool) (msgId : UInt32) (data : List UInt8) :
    Except EspErr (Option SerialArg) :=
  if data = [] then .error espErrInvalidArg
  else if data.length > 8166 then .error espErrInvalidSize
  else if malloc = false then .error espErrNoMem
  else .ok (sendEventDataToHost malloc' rpcIdEventCustomRpc (u32Bytes msgId ++ data))

/-! ## State -/

/-- Where `pserial_task` stands. `todo` are the messages its handler has still to send. -/
inductive TaskPc
  | receiving
  | handling (todo : List (UInt32 × List UInt8))
  | enqueueing (arg : SerialArg) (todo : List (UInt32 × List UInt8))
  deriving DecidableEq, Repr

/-- The other tasks that fill the queue: the serial receive task, and those behind the promiscuous
forwarder and the CSI, FTM, ESP-NOW and Wi-Fi events. -/
inductive Producer
  | serialRx
  | other (t : Nat)
  deriving DecidableEq, Repr

/-- `producers p` is what `p` is inside `xQueueSend` with; `rx` and `rxValid` are the static buffer
of the serial port. -/
structure State where
  queue : List SerialArg := []
  task : TaskPc := .receiving
  producers : Producer → Option SerialArg := fun _ => none
  rx : List UInt8 := []
  rxValid : Bool := false
  statics : SlaveState := {}

/-- The length of the queue, the registered callbacks, and the custom-RPC request behind the bytes
of an entry (TLV framing and protobuf), `none` for every other request. -/
structure Config where
  reqQMax : Nat
  registry : SlaveRegistry
  unpack : List UInt8 → Option (UInt32 × List UInt8)

/-! ## The consumer -/

/-- What the request bytes make a handler do, from the statics `s`. -/
def reqCustomRpcHandler (cfg : Config) (env : Env) (bytes : List UInt8) (s : SlaveState) :
    SlaveState × List (UInt32 × List UInt8) :=
  match cfg.unpack bytes with
  | none => (s, [])
  | some (msgId, payload) =>
    match handleCustomRpcRequest cfg.registry msgId with
    | .error _ => (s, [])
    | .ok (cb, _) =>
      let o := cb ⟨env, payload⟩ s
      (o.state, sends o.events)

/-- `serial_read_data`: the bytes it leaves in the entry's buffer, cut to the length it returns. -/
def serialReadData (s : State) (data : List UInt8) : List UInt8 :=
  let len := min data.length s.rx.length
  if s.rxValid then s.rx.take len else data.take len

/-- One turn of the loop of `pserial_task`, up to the end of the handler's own text. Events are sent
on to the host over another queue. -/
def handleEntry (cfg : Config) (env : Env) (arg : SerialArg) (s : State) : State :=
  if rpcIdEventBase < arg.msgId ∧ arg.msgId < rpcIdEventMax then { s with task := .handling [] }
  else
    let bytes := serialReadData s arg.data
    let s' := if s.rxValid then { s with rx := [], rxValid := false } else s
    if bytes = [] then { s' with task := .handling [] }
    else
      let o := reqCustomRpcHandler cfg env bytes s.statics
      { s' with task := .handling o.2, statics := o.1 }

/-! ## Steps -/

inductive Action
  | serialRx (data : List UInt8) (malloc : Bool)
  | event (t : Nat) (malloc : Bool) (eventId : Nat) (data : List UInt8)
  | customData (t : Nat) (malloc malloc' : Bool) (msgId : UInt32) (data : List UInt8)
  | enqueue (p : Producer)
  | receive (env : Env)
  | answer (malloc malloc' : Bool)
  | enqueueAnswer
  | finish

/-- `p` is inside `xQueueSend` with an entry. -/
def State.setProducer (s : State) (p : Producer) (arg : Option SerialArg) : State :=
  { s with producers := fun q => if q = p then arg else s.producers q }

/-- What a task does next. `xQueueSend(portMAX_DELAY)` goes on only while there is room. -/
def step (cfg : Config) (s : State) : Action → Option State
  | .serialRx data malloc =>
    if s.rxValid = false ∧ s.producers .serialRx = none then
      some ({ s with rx := data, rxValid := true }.setProducer .serialRx
        (protocommPserialDataReady malloc data unknownRpcMsgId))
    else none
  | .event t malloc eventId data =>
    if s.producers (.other t) = none then
      some (s.setProducer (.other t) (sendEventDataToHost malloc eventId data))
    else none
  | .customData t malloc malloc' msgId data =>
    if s.producers (.other t) = none then
      match espHostedSendCustomData malloc malloc' msgId data with
      | .ok arg => some (s.setProducer (.other t) arg)
      | .error _ => some s
    else none
  | .enqueue p =>
    match s.producers p with
    | some arg =>
      if s.queue.length < cfg.reqQMax then
        some ({ s with queue := s.queue ++ [arg] }.setProducer p none)
      else none
    | none => none
  | .receive env =>
    match s.task, s.queue with
    | .receiving, arg :: queue => some (handleEntry cfg env arg { s with queue := queue })
    | _, _ => none
  | .answer malloc malloc' =>
    match s.task with
    | .handling ((msgId, data) :: todo) =>
      match espHostedSendCustomData malloc malloc' msgId data with
      | .ok (some arg) => some { s with task := .enqueueing arg todo }
      | _ => some { s with task := .handling todo }
    | _ => none
  | .enqueueAnswer =>
    match s.task with
    | .enqueueing arg todo =>
      if s.queue.length < cfg.reqQMax then
        some { s with queue := s.queue ++ [arg], task := .handling todo }
      else none
    | _ => none
  | .finish =>
    match s.task with
    | .handling [] => some { s with task := .receiving }
    | _ => none

/-! ## Blocking -/

/-- `pserial_task` waits for room in the queue that only itself empties. -/
def Blocked (cfg : Config) (s : State) : Prop :=
  (∃ arg todo, s.task = .enqueueing arg todo) ∧ cfg.reqQMax ≤ s.queue.length

/-- The answers `pserial_task` has still to queue before it takes the next entry. -/
def TaskPc.due : TaskPc → Nat
  | .receiving => 0
  | .handling todo => todo.length
  | .enqueueing _ todo => todo.length + 1

/-- No other task takes the last free place while an answer is due. -/
def LeavesRoom (cfg : Config) (s : State) : Action → Prop
  | .enqueue _ => 0 < s.task.due → s.queue.length + 1 < cfg.reqQMax
  | _ => True

/-- **The invariant** of the guarded runs: one answer is due at most, and there is room for it. -/
structure Room (cfg : Config) (s : State) : Prop where
  once : s.task.due ≤ 1
  fits : s.queue.length + s.task.due ≤ cfg.reqQMax

/-- Every registered callback sends one message at most. -/
def AnswersOnce (cfg : Config) : Prop :=
  ∀ {msgId cb ctx}, handleCustomRpcRequest cfg.registry msgId = .ok (cb, ctx) →
    ∀ (r : Input) (s : SlaveState), (sends (cb r s).events).length ≤ 1

/-- The queue length `n` and the tables of the overlay, registered into `slots` slots. -/
def slaveConfig (n : Nat) (made : UInt32 → Bool) (slots : Nat)
    (unpack : List UInt8 → Option (UInt32 × List UInt8)) : Config :=
  { reqQMax := n, registry := slaveRegistry made slots, unpack := unpack }

/-- The contract of the handlers, for what the registry can answer. -/
theorem answersOnce_slaveConfig (n : Nat) (made : UInt32 → Bool) (slots : Nat)
    (unpack : List UInt8 → Option (UInt32 × List UInt8)) :
    AnswersOnce (slaveConfig n made slots unpack) := by
  intro msgId cb ctx hfound r s
  have hrow : (msgId, cb) ∈ rows (fromMutex made) := by
    rw [slaveConfig, slaveRegistry_eq] at hfound
    exact mem_of_handleCustomRpcRequest_layout hfound
  obtain ⟨rpc, -, heq⟩ := List.mem_map.1 hrow
  cases heq
  have hobeys := (handler_obeys rpc r s).2
  split at hobeys
  · rw [hobeys]
    exact Nat.zero_le 1
  · obtain ⟨m, hm, -⟩ := hobeys
    rw [hm]
    exact Nat.le_refl 1

section Steps

variable {cfg : Config} {s s' : State}

theorem handleEntry_queue (cfg : Config) (env : Env) (arg : SerialArg) (s : State) :
    (handleEntry cfg env arg s).queue = s.queue := by
  unfold handleEntry
  split
  · rfl
  · dsimp only
    split <;> split <;> rfl

theorem length_reqCustomRpcHandler (h : AnswersOnce cfg) (env : Env) (bytes : List UInt8)
    (s : SlaveState) : (reqCustomRpcHandler cfg env bytes s).2.length ≤ 1 := by
  unfold reqCustomRpcHandler
  split
  · exact Nat.zero_le 1
  · split
    · exact Nat.zero_le 1
    · rename_i hfound
      exact h hfound _ s

theorem handleEntry_due (h : AnswersOnce cfg) (env : Env) (arg : SerialArg) (s : State) :
    (handleEntry cfg env arg s).task.due ≤ 1 := by
  unfold handleEntry
  split
  · exact Nat.zero_le 1
  · dsimp only
    split
    · exact Nat.zero_le 1
    · exact length_reqCustomRpcHandler h env _ _

/-- Only the queue and the consumer matter. -/
theorem Room.congr (h : Room cfg s) (hqueue : s'.queue = s.queue) (htask : s'.task = s.task) :
    Room cfg s' :=
  ⟨htask ▸ h.once, by rw [hqueue, htask]; exact h.fits⟩

/-- **One step** leaves room for the answer. -/
theorem room_step {a : Action} (hcfg : AnswersOnce cfg) (h : Room cfg s) (hG : LeavesRoom cfg s a)
    (hstep : step cfg s a = some s') : Room cfg s' := by
  have honce := h.once
  have hfits := h.fits
  cases a with
  | serialRx data malloc | event t malloc eventId data =>
    simp only [step] at hstep
    split at hstep <;> cases hstep
    exact h.congr rfl rfl
  | customData t malloc malloc' msgId data =>
    simp only [step] at hstep
    split at hstep
    · split at hstep <;> cases hstep
      · exact h.congr rfl rfl
      · exact h
    · cases hstep
  | enqueue p =>
    simp only [step] at hstep
    split at hstep
    · split at hstep <;> cases hstep
      rename_i arg harg hroom
      refine ⟨honce, ?_⟩
      show (s.queue ++ [arg]).length + s.task.due ≤ cfg.reqQMax
      rw [List.length_append, List.length_singleton]
      by_cases hdue : 0 < s.task.due
      · have hleft := hG hdue
        omega
      · omega
    · cases hstep
  | receive env =>
    simp only [step] at hstep
    split at hstep
    · rename_i arg queue htask hqueue
      cases hstep
      rw [htask, hqueue, List.length_cons] at hfits
      have hdue := handleEntry_due hcfg env arg { s with queue := queue }
      refine ⟨hdue, ?_⟩
      rw [handleEntry_queue]
      show queue.length + _ ≤ cfg.reqQMax
      omega
    · cases hstep
  | answer malloc malloc' =>
    simp only [step] at hstep
    split at hstep
    · rename_i msgId data todo htask
      rw [htask] at honce hfits
      split at hstep
      · cases hstep
        exact ⟨honce, hfits⟩
      · cases hstep
        have hless : todo.length ≤ (TaskPc.handling ((msgId, data) :: todo)).due :=
          Nat.le_succ todo.length
        exact ⟨Nat.le_trans hless honce, Nat.le_trans (Nat.add_le_add_left hless _) hfits⟩
    · cases hstep
  | enqueueAnswer =>
    simp only [step] at hstep
    split at hstep
    · rename_i arg todo htask
      rw [htask] at honce hfits
      split at hstep <;> cases hstep
      have hdue : (TaskPc.enqueueing arg todo).due = todo.length + 1 := rfl
      rw [hdue] at honce hfits
      refine ⟨?_, ?_⟩
      · show todo.length ≤ 1
        omega
      · show (s.queue ++ [arg]).length + todo.length ≤ cfg.reqQMax
        rw [List.length_append, List.length_singleton]
        omega
    · cases hstep
  | finish =>
    simp only [step] at hstep
    split at hstep
    · rename_i htask
      cases hstep
      rw [htask] at hfits
      exact ⟨Nat.zero_le 1, hfits⟩
    · cases hstep

theorem Room.not_blocked (h : Room cfg s) : ¬Blocked cfg s := by
  rintro ⟨⟨arg, todo, htask⟩, hfull⟩
  have hfits := h.fits
  have hdue : s.task.due = todo.length + 1 := by rw [htask]; rfl
  omega

end Steps

/-- **The consumer never blocks on its own queue** in a run that leaves room for its answers. -/
theorem answers_never_block {n : Nat} {made : UInt32 → Bool} {slots : Nat}
    {unpack : List UInt8 → Option (UInt32 × List UInt8)} {s : State}
    (h : Reach (step (slaveConfig n made slots unpack))
    (LeavesRoom (slaveConfig n made slots unpack))
      {} s) : ¬Blocked (slaveConfig n made slots unpack) s := by
  have hroom : Room (slaveConfig n made slots unpack) s := by
    have hinit : Room (slaveConfig n made slots unpack) {} := ⟨Nat.zero_le 1, Nat.zero_le n⟩
    refine h.invariant hinit ?_
    intro s s' a hroom hG hstep
    exact room_step (answersOnce_slaveConfig n made slots unpack) hroom hG hstep
  exact hroom.not_blocked

section Deadlock

variable {cfg : Config} {s s' : State}

/-- No step of any task ends the wait. -/
theorem blocked_step {a : Action} (h : Blocked cfg s) (hstep : step cfg s a = some s') :
    Blocked cfg s' := by
  obtain ⟨⟨arg, todo, htask⟩, hfull⟩ := h
  have hnot : ¬s.queue.length < cfg.reqQMax := by omega
  cases a with
  | serialRx data malloc | event t malloc eventId data =>
    simp only [step] at hstep
    split at hstep <;> cases hstep
    exact ⟨⟨arg, todo, htask⟩, hfull⟩
  | customData t malloc malloc' msgId data =>
    simp only [step] at hstep
    split at hstep
    · split at hstep <;> cases hstep <;> exact ⟨⟨arg, todo, htask⟩, hfull⟩
    · cases hstep
  | enqueue p =>
    simp only [step, if_neg hnot] at hstep
    split at hstep <;> cases hstep
  | enqueueAnswer =>
    simp only [step, htask, if_neg hnot] at hstep
    cases hstep
  | receive env | answer malloc malloc' | finish =>
    simp only [step, htask] at hstep
    cases hstep

/-- **The deadlock is permanent.** -/
theorem blocked_forever (h : Blocked cfg s) (hreach : Reach (step cfg) Free s s') :
    Blocked cfg s' :=
  hreach.invariant h fun hb _ hstep => blocked_step hb hstep

/-- **The condition is exact**: once another task takes the last free place while an answer is due
that can be sent, `pserial_task` blocks on it. -/
theorem last_place_blocks {p : Producer} {arg : SerialArg} {msgId : UInt32} {data : List UInt8}
    {todo : List (UInt32 × List UInt8)} (hp : s.producers p = some arg)
    (htask : s.task = .handling ((msgId, data) :: todo)) (hdata : data ≠ [] ∧ data.length ≤ 8166)
    (hlast : s.queue.length + 1 = cfg.reqQMax) :
    ∃ s', Reach (step cfg) Free s s' ∧ Blocked cfg s' := by
  let s₁ := ({ s with queue := s.queue ++ [arg] }).setProducer p none
  have hstep₁ : step cfg s (.enqueue p) = some s₁ := by
    simp only [step, hp, if_pos (show s.queue.length < cfg.reqQMax by omega)]
    rfl
  have htask₁ : s₁.task = .handling ((msgId, data) :: todo) := htask
  have hsend : espHostedSendCustomData true true msgId data =
      .ok (some { data := u32Bytes msgId ++ data, msgId := rpcIdEventCustomRpc }) := by
    have hshort : ¬data.length > 8166 := by omega
    simp [espHostedSendCustomData, sendEventDataToHost, protocommPserialDataReady, hdata.1, hshort]
  let s₂ := { s₁ with task := .enqueueing ⟨u32Bytes msgId ++ data, rpcIdEventCustomRpc⟩ todo }
  have hstep₂ : step cfg s₁ (.answer true true) = some s₂ := by
    simp only [step, htask₁, hsend]
    rfl
  refine ⟨s₂, (Reach.init.step trivial hstep₁).step trivial hstep₂, ⟨_, todo, rfl⟩, ?_⟩
  show cfg.reqQMax ≤ (s.queue ++ [arg]).length
  rw [List.length_append, List.length_singleton]
  omega

end Deadlock

/-! ## Two runs -/

/-- SET_CHANNEL of channel 180 as the host sends it: the endpoint `RPCRsp`, then `Rpc` with
`req_custom_rpc`. -/
def setChannelBytes : List UInt8 :=
  [1, 6, 0, 82, 80, 67, 82, 115, 112, 2, 23, 0, 8, 1, 16, 132, 3, 24, 1, 162, 24, 13, 8,
    129, 128, 212, 139, 12, 18, 5, 1, 0, 0, 0, 180]

/-- The framing of these bytes alone. -/
def unpackSetChannel (bytes : List UInt8) : Option (UInt32 × List UInt8) :=
  if bytes = setChannelBytes then some (Rpc.setChannel.req, [1, 0, 0, 0, 180]) else none

/-- The shipped queue, with the 16 slots of `sdkconfig.defaults`. -/
def shippedConfig : Config := slaveConfig reqQMax (fun _ => true) 16 unpackSetChannel

def setChannelAnswer : UInt32 × List UInt8 := (Rpc.setChannel.resp, [1, 0, 0, 0, 0, 0, 0, 0])

/-- The handler runs on a chip where every call succeeds. -/
theorem reqCustomRpcHandler_setChannel :
    reqCustomRpcHandler shippedConfig bareChip setChannelBytes {} = ({}, [setChannelAnswer]) := by
  have hunpack : shippedConfig.unpack setChannelBytes =
    some (Rpc.setChannel.req, [1, 0, 0, 0, 180]) := by
    show unpackSetChannel setChannelBytes = _
    rw [unpackSetChannel, if_pos rfl]
  have hregistry : shippedConfig.registry = slaveRegistry (fun _ => true) 16 := by
    rw [shippedConfig, slaveConfig]
  have hfound : handleCustomRpcRequest shippedConfig.registry Rpc.setChannel.req =
      .ok (Rpc.setChannel.handler, none) := by
    rw [hregistry, lookup_eq, if_pos (by decide)]
  rw [reqCustomRpcHandler, hunpack]
  simp only [hfound]
  rfl

/-- **The request comes in and its handler runs**: the answer is due, and the queue is empty. -/
theorem setChannel_due :
    ∃ s, Reach (step shippedConfig) (LeavesRoom shippedConfig) {} s ∧
      s.task = .handling [setChannelAnswer] ∧ s.queue = [] ∧ s.producers (.other 0) = none := by
  let arg : SerialArg := { data := setChannelBytes, msgId := unknownRpcMsgId }
  let s₁ := ({ rx := setChannelBytes, rxValid := true } : State).setProducer .serialRx (some arg)
  let s₂ := ({ s₁ with queue := [arg] }).setProducer .serialRx none
  let s₃ :=
    { s₂ with queue := [], rx := [], rxValid := false, task := .handling [setChannelAnswer] }
  have hstep₁ : step shippedConfig {} (.serialRx setChannelBytes true) = some s₁ := rfl
  have hstep₂ : step shippedConfig s₁ (.enqueue .serialRx) = some s₂ := rfl
  have hstep₃ : step shippedConfig s₂ (.receive bareChip) = some s₃ := by
    show some (handleEntry shippedConfig bareChip arg { s₂ with queue := [] }) = some s₃
    have hread : serialReadData { s₂ with queue := [] } arg.data = setChannelBytes := rfl
    have hne : setChannelBytes ≠ [] := by decide
    rw [handleEntry, if_neg (by decide), hread]
    simp only [if_neg hne]
    rw [show ({ s₂ with queue := [] } : State).statics = {} from rfl,
      reqCustomRpcHandler_setChannel]
    rfl
  have hreach₁ : Reach (step shippedConfig) (LeavesRoom shippedConfig) {} s₁ :=
    Reach.init.step (a := .serialRx setChannelBytes true) trivial hstep₁
  have hnone : LeavesRoom shippedConfig s₁ (.enqueue .serialRx) := fun hdue =>
    absurd hdue (by decide)
  have hreach₂ := hreach₁.step hnone hstep₂
  exact ⟨s₃, hreach₂.step (a := .receive bareChip) trivial hstep₃, rfl, rfl, rfl⟩

/-- Events of another task fill the queue as far as there is room. -/
theorem events_fill {cfg : Config} {s : State} (hidle : s.producers (.other 0) = none) {k : Nat}
    (hroom : s.queue.length + k ≤ cfg.reqQMax) :
    ∃ s', Reach (step cfg) Free s s' ∧ s'.task = s.task ∧ s'.producers (.other 0) = none ∧
      s'.queue.length = s.queue.length + k := by
  induction k with
  | zero => exact ⟨s, .init, rfl, hidle, rfl⟩
  | succ k ih =>
    obtain ⟨s', hreach, htask, hidle', hlen⟩ := ih (by omega)
    let arg : SerialArg := { data := [], msgId := 775 }
    let s₁ := s'.setProducer (.other 0) (some arg)
    let s₂ := ({ s₁ with queue := s'.queue ++ [arg] }).setProducer (.other 0) none
    have hstep₁ : step cfg s' (.event 0 true 775 []) = some s₁ := by
      simp only [step, hidle']
      rfl
    have hfull : s₁.queue.length < cfg.reqQMax := by
      show s'.queue.length < cfg.reqQMax
      omega
    have hset : s₁.producers (.other 0) = some arg := rfl
    have hstep₂ : step cfg s₁ (.enqueue (.other 0)) = some s₂ := by
      simp only [step, hset, if_pos hfull]
      rfl
    refine ⟨s₂, (hreach.step trivial hstep₁).step trivial hstep₂, htask, rfl, ?_⟩
    show (s'.queue ++ [arg]).length = _
    rw [List.length_append, List.length_singleton, hlen]
    omega

theorem answers_never_block_setChannel :
    ∃ s, Reach (step shippedConfig) (LeavesRoom shippedConfig) {} s ∧
      s.task = .handling [setChannelAnswer] ∧ ¬Blocked shippedConfig s := by
  obtain ⟨s, hreach, htask, -⟩ := setChannel_due
  exact ⟨s, hreach, htask, answers_never_block hreach⟩

/-- **The deadlock**: ten events come in while SET_CHANNEL runs, and its answer finds the queue
full. -/
theorem queue_deadlock : ∃ s, Reach (step shippedConfig) Free {} s ∧ Blocked shippedConfig s := by
  obtain ⟨s, hreach, htask, hempty, hidle⟩ := setChannel_due
  have hroom : s.queue.length + 10 ≤ shippedConfig.reqQMax := by
    rw [hempty]
    exact Nat.le_refl 10
  obtain ⟨s', hreach', htask', -, hlen⟩ := events_fill hidle hroom
  rw [htask] at htask'
  let arg : SerialArg :=
    { data := u32Bytes Rpc.setChannel.resp ++ setChannelAnswer.2, msgId := rpcIdEventCustomRpc }
  have hstep : step shippedConfig s' (.answer true true) =
      some { s' with task := .enqueueing arg [] } := by
    simp only [step, htask']
    rfl
  refine ⟨_, (hreach.free.trans hreach').step trivial hstep, ⟨arg, [], rfl⟩, ?_⟩
  show shippedConfig.reqQMax ≤ s'.queue.length
  rw [hlen, hempty]
  exact Nat.le_refl 10

end EspHostedOpen.Pserial
