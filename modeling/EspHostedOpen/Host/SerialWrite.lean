import EspHostedOpen.Host.UartDrv
import EspHostedOpen.Lib.Fragments
import EspHostedOpen.Lib.Transition
import EspHostedOpen.Slave.Tlv

/-!
# What the host sends to the RPC task (`serial_if.c`, `serial_drv.c`, `serial_ll_if.c`,
`uart_drv.c`)

`transport_pserial_send` composes a request in a buffer of its own, and `serial_ll_write` queues
the buffer in fragments, of which the last takes the buffer along. `h_uart_write_task` takes them
out of the queue, copies them, and frees the buffer behind the last one.

The two run side by side: a call of `esp_hosted_tx` is a step, and the write task has three for a
fragment. It takes it, copies it, and frees the buffer; the other task may come in between.
`Careful` names the steps that leave no buffer behind and none in the queue that has been freed.
-/

namespace EspHostedOpen.HostSerialTx

open ByteCodec Fragments Transition Records RxFrames HostUart Tlv

def rpcEpNameRsp : List UInt8 := [82, 80, 67, 82, 115, 112]        -- `RPC_EP_NAME_RSP`
def rpcEpNameEvt : List UInt8 := [82, 80, 67, 69, 118, 116]        -- `RPC_EP_NAME_EVT`

def maxFragmentablePayloadSize : Nat := 8192
def moreFragment : UInt8 := 1
def espSerialIf : UInt8 := 3

def success : Int := 0
def failure : Int := -1

/-- The TLV of the endpoint and the header of that of the data. -/
def tlvSize : Nat := 1 + 2 + rpcEpNameRsp.length + 1 + 2

/-- `compose_tlv`; `none` where it writes behind the end of the buffer. -/
def composeTlv (buf data : List UInt8) : Option Composer := do
  let epLength := rpcEpNameRsp.length.toUInt16
  let dataLength := data.length.toUInt16
  let c : Composer := { buf := buf }
  let c ← c.put [tlvEpname]
  let c ← c.put [epLength.toUInt8]
  let c ← c.put [(epLength >>> 8).toUInt8]
  let c ← c.put rpcEpNameRsp
  let c ← c.put [tlvData]
  let c ← c.put [dataLength.toUInt8]
  let c ← c.put [(dataLength >>> 8).toUInt8]
  c.put data

/-! ## State -/

/-- What `esp_hosted_tx` queues for a fragment. -/
structure Entry where
  buffer : Nat
  offset : Nat
  len : UInt16
  flag : UInt8
  frees : Bool  -- `free_buf_handle` and `priv_buffer_handle` are set
  deriving DecidableEq, Repr

/-- Where `serial_ll_write` stands in its buffer. -/
structure Writing where
  buffer : Nat
  offset : Nat
  remaining : Nat
  deriving DecidableEq, Repr

/-- Where `h_uart_write_task` stands. -/
inductive WriteTask
  | idle
  | took (e : Entry)                             -- it has a fragment, and has not copied it yet
  | sent (buffer : Nat)                          -- it has sent the last one of a buffer
  deriving DecidableEq, Repr

/-- Both tasks, the queue between them and the heap; `made` counts the buffers allocated. A read or
a release of a buffer that is not there is a `fault`, and so is a write behind the end of one. -/
structure State where
  made : Nat := 0
  heap : Nat → Option (List UInt8) := fun _ => none
  writing : Option Writing := none
  queue : List Entry := []
  task : WriteTask := .idle
  returned : List Int := []
  line : List (Handle × Written) := []
  fault : Bool := false

namespace State

/-- The fragments that are still to be copied. -/
def pending (s : State) : List Entry :=
  match s.task with
  | .took e => e :: s.queue
  | _ => s.queue

def ret (s : State) (code : Int) : State :=
  { s with writing := none, returned := s.returned ++ [code] }

def alloc (s : State) (bytes : List UInt8) : State :=
  { s with made := s.made + 1, heap := Function.update s.heap s.made (some bytes) }

def free (s : State) (b : Nat) : State :=
  { s with heap := Function.update s.heap b none, fault := s.fault || (s.heap b).isNone }

/-- What is queued comes behind what the write task has taken. -/
theorem pending_push (s : State) (e : Entry) (writing : Option Writing) :
    ({ s with queue := s.queue ++ [e], writing := writing } : State).pending =
      s.pending ++ [e] := by
  unfold pending
  cases s.task <;> rfl

theorem heap_alloc_self (s : State) (bytes : List UInt8) :
    (s.alloc bytes).heap s.made = some bytes :=
  Function.update_self _ _ _

theorem heap_alloc_of_ne (s : State) (bytes : List UInt8) {b : Nat} (h : b ≠ s.made) :
    (s.alloc bytes).heap b = s.heap b := Function.update_of_ne h _ _

theorem heap_free_self (s : State) (b : Nat) : (s.free b).heap b = none :=
    Function.update_self _ _ _

theorem heap_free_of_ne (s : State) {b b' : Nat} (h : b' ≠ b) : (s.free b).heap b' = s.heap b' :=
  Function.update_of_ne h _ _

end State

/-! ## Steps -/

structure SendEnv where
  calloc : Bool
  opened : Bool                                  -- `serial_handle`
  valid : Bool                                   -- `serial_ll_if_g`
  active : Bool                                  -- its state is `ACTIVE`
  deriving DecidableEq, Repr

/-- `transport_pserial_send`, with `serial_drv_write` and what `serial_ll_write` does before its
loop. `buf_len` is an `uint16_t`. -/
def transportPserialSend (env : SendEnv) (data : List UInt8) (s : State) : State :=
  if data = [] then s.ret failure
  else if env.calloc = false then s.ret failure
  else
    let zeros := List.replicate (tlvSize + data.length).toUInt16.toNat 0
    if env.opened = false then ((s.alloc zeros).free s.made).ret failure
    else
      match composeTlv zeros data with
      | none => { s.alloc zeros with fault := true }.ret failure
      | some c =>
        let s' := s.alloc c.buf
        if c.len = 0 then (s'.free s.made).ret failure
        else if env.valid = false then s'.ret failure
        else if env.active = false then s'.ret failure
        else if c.len.toNat > maxFragmentablePayloadSize then s'.ret failure
        else { s' with writing := some ⟨s.made, 0, c.len.toNat⟩ }

/-- `esp_hosted_tx`, for a fragment. -/
def espHostedTx (build : Build) (up : Bool) (e : Entry) (s : State) : EspErr × State :=
  if e.len = 0 ∨ e.len.toNat > maxPayloadSize build ∨ up = false then
    (espFail, if e.frees then s.free e.buffer else s)
  else (espOk, { s with queue := s.queue ++ [e] })

/-- The fragment at which `serial_ll_write` stands. -/
def Writing.entry (build : Build) (w : Writing) : Entry where
  buffer := w.buffer
  offset := w.offset
  len := (if w.remaining > maxPayloadSize build then maxPayloadSize build else w.remaining).toUInt16
  flag := if w.remaining > maxPayloadSize build then moreFragment else 0
  frees := decide ¬w.remaining > maxPayloadSize build

/-- A turn of the loop in `serial_ll_write`. -/
def serialLlWrite (build : Build) (up : Bool) (w : Writing) (s : State) : State :=
  let e := w.entry build
  let (ret, s) := espHostedTx build up e s
  if ret ≠ espOk then
    (if e.flag &&& moreFragment ≠ 0 then s.free w.buffer else s).ret failure
  else if w.remaining - e.len.toNat = 0 then s.ret success
  else { s with writing := some ⟨w.buffer, w.offset + e.len.toNat, w.remaining - e.len.toNat⟩ }

/-- What the write task reads for an entry. -/
def Entry.handle (e : Entry) (bytes : List UInt8) : Handle where
  ifType := espSerialIf
  ifNum := 0
  flag := e.flag
  seqNum := 0
  payload := slice e.offset e.len.toNat bytes
  payloadZcopy := false
  payload_lt := Nat.lt_of_le_of_lt (List.length_take_le _ _) e.len.toNat_lt

/-- `h_uart_write_task` finds a fragment in the queue. -/
def dequeueItem (s : State) : Option State :=
  match s.task, s.queue with
  | .idle, e :: queue => some { s with queue := queue, task := .took e }
  | _, _ => none

/-- `h_uart_write_packet` for it, up to where its buffer is freed. The buffer is read once there is
one to copy it to. -/
def writeFragment (build : Build) (env : WriteEnv) (e : Entry) (s : State) : State :=
  match s.heap e.buffer with
  | none => { s with task := .idle, fault := s.fault || env.alloc }
  | some bytes =>
    match hUartWritePacket build env (e.handle bytes) with
    | none => { s with task := .idle, fault := true }
    | some w =>
      { s with
        line := s.line ++ [(e.handle bytes, w)]
        task := if w.freed && e.frees then .sent e.buffer else .idle }

inductive Action
  | send (env : SendEnv) (data : List UInt8)     -- the RPC task calls `transport_pserial_send`
  | tx (up : Bool)                               -- its next call of `esp_hosted_tx`
  | dequeue                                      -- the write task takes a fragment
  | write (env : WriteEnv)                       -- it copies it and sends the packet
  | free                                         -- and frees the buffer behind the last one

def step (build : Build) (s : State) : Action → Option State
  | .send env data =>
    match s.writing with
    | some _ => none
    | none => if data.length < 65536 then some (transportPserialSend env data s) else none
  | .tx up => s.writing.map fun w => serialLlWrite build up w s
  | .dequeue => dequeueItem s
  | .write env =>
    match s.task with
    | .took e => some (writeFragment build env e s)
    | _ => none
  | .free =>
    match s.task with
    | .sent b => some ({ s with task := .idle }.free b)
    | _ => none

/-! ## Whose a buffer is -/

/-- The buffer is being written, or its last fragment is still to be copied, or it has been. -/
def Owned (s : State) (b : Nat) : Prop :=
  (∃ w ∈ s.writing, w.buffer = b) ∨ (∃ e ∈ s.pending, e.frees = true ∧ e.buffer = b) ∨
    s.task = .sent b

/-- **Nothing is lost and nothing dangles**: nothing has gone wrong in memory, what is to be copied
or freed is still there, and what is there will be freed. -/
structure Sound (s : State) : Prop where
  noFault : s.fault = false
  pointed : ∀ e ∈ s.pending, s.heap e.buffer ≠ none
  held : ∀ b, s.task = .sent b → s.heap b ≠ none
  owned : ∀ b, s.heap b ≠ none → Owned s b

/-- The request gets a buffer. -/
def Buffered (env : SendEnv) (data : List UInt8) : Prop := data ≠ [] ∧ env.calloc = true ∧
    env.opened = true

instance (env : SendEnv) (data : List UInt8) : Decidable (Buffered env data) :=
  inferInstanceAs (Decidable (_ ∧ _ ∧ _))

/-- The loop of `serial_ll_write` gets the buffer. -/
def Taken (env : SendEnv) (data : List UInt8) : Prop :=
  env.valid = true ∧ env.active = true ∧ tlvSize + data.length ≤ maxFragmentablePayloadSize

/-- A request that gets a buffer gets into the loop of `serial_ll_write`, the link goes down only
while none of its fragments is still to be copied, and the last one finds a buffer to be copied
to. -/
def Careful (s : State) : Action → Prop
  | .send env data => Buffered env data → Taken env data
  | .tx up => up = false → ∀ w ∈ s.writing, ∀ e ∈ s.pending, e.buffer ≠ w.buffer
  | .write env => env.alloc = false → ∀ e, s.task = .took e → e.frees = false
  | .dequeue => True
  | .free => True

/-- What every step keeps: the last fragment of a buffer is behind its others, what is to be copied
of a buffer lies inside it, and behind the last fragment nobody but the write task has it. -/
structure Ordered (s : State) : Prop where
  fresh : ∀ b, s.made ≤ b → s.heap b = none
  queued : ∀ e ∈ s.pending, e.buffer < s.made ∧ e.len ≠ 0 ∧
    ∀ bytes ∈ s.heap e.buffer, e.offset + e.len.toNat ≤ bytes.length
  last : s.pending.Pairwise fun e e' => e.frees = true → e'.buffer ≠ e.buffer
  inHand : ∀ w ∈ s.writing, 0 < w.remaining ∧ w.remaining ≤ maxFragmentablePayloadSize ∧
    (∃ bytes ∈ s.heap w.buffer, w.offset + w.remaining = bytes.length) ∧
      ∀ e ∈ s.pending, e.frees = true → e.buffer ≠ w.buffer
  leaving : ∀ b, s.task = .sent b → b < s.made ∧ (∀ e ∈ s.pending, e.buffer ≠ b) ∧
    ∀ w ∈ s.writing, w.buffer ≠ b

/-! ## Composing -/

/-- A request as it is sent. -/
def message (data : List UInt8) : List UInt8 := (epnameTlv rpcEpNameRsp).bytes ++
    (dataTlv data).bytes

theorem length_message (data : List UInt8) : (message data).length = tlvSize + data.length := by
  simp [message, Record.bytes, epnameTlv, dataTlv, tlvSize, rpcEpNameRsp]
  omega

section Compose

variable {data : List UInt8}

theorem composeTlv_eq (h : tlvSize + data.length < 65536) :
    ∃ c, composeTlv (List.replicate (tlvSize + data.length).toUInt16.toNat 0) data = some c ∧
      c.buf = message data ∧ c.len.toNat = tlvSize + data.length := by
  have htotal : tlvSize = 12 := rfl
  rw [UInt16.toNat_ofNat_of_lt' h]
  have hname : rpcEpNameRsp.length = 6 := rfl
  have hstart : Composer.Wrote (tlvSize + data.length) []
      { buf := List.replicate (tlvSize + data.length) 0 } := ⟨rfl, rfl, Nat.zero_le _, rfl, rfl⟩
  obtain ⟨c1, hc1, h1⟩ := hstart.put [tlvEpname] (by simp; omega) (by simp)
  obtain ⟨c2, hc2, h2⟩ := h1.put [rpcEpNameRsp.length.toUInt16.toUInt8] (by simp; omega) (by simp)
  obtain ⟨c3, hc3, h3⟩ :=
    h2.put [(rpcEpNameRsp.length.toUInt16 >>> 8).toUInt8] (by simp; omega) (by simp)
  obtain ⟨c4, hc4, h4⟩ := h3.put rpcEpNameRsp (by simp; omega) (by simp; omega)
  obtain ⟨c5, hc5, h5⟩ := h4.put [tlvData] (by simp; omega) (by simp; omega)
  obtain ⟨c6, hc6, h6⟩ := h5.put [data.length.toUInt16.toUInt8] (by simp; omega) (by simp; omega)
  obtain ⟨c7, hc7, h7⟩ :=
    h6.put [(data.length.toUInt16 >>> 8).toUInt8] (by simp; omega) (by simp; omega)
  obtain ⟨c8, hc8, h8⟩ := h7.put data (by simp; omega) (by simp; omega)
  have hbytes : [] ++ [tlvEpname] ++ [rpcEpNameRsp.length.toUInt16.toUInt8] ++
      [(rpcEpNameRsp.length.toUInt16 >>> 8).toUInt8] ++ rpcEpNameRsp ++ [tlvData] ++
        [data.length.toUInt16.toUInt8] ++
        [(data.length.toUInt16 >>> 8).toUInt8] ++ data = message data := by
    have hlow := lenBytes16 (n := rpcEpNameRsp.length) (by decide)
    have hdata := lenBytes16 (n := data.length) (by omega)
    rw [message, Record.bytes, Record.bytes, epnameTlv, dataTlv, ← hlow, ← hdata]
    simp
  rw [hbytes] at h8
  refine ⟨c8, ?_, ?_, h8.len.trans (length_message data)⟩
  · simp only [composeTlv, hc1, hc2, hc3, hc4, hc5, hc6, hc7, hc8, Option.bind_eq_bind,
      Option.bind_some]
  · rw [h8.buf, length_message, Nat.sub_self, List.replicate_zero, List.append_nil]

/-- What a write needs, and where it leaves off. -/
theorem put_inv {c c' : Composer} {bs : List UInt8} (h : c.put bs = some c') :
    c.len.toNat + bs.length ≤ c.buf.length ∧ c'.buf.length = c.buf.length ∧ c'.len =
      c.len + bs.length.toUInt16 := by
  obtain ⟨buf, hpoke, rfl⟩ := Option.map_eq_some_iff.1 h
  obtain ⟨hinside, rfl⟩ := poke_inv hpoke
  refine ⟨hinside, ?_, rfl⟩
  simp only [List.length_append, List.length_take, List.length_drop]
  omega

/-- A length that does not fit into `buf_len`: the buffer is too small for the headers. -/
theorem composeTlv_none (h : 65536 ≤ tlvSize + data.length) (hlen : data.length < 65536) :
    composeTlv (List.replicate (tlvSize + data.length).toUInt16.toNat 0) data = none := by
  have hsmall : (tlvSize + data.length).toUInt16.toNat < 12 := by
    have htotal : tlvSize = 12 := rfl
    rw [UInt16.toNat_ofNat']
    omega
  rw [Option.eq_none_iff_forall_not_mem]
  intro c hc
  simp only [composeTlv, Option.bind_eq_bind, Option.mem_def, Option.bind_eq_some_iff] at hc
  obtain ⟨c1, h1, c2, h2, c3, h3, c4, h4, c5, h5, c6, h6, c7, h7, -⟩ := hc
  obtain ⟨-, l1, e1⟩ := put_inv h1
  obtain ⟨-, l2, e2⟩ := put_inv h2
  obtain ⟨-, l3, e3⟩ := put_inv h3
  obtain ⟨-, l4, e4⟩ := put_inv h4
  obtain ⟨-, l5, e5⟩ := put_inv h5
  obtain ⟨-, l6, e6⟩ := put_inv h6
  obtain ⟨hlast, -, -⟩ := put_inv h7
  rw [l6, l5, l4, l3, l2, l1, List.length_replicate, e6, e5, e4, e3, e2, e1] at hlast
  have hoff : (0 + 1 + 1 + 1 + 6 + 1 + 1 : UInt16).toNat = 11 := by decide
  have heq :
    ((0 : UInt16) + [tlvEpname].length.toUInt16 +
    [rpcEpNameRsp.length.toUInt16.toUInt8].length.toUInt16 +
      [(rpcEpNameRsp.length.toUInt16 >>> 8).toUInt8].length.toUInt16 +
        rpcEpNameRsp.length.toUInt16 +
      [tlvData].length.toUInt16 + [data.length.toUInt16.toUInt8].length.toUInt16).toNat = 11 := hoff
  rw [heq, List.length_singleton] at hlast
  omega

end Compose

/-! ## What a step does -/

section Steps

variable {build : Build} {env : SendEnv} {data : List UInt8} {s : State}

theorem send_unbuffered (h : ¬Buffered env data) :
    transportPserialSend env data s = s.ret failure ∨
      ∃ zeros, transportPserialSend env data s = ((s.alloc zeros).free s.made).ret failure := by
  unfold transportPserialSend
  by_cases hdata : data = []
  · exact .inl (if_pos hdata)
  rw [if_neg hdata]
  by_cases hcalloc : env.calloc = false
  · exact .inl (if_pos hcalloc)
  rw [if_neg hcalloc]
  by_cases hopened : env.opened = false
  · exact .inr ⟨_, if_pos hopened⟩
  · exact absurd ⟨hdata, eq_true_of_ne_false hcalloc, eq_true_of_ne_false hopened⟩ h

/-- What a request that has its buffer comes to. -/
theorem send_buffered (h : Buffered env data) : transportPserialSend env data s =
    match composeTlv (List.replicate (tlvSize + data.length).toUInt16.toNat 0) data with
    | none => { s.alloc (List.replicate (tlvSize + data.length).toUInt16.toNat 0) with fault :=
    true }.ret failure
    | some c =>
      if c.len = 0 then ((s.alloc c.buf).free s.made).ret failure
      else if env.valid = false then (s.alloc c.buf).ret failure
      else if env.active = false then (s.alloc c.buf).ret failure
      else if c.len.toNat > maxFragmentablePayloadSize then (s.alloc c.buf).ret failure
      else { s.alloc c.buf with writing := some ⟨s.made, 0, c.len.toNat⟩ } := by
  obtain ⟨hdata, hcalloc, hopened⟩ := h
  rw [transportPserialSend, if_neg hdata, hcalloc, if_neg Bool.noConfusion, hopened]
  dsimp only
  rw [if_neg Bool.noConfusion]

theorem send_taken (h : Buffered env data) (h' : Taken env data) : transportPserialSend env data s =
    { s.alloc (message data) with writing := some ⟨s.made, 0, tlvSize + data.length⟩ } := by
  obtain ⟨hvalid, hactive, hlen⟩ := h'
  obtain ⟨c, hc, hbuf, hclen⟩ :=
    composeTlv_eq (show tlvSize + data.length < 65536 from hlen.trans_lt (by decide))
  have hzero : c.len ≠ 0 := by
    rintro heq
    rw [heq] at hclen
    exact absurd hclen.symm (by unfold tlvSize; simp)
  rw [send_buffered h, hc]
  dsimp only
  rw [if_neg hzero, hvalid, if_neg Bool.noConfusion, hactive, if_neg Bool.noConfusion, hclen,
    if_neg (Nat.not_lt.2 hlen), hbuf]

/-- A request that does not get into the loop is left where it is. -/
theorem send_left (h : Buffered env data) (h' : ¬Taken env data) (hlen : data.length < 65536) :
    ∃ bytes fault, transportPserialSend env data s =
      { s.alloc bytes with fault := fault }.ret failure := by
  rw [send_buffered h]
  by_cases hsize : tlvSize + data.length < 65536
  · obtain ⟨c, hc, -, hclen⟩ := composeTlv_eq hsize
    have hzero : c.len ≠ 0 := by
      rintro heq
      rw [heq] at hclen
      exact absurd hclen.symm (by unfold tlvSize; simp)
    rw [hc]
    dsimp only
    rw [if_neg hzero]
    refine ⟨c.buf, s.fault, ?_⟩
    by_cases hvalid : env.valid = false
    · exact if_pos hvalid
    rw [if_neg hvalid]
    by_cases hactive : env.active = false
    · exact if_pos hactive
    rw [if_neg hactive, hclen]
    refine if_pos (Nat.lt_of_not_le fun hfits => ?_)
    exact h' ⟨eq_true_of_ne_false hvalid, eq_true_of_ne_false hactive, hfits⟩
  · rw [composeTlv_none (Nat.le_of_not_lt hsize) hlen]
    exact ⟨_, _, rfl⟩

theorem maxPayloadSize_pos (build : Build) : 0 < maxPayloadSize build ∧
    maxPayloadSize build < 65536 := by
  unfold maxPayloadSize Build.headerSize maxUartBufferSize
  split <;> decide

namespace Writing

variable {w : Writing}

theorem entry_len (build : Build) (w : Writing) : (w.entry build).len.toNat = min w.remaining
    (maxPayloadSize build) := by
  have hmax := (maxPayloadSize_pos build).2
  rw [entry]
  dsimp only
  split
  · rw [UInt16.toNat_ofNat_of_lt' hmax]
    omega
  · rw [UInt16.toNat_ofNat_of_lt' (show w.remaining < 65536 by omega)]
    omega

theorem entry_len_ne (h : 0 < w.remaining) : (w.entry build).len ≠ 0 := by
  intro hzero
  have hlen := w.entry_len build
  have hmax := (maxPayloadSize_pos build).1
  have h0 : (0 : UInt16).toNat = 0 := rfl
  rw [hzero] at hlen
  omega

/-- The last fragment is the one that frees. -/
theorem entry_flag (w : Writing) : (w.entry build).flag &&& moreFragment ≠ 0 ↔
    (w.entry build).frees = false := by
  by_cases h : w.remaining > maxPayloadSize build <;> simp [entry, h, moreFragment]

end Writing

/-- The link is up: the fragment is queued. -/
theorem tx_up {w : Writing} (hpos : 0 < w.remaining) : serialLlWrite build true w s =
    if (w.entry build).frees then { s with queue := s.queue ++ [w.entry build] }.ret success
    else { s with
      queue := s.queue ++ [w.entry build]
      writing := some ⟨w.buffer, w.offset + (w.entry build).len.toNat,
        w.remaining - (w.entry build).len.toNat⟩ } := by
  have hlen := w.entry_len build
  have hok : ¬((w.entry build).len = 0 ∨ (w.entry build).len.toNat > maxPayloadSize build ∨
    true = false) := by
    rintro (h | h | h)
    · exact w.entry_len_ne hpos h
    · omega
    · cases h
  have hlast : w.remaining - (w.entry build).len.toNat = 0 ↔ (w.entry build).frees = true := by
    rw [hlen]
    unfold Writing.entry
    dsimp only
    rw [decide_eq_true_iff]
    omega
  rw [serialLlWrite, espHostedTx, if_neg hok]
  dsimp only
  rw [if_neg (fun h => h rfl)]
  exact if_congr hlast rfl rfl

/-- The link is down: the buffer is freed, by whichever of the two. -/
theorem tx_down {w : Writing} : serialLlWrite build false w s = (s.free w.buffer).ret failure := by
  have hfail : (w.entry build).len = 0 ∨ (w.entry build).len.toNat > maxPayloadSize build ∨
    false = false :=
    .inr (.inr rfl)
  rw [serialLlWrite, espHostedTx, if_pos hfail]
  dsimp only
  rw [if_pos (show espFail ≠ espOk by decide)]
  cases hfrees : (w.entry build).frees with
  | true => exact congrArg (State.ret · failure) (if_neg fun h =>
    Bool.noConfusion (hfrees.symm.trans (w.entry_flag.1 h)))
  | false => exact congrArg (State.ret · failure) (if_pos (w.entry_flag.2 hfrees))

/-- A fragment is copied if there is a buffer to copy it to, and only then is its own buffer
freed. -/
theorem hUartWritePacket_fragment (build : Build) (env : WriteEnv) {e : Entry} {bytes : List UInt8}
    (hne : e.len ≠ 0)
    (hinside : e.offset + e.len.toNat ≤ bytes.length) :
    ∃ w, hUartWritePacket build env (e.handle bytes) = some w ∧ w.freed = env.alloc := by
  have hpos : 0 < e.len.toNat := Nat.pos_of_ne_zero fun h => hne (UInt16.toNat_inj.1 h)
  have hpayload : (e.handle bytes).payload ≠ [] := by
    refine List.ne_nil_of_length_pos ?_
    change 0 < (slice e.offset e.len.toNat bytes).length
    rwa [length_slice hinside]
  have hserial :
    ¬(((e.handle bytes).ifType &&& 0x0F) = espHciIf ∧ (e.handle bytes).payloadZcopy = false) :=
    fun h => absurd h.1 (show (espSerialIf &&& 0x0F : UInt8) ≠ espHciIf by decide)
  unfold hUartWritePacket
  rw [if_neg fun h => hpayload h.2]
  cases halloc : env.alloc with
  | false => exact ⟨_, if_pos ⟨rfl, rfl⟩, rfl⟩
  | true =>
    rw [if_neg fun h => Bool.noConfusion h.2]
    by_cases hmax : maxPayloadSize build < (e.handle bytes).payload.length
    · exact ⟨_, if_pos hmax, rfl⟩
    · rw [if_neg hmax, if_neg hserial]
      refine ⟨_, rfl, ?_⟩
      rw [Written.transmit, List.isEmpty_eq_false_iff.2 hpayload]
      rfl

theorem write_live (build : Build) (env : WriteEnv) {e : Entry} {bytes : List UInt8}
    (hheap : s.heap e.buffer = some bytes) (hne : e.len ≠ 0)
    (hinside : e.offset + e.len.toNat ≤ bytes.length) :
    ∃ w, hUartWritePacket build env (e.handle bytes) = some w ∧ writeFragment build env e s =
      { s with
        line := s.line ++ [(e.handle bytes, w)]
        task := if env.alloc = true ∧ e.frees = true then .sent e.buffer else .idle } := by
  obtain ⟨w, hw, hfreed⟩ := hUartWritePacket_fragment build env hne hinside
  refine ⟨w, hw, ?_⟩
  rw [writeFragment, hheap]
  dsimp only
  rw [hw]
  dsimp only
  rw [hfreed]
  congr 1
  exact if_congr Bool.and_eq_true_iff rfl rfl

theorem send_inv {s' : State} (h : step build s (.send env data) = some s') :
    s.writing = none ∧ data.length < 65536 ∧ s' = transportPserialSend env data s := by
  rw [step] at h
  cases hwriting : s.writing with
  | some w =>
    rw [hwriting] at h
    cases h
  | none =>
    rw [hwriting] at h
    dsimp only at h
    split at h
    case isFalse => cases h
    rename_i hlen
    exact ⟨rfl, hlen, (Option.some_inj.1 h).symm⟩

theorem dequeue_inv {s' : State} (h : dequeueItem s = some s') :
    ∃ e queue, s.task = .idle ∧ s.queue = e :: queue ∧
      s' = { s with queue := queue, task := .took e } := by
  unfold dequeueItem at h
  split at h
  · rename_i e queue htask hqueue
    exact ⟨e, queue, htask, hqueue, (Option.some_inj.1 h).symm⟩
  · cases h

theorem write_inv {env : WriteEnv} {s' : State} (h : step build s (.write env) = some s') :
    ∃ e, s.task = .took e ∧ s' = writeFragment build env e s := by
  rw [step] at h
  split at h
  · rename_i e htask
    exact ⟨e, htask, (Option.some_inj.1 h).symm⟩
  · cases h

theorem free_inv {s' : State} (h : step build s .free = some s') :
    ∃ b, s.task = .sent b ∧ s' = { s with task := .idle }.free b := by
  rw [step] at h
  split at h
  · rename_i b htask
    exact ⟨b, htask, (Option.some_inj.1 h).symm⟩
  · cases h

theorem pending_idle (h : s.task = .idle) : s.pending = s.queue := by
  rw [State.pending, h]

theorem pending_took {e : Entry} (h : s.task = .took e) : s.pending = e :: s.queue := by
  rw [State.pending, h]

end Steps

/-! ## What every step keeps -/

namespace Ordered

variable {s : State}

theorem ret (h : Ordered s) (code : Int) : Ordered (s.ret code) where
  fresh := h.fresh
  queued := h.queued
  last := h.last
  inHand := nofun
  leaving b hb := by
    obtain ⟨hlt, hpending, -⟩ := h.leaving b hb
    exact ⟨hlt, hpending, nofun⟩

theorem broken (h : Ordered s) (fault : Bool) : Ordered { s with fault := fault } :=
  ⟨h.fresh, h.queued, h.last, h.inHand, h.leaving⟩

theorem alloc (h : Ordered s) (hwriting : s.writing = none) (bytes : List UInt8) :
    Ordered (s.alloc bytes) where
  fresh b hb := by
    rw [s.heap_alloc_of_ne bytes (Nat.ne_of_gt hb)]
    exact h.fresh b (Nat.le_of_lt hb)
  queued e he := by
    obtain ⟨hlt, hne, hinside⟩ := h.queued e he
    refine ⟨Nat.lt_succ_of_lt hlt, hne, fun bytes' hbytes => hinside bytes' ?_⟩
    rwa [s.heap_alloc_of_ne bytes (Nat.ne_of_lt hlt)] at hbytes
  last := h.last
  inHand w hw := by
    rw [State.alloc, hwriting] at hw
    cases hw
  leaving b hb := by
    obtain ⟨hlt, hpending, hwrites⟩ := h.leaving b hb
    exact ⟨Nat.lt_succ_of_lt hlt, hpending, hwrites⟩

theorem free (h : Ordered s) {b : Nat} (hwriting : ∀ w ∈ s.writing, w.buffer ≠ b) :
    Ordered (s.free b) where
  fresh b' hb' := by
    by_cases heq : b' = b
    · exact heq ▸ s.heap_free_self b
    · exact (s.heap_free_of_ne heq).trans (h.fresh b' hb')
  queued e he := by
    obtain ⟨hlt, hne, hinside⟩ := h.queued e he
    refine ⟨hlt, hne, fun bytes hbytes => hinside bytes ?_⟩
    by_cases heq : e.buffer = b
    · rw [heq, s.heap_free_self] at hbytes
      cases hbytes
    · rwa [s.heap_free_of_ne heq] at hbytes
  last := h.last
  inHand w hw := by
    obtain ⟨hpos, hmax, hheld, hfrees⟩ := h.inHand w hw
    refine ⟨hpos, hmax, ?_, hfrees⟩
    rwa [s.heap_free_of_ne (hwriting w hw)]
  leaving := h.leaving

/-- The write task takes a fragment; nothing else changes. -/
theorem dequeue (h : Ordered s) {e : Entry} {queue : List Entry} (htask : s.task = .idle)
    (hqueue : s.queue = e :: queue) : Ordered { s with queue := queue, task := .took e } := by
  have hpending : ({ s with queue := queue, task := .took e } : State).pending = s.pending := by
    rw [pending_idle htask, hqueue]
    rfl
  refine ⟨h.fresh, ?_, ?_, ?_, nofun⟩
  · rw [hpending]
    exact h.queued
  · rw [hpending]
    exact h.last
  · rw [hpending]
    exact h.inHand

/-- The fragment has been copied, and the buffer behind it goes to the write task if it is the
last. -/
theorem copied (h : Ordered s) {e : Entry} (htask : s.task = .took e) {task : WriteTask}
    (hnext : task = .idle ∨ e.frees = true ∧ task = .sent e.buffer) :
    Ordered { s with task := task } := by
  have hpending : ({ s with task := task } : State).pending = s.queue := by
    rcases hnext with rfl | ⟨-, rfl⟩ <;> rfl
  have htaken := pending_took htask
  have he : e ∈ s.pending := htaken ▸ List.mem_cons_self
  have hrest : ∀ e' ∈ s.queue, e' ∈ s.pending := fun e' he' =>
    htaken ▸ List.mem_cons_of_mem e he'
  have hlast := h.last
  rw [htaken, List.pairwise_cons] at hlast
  refine ⟨h.fresh, ?_, ?_, ?_, ?_⟩
  · rw [hpending]
    exact fun e' he' => h.queued e' (hrest e' he')
  · rw [hpending]
    exact hlast.2
  · rw [hpending]
    intro w hw
    obtain ⟨hpos, hmax, hheld, hfrees⟩ := h.inHand w hw
    exact ⟨hpos, hmax, hheld, fun e' he' => hfrees e' (hrest e' he')⟩
  · rw [hpending]
    intro b hb
    rcases hnext with rfl | ⟨hfrees, rfl⟩
    · cases hb
    · cases hb
      refine ⟨(h.queued e he).1, fun e' he' => hlast.1 e' he' hfrees, fun w hw => ?_⟩
      exact ((h.inHand w hw).2.2.2 e he hfrees).symm

/-- The write task is about to free its buffer. -/
theorem release (h : Ordered s) {b : Nat} (htask : s.task = .sent b) :
    Ordered ({ s with task := .idle }.free b) := by
  have hpending : ({ s with task := .idle } : State).pending = s.pending := by
    rw [State.pending, State.pending, htask]
  have hidle : Ordered { s with task := .idle } := by
    refine ⟨h.fresh, ?_, ?_, ?_, nofun⟩
    · rw [hpending]
      exact h.queued
    · rw [hpending]
      exact h.last
    · rw [hpending]
      exact h.inHand
  exact hidle.free (h.leaving b htask).2.2

/-- The fragment at which `serial_ll_write` stands goes to the end of the queue. -/
theorem push (h : Ordered s) (build : Build) {w : Writing} (hw : s.writing = some w) :
    Ordered { s with queue := s.queue ++ [w.entry build], writing := none } := by
  obtain ⟨hpos, -, ⟨bytes, hheap, hinside⟩, hfrees⟩ := h.inHand w hw
  have hlt : w.buffer < s.made := by
    refine Nat.lt_of_not_le fun hle => ?_
    rw [Option.mem_def, h.fresh _ hle] at hheap
    cases hheap
  have hpending := s.pending_push (w.entry build) none
  refine ⟨h.fresh, ?_, ?_, nofun, fun b hb => ?_⟩
  · rw [hpending]
    intro e he
    rcases List.mem_append.1 he with he | he
    · exact h.queued e he
    · rw [List.mem_singleton.1 he]
      refine ⟨hlt, w.entry_len_ne hpos, fun bytes' hbytes => ?_⟩
      obtain rfl : bytes = bytes' := Option.some_inj.1 (hheap.symm.trans hbytes)
      rw [w.entry_len build]
      change w.offset + _ ≤ _
      omega
  · rw [hpending]
    refine List.pairwise_append.2 ⟨h.last, List.pairwise_singleton _ _, fun e he e' he' hef => ?_⟩
    rw [List.mem_singleton.1 he']
    exact (hfrees e he hef).symm
  · rw [hpending]
    obtain ⟨hmade, hqueued, hwrites⟩ := h.leaving b hb
    refine ⟨hmade, fun e he => ?_, nofun⟩
    rcases List.mem_append.1 he with he | he
    · exact hqueued e he
    · rw [List.mem_singleton.1 he]
      exact hwrites w hw

end Ordered

theorem ordered_send {env : SendEnv} {data : List UInt8} {s : State} (h : Ordered s)
    (hwriting : s.writing = none) (hlen : data.length < 65536) :
    Ordered (transportPserialSend env data s) := by
  by_cases hbuffered : Buffered env data
  · by_cases htaken : Taken env data
    · rw [send_taken hbuffered htaken]
      have halloc := h.alloc hwriting (message data)
      refine ⟨halloc.fresh, halloc.queued, halloc.last, ?_, fun b hb => ?_⟩
      · rintro w ⟨⟩
        refine ⟨?_, htaken.2.2, ⟨message data, Function.update_self _ _ _, ?_⟩, fun e he _ => ?_⟩
        · have hsize : tlvSize = 12 := rfl
          dsimp only
          omega
        · rw [length_message, Nat.zero_add]
        · exact Nat.ne_of_lt (h.queued e he).1
      · obtain ⟨hlt, hpending, -⟩ := h.leaving b hb
        refine ⟨Nat.lt_succ_of_lt hlt, hpending, ?_⟩
        rintro w ⟨⟩
        exact Nat.ne_of_gt hlt
    · obtain ⟨bytes, fault, heq⟩ := send_left (s := s) hbuffered htaken hlen
      rw [heq]
      exact ((h.alloc hwriting bytes).broken fault).ret failure
  · rcases send_unbuffered (s := s) hbuffered with heq | ⟨zeros, heq⟩
    · rw [heq]
      exact h.ret failure
    · rw [heq]
      refine ((h.alloc hwriting zeros).free ?_).ret failure
      rw [State.alloc, hwriting]
      exact nofun

theorem ordered_tx {build : Build} {s : State} {w : Writing} (h : Ordered s)
    (hw : s.writing = some w) (up : Bool) : Ordered (serialLlWrite build up w s) := by
  obtain ⟨hpos, hmax, ⟨bytes, hheap, hinside⟩, hfrees⟩ := h.inHand w hw
  cases up with
  | false =>
    rw [tx_down]
    have hret := h.ret failure
    exact hret.free nofun
  | true =>
    rw [tx_up hpos]
    have hpush := h.push build hw
    cases hlast : (w.entry build).frees with
    | true =>
      rw [if_pos rfl]
      exact hpush.ret success
    | false =>
      rw [if_neg Bool.false_ne_true]
      have hpending := s.pending_push (w.entry build)
      refine ⟨hpush.fresh, ?_, ?_, ?_, fun b hb => ?_⟩
      · rw [hpending, ← hpending none]
        exact hpush.queued
      · rw [hpending, ← hpending none]
        exact hpush.last
      · rw [hpending]
        rintro w' ⟨⟩
        have hlen := w.entry_len build
        have hmore : w.remaining > maxPayloadSize build := by
          by_contra hle
          exact Bool.false_ne_true (hlast.symm.trans (decide_eq_true hle))
        dsimp only
        refine ⟨by omega, by omega, ⟨bytes, hheap, by omega⟩, fun e he hef => ?_⟩
        rcases List.mem_append.1 he with he | he
        · exact hfrees e he hef
        · rw [List.mem_singleton.1 he, hlast] at hef
          cases hef
      · rw [hpending, ← hpending none]
        obtain ⟨hlt, hqueued, -⟩ := hpush.leaving b hb
        refine ⟨hlt, hqueued, ?_⟩
        rintro w' ⟨⟩
        exact (h.leaving b hb).2.2 w hw

theorem ordered_write {build : Build} {env : WriteEnv} {s : State} {e : Entry} (h : Ordered s)
    (htask : s.task = .took e) : Ordered (writeFragment build env e s) := by
  cases hheap : s.heap e.buffer with
  | none =>
    rw [writeFragment, hheap]
    exact (h.copied htask (.inl rfl)).broken _
  | some bytes =>
    obtain ⟨-, hne, hinside⟩ := h.queued e (pending_took htask ▸ List.mem_cons_self)
    obtain ⟨w, -, heq⟩ := write_live build env hheap hne (hinside bytes hheap)
    rw [heq]
    have hnext : ∀ {task}, (task = .idle ∨ e.frees = true ∧ task = .sent e.buffer) →
        Ordered { s with line := s.line ++ [(e.handle bytes, w)], task := task } := by
      intro task hnext
      have hcopied := h.copied htask hnext
      exact ⟨hcopied.fresh, hcopied.queued, hcopied.last, hcopied.inHand, hcopied.leaving⟩
    refine hnext ?_
    split
    · rename_i hfrees
      exact .inr ⟨hfrees.2, rfl⟩
    · exact .inl rfl

theorem ordered_step {build : Build} {s s' : State} {a : Action} (h : Ordered s)
    (hs : step build s a = some s') : Ordered s' := by
  cases a with
  | send env data =>
    obtain ⟨hwriting, hlen, rfl⟩ := send_inv hs
    exact ordered_send h hwriting hlen
  | tx up =>
    obtain ⟨w, hw, rfl⟩ := Option.map_eq_some_iff.1 hs
    exact ordered_tx h hw up
  | dequeue =>
    obtain ⟨e, queue, htask, hqueue, rfl⟩ := dequeue_inv hs
    exact h.dequeue htask hqueue
  | write env =>
    obtain ⟨e, htask, rfl⟩ := write_inv hs
    exact ordered_write h htask
  | free =>
    obtain ⟨b, htask, rfl⟩ := free_inv hs
    exact h.release htask

/-! ## The exact condition -/

namespace Sound

variable {s : State}

/-- Owned by what is queued or sent, where nothing is being written. -/
theorem of_idle {b : Nat} (hwriting : s.writing = none) (h : Owned s b) :
    (∃ e ∈ s.pending, e.frees = true ∧ e.buffer = b) ∨ s.task = .sent b := by
  rcases h with ⟨w, hw, -⟩ | h
  · rw [hwriting] at hw
    cases hw
  · exact h

theorem ret (h : Sound s) (hwriting : s.writing = none) (code : Int) : Sound (s.ret code) :=
  ⟨h.noFault, h.pointed, h.held, fun b hb =>
    .inr (of_idle (s := s) hwriting (h.owned b hb))⟩

/-- A buffer that is freed as soon as it is made leaves no trace. -/
theorem alloc_free (hordered : Ordered s) (h : Sound s) (bytes : List UInt8) :
    Sound ((s.alloc bytes).free s.made) := by
  have hheap : ((s.alloc bytes).free s.made).heap = s.heap := by
    funext b
    by_cases hb : b = s.made
    · rw [hb, State.heap_free_self, hordered.fresh _ (Nat.le_refl _)]
    · rw [State.heap_free_of_ne _ hb, s.heap_alloc_of_ne _ hb]
  refine ⟨?_, fun e he => ?_, fun b hb => ?_, fun b hb => h.owned b ?_⟩
  · have hlive := s.heap_alloc_self bytes
    rw [State.free]
    dsimp only
    rw [hlive]
    exact Bool.or_eq_false_iff.2 ⟨h.noFault, rfl⟩
  · rw [hheap]
    exact h.pointed e he
  · rw [hheap]
    exact h.held b hb
  · rwa [hheap] at hb

theorem send_iff {env : SendEnv} {data : List UInt8} (hordered : Ordered s) (h : Sound s)
    (hwriting : s.writing = none) (hlen : data.length < 65536) :
    Sound (transportPserialSend env data s) ↔ (Buffered env data → Taken env data) := by
  by_cases hbuffered : Buffered env data
  · by_cases htaken : Taken env data
    · refine iff_of_true ?_ fun _ => htaken
      rw [send_taken hbuffered htaken]
      refine ⟨h.noFault, fun e he hnone => ?_, fun b hb hnone => ?_, fun b hb => ?_⟩
      · have hne := Nat.ne_of_lt (hordered.queued e he).1
        exact h.pointed e he ((s.heap_alloc_of_ne _ hne).symm.trans hnone)
      · have hne := Nat.ne_of_lt (hordered.leaving b hb).1
        exact h.held b hb ((s.heap_alloc_of_ne _ hne).symm.trans hnone)
      · by_cases heq : b = s.made
        · exact .inl ⟨_, rfl, heq.symm⟩
        · have howned := h.owned b fun hnone => hb ((s.heap_alloc_of_ne _ heq).trans hnone)
          exact .inr (of_idle (s := s) hwriting howned)
    · refine iff_of_false (fun hs => ?_) fun h => htaken (h hbuffered)
      obtain ⟨bytes, fault, heq⟩ := send_left (s := s) hbuffered htaken hlen
      rw [heq] at hs
      have hlive : (s.alloc bytes).heap s.made ≠ none := by
        rw [s.heap_alloc_self]
        exact Option.some_ne_none _
      rcases of_idle rfl (hs.owned s.made hlive) with ⟨e, he, -, hmade⟩ | htask
      · exact Nat.lt_irrefl _ (hmade ▸ (hordered.queued e he).1)
      · exact Nat.lt_irrefl _ (hordered.leaving s.made htask).1
  · refine iff_of_true ?_ fun h => absurd h hbuffered
    rcases send_unbuffered (s := s) hbuffered with heq | ⟨zeros, heq⟩
    · rw [heq]
      exact h.ret hwriting failure
    · rw [heq]
      exact (alloc_free hordered h zeros).ret hwriting failure

theorem free {b : Nat} (h : Sound s) (hlive : s.heap b ≠ none)
    (hpending : ∀ e ∈ s.pending, e.buffer ≠ b) (htask : s.task ≠ .sent b) : Sound (s.free b) where
  noFault := by
    obtain ⟨bytes, hbytes⟩ := Option.ne_none_iff_exists'.1 hlive
    rw [State.free]
    dsimp only
    rw [hbytes]
    exact Bool.or_eq_false_iff.2 ⟨h.noFault, rfl⟩
  pointed e he hnone := by
    rw [s.heap_free_of_ne (hpending e he)] at hnone
    exact h.pointed e he hnone
  held b' hb' hnone := by
    have hne : b' ≠ b := fun heq => htask (heq ▸ hb')
    rw [s.heap_free_of_ne hne] at hnone
    exact h.held b' hb' hnone
  owned b' hb' := by
    refine h.owned b' fun hnone => hb' ?_
    by_cases heq : b' = b
    · exact heq ▸ s.heap_free_self b
    · exact (s.heap_free_of_ne heq).trans hnone

theorem tx_iff {build : Build} {w : Writing} {up : Bool} (hordered : Ordered s) (h : Sound s)
    (hw : s.writing = some w) : Sound (serialLlWrite build up w s) ↔
      (up = false → ∀ e ∈ s.pending, e.buffer ≠ w.buffer) := by
  obtain ⟨hpos, -, ⟨bytes, hheap, -⟩, -⟩ := hordered.inHand w hw
  have hlive : s.heap w.buffer ≠ none := fun hnone =>
    Option.some_ne_none _ (hheap.symm.trans hnone)
  have hwho : ∀ b, Owned s b → w.buffer = b ∨
      (∃ e ∈ s.pending, e.frees = true ∧ e.buffer = b) ∨ s.task = .sent b := by
    rintro b (⟨w', hw', hb⟩ | hb)
    · obtain rfl : w = w' := Option.some_inj.1 (hw.symm.trans hw')
      exact .inl hb
    · exact .inr hb
  cases up with
  | false =>
    rw [tx_down]
    constructor
    · intro hs _ e he heq
      exact hs.pointed e he (heq ▸ s.heap_free_self w.buffer)
    · intro hpending
      have htask : s.task ≠ .sent w.buffer := fun htask => (hordered.leaving _ htask).2.2 w hw rfl
      have hfree := h.free hlive (hpending rfl) htask
      refine ⟨hfree.noFault, hfree.pointed, hfree.held, fun b hb => .inr ?_⟩
      refine (hwho b (hfree.owned b hb)).resolve_left fun heq => hb ?_
      exact heq ▸ s.heap_free_self w.buffer
  | true =>
    refine iff_of_true ?_ nofun
    rw [tx_up hpos]
    have hpushed := s.pending_push (w.entry build)
    have hpointed : ∀ e ∈ s.pending ++ [w.entry build], s.heap e.buffer ≠ none := by
      intro e he
      rcases List.mem_append.1 he with he | he
      · exact h.pointed e he
      · rw [List.mem_singleton.1 he]
        exact hlive
    have hqueued : ∀ {b}, (∃ e ∈ s.pending, e.frees = true ∧ e.buffer = b) ∨ s.task = .sent b →
        (∃ e ∈ s.pending ++ [w.entry build], e.frees = true ∧ e.buffer = b) ∨
          s.task = .sent b := by
      rintro b (⟨e, he, hb⟩ | hb)
      · exact .inl ⟨e, List.mem_append_left _ he, hb⟩
      · exact .inr hb
    cases hlast : (w.entry build).frees with
    | true =>
      rw [if_pos rfl]
      refine ⟨h.noFault, (hpushed none).symm ▸ hpointed, h.held, fun b hb => .inr ?_⟩
      have hmem : ∀ e ∈ s.pending ++ [w.entry build],
          e ∈ ({ s with queue := s.queue ++ [w.entry build], writing := none } : State).pending :=
        fun e he => (hpushed none).symm ▸ he
      rcases hwho b (h.owned b hb) with heq | hb'
      · exact .inl ⟨_, hmem _ (List.mem_append_right _ List.mem_cons_self), hlast, heq⟩
      · rcases hqueued hb' with ⟨e, he, hfrees⟩ | hsent
        · exact .inl ⟨e, hmem e he, hfrees⟩
        · exact .inr hsent
    | false =>
      rw [if_neg Bool.false_ne_true]
      refine ⟨h.noFault, (hpushed _).symm ▸ hpointed, h.held, fun b hb => ?_⟩
      rcases hwho b (h.owned b hb) with heq | hb'
      · exact .inl ⟨_, rfl, heq⟩
      · right
        rw [hpushed _]
        exact hqueued hb'

theorem write_iff {build : Build} {env : WriteEnv} {e : Entry} (hordered : Ordered s)
    (h : Sound s) (htask : s.task = .took e) :
    Sound (writeFragment build env e s) ↔ (env.alloc = false → e.frees = false) := by
  have htaken := pending_took htask
  have he : e ∈ s.pending := htaken ▸ List.mem_cons_self
  have hrest : ∀ e' ∈ s.queue, e' ∈ s.pending := fun e' he' =>
    htaken ▸ List.mem_cons_of_mem e he'
  obtain ⟨bytes, hheap⟩ := Option.ne_none_iff_exists'.1 (h.pointed e he)
  obtain ⟨-, hne, hinside⟩ := hordered.queued e he
  obtain ⟨w, -, heq⟩ := write_live build env hheap hne (hinside bytes hheap)
  have hlast := hordered.last
  rw [htaken, List.pairwise_cons] at hlast
  -- whoever owned a buffer still does, the one of `e` apart
  have howned : ∀ b, s.heap b ≠ none → (∃ w ∈ s.writing, w.buffer = b) ∨
      (∃ e' ∈ s.queue, e'.frees = true ∧ e'.buffer = b) ∨ e.frees = true ∧ e.buffer = b := by
    intro b hb
    rcases h.owned b hb with hw | ⟨e', he', hb'⟩ | hsent
    · exact .inl hw
    · rcases List.mem_cons.1 (htaken ▸ he') with rfl | he'
      · exact .inr (.inr hb')
      · exact .inr (.inl ⟨e', he', hb'⟩)
    · rw [htask] at hsent
      cases hsent
  have hpointed : ∀ e' ∈ s.queue, s.heap e'.buffer ≠ none := fun e' he' =>
    h.pointed e' (hrest e' he')
  rw [heq]
  by_cases hfrees : e.frees = true
  · by_cases halloc : env.alloc = true
    · refine iff_of_true ?_ fun hfalse => Bool.noConfusion (halloc.symm.trans hfalse)
      rw [if_pos ⟨halloc, hfrees⟩]
      refine ⟨h.noFault, hpointed, ?_, fun b hb => ?_⟩
      · rintro b ⟨⟩
        exact h.pointed e he
      · rcases howned b hb with hw | hqueued | ⟨-, hb'⟩
        · exact .inl hw
        · exact .inr (.inl hqueued)
        · exact .inr (.inr (congrArg WriteTask.sent hb'))
    · refine iff_of_false (fun hs => ?_) fun h => ?_
      · rw [if_neg fun h => halloc h.1] at hs
        rcases hs.owned e.buffer (h.pointed e he) with ⟨w', hw', heq⟩ | ⟨e', he', hef, heq⟩ | hsent
        · exact (hordered.inHand w' hw').2.2.2 e he hfrees heq.symm
        · exact hlast.1 e' he' hfrees heq
        · cases hsent
      · exact Bool.noConfusion (hfrees.symm.trans (h (eq_false_of_ne_true halloc)))
  · refine iff_of_true ?_ fun _ => eq_false_of_ne_true hfrees
    rw [if_neg fun h => hfrees h.2]
    refine ⟨h.noFault, hpointed, nofun, fun b hb => ?_⟩
    rcases howned b hb with hw | hqueued | ⟨hef, -⟩
    · exact .inl hw
    · exact .inr (.inl hqueued)
    · exact absurd hef hfrees

theorem dequeue (h : Sound s) {e : Entry} {queue : List Entry} (htask : s.task = .idle)
    (hqueue : s.queue = e :: queue) : Sound { s with queue := queue, task := .took e } := by
  have hpending : ({ s with queue := queue, task := .took e } : State).pending = s.pending := by
    rw [pending_idle htask, hqueue]
    rfl
  refine ⟨h.noFault, ?_, nofun, fun b hb => ?_⟩
  · rw [hpending]
    exact h.pointed
  · unfold Owned
    rw [hpending]
    rcases h.owned b hb with hw | hb' | hsent
    · exact .inl hw
    · exact .inr (.inl hb')
    · rw [htask] at hsent
      cases hsent

theorem release (hordered : Ordered s) (h : Sound s) {b : Nat} (htask : s.task = .sent b) :
    Sound ({ s with task := .idle }.free b) := by
  obtain ⟨-, hpending, -⟩ := hordered.leaving b htask
  have hsame : ({ s with task := .idle } : State).pending = s.pending := by
    rw [State.pending, State.pending, htask]
  obtain ⟨bytes, hbytes⟩ := Option.ne_none_iff_exists'.1 (h.held b htask)
  refine ⟨?_, ?_, nofun, fun b' hb' => ?_⟩
  · rw [State.free]
    dsimp only
    rw [hbytes]
    exact Bool.or_eq_false_iff.2 ⟨h.noFault, rfl⟩
  · intro e he hnone
    have he : e ∈ s.pending := hsame ▸ he
    rw [State.heap_free_of_ne _ (hpending e he)] at hnone
    exact h.pointed e he hnone
  · have hne : b' ≠ b := by
      rintro rfl
      exact hb' (State.heap_free_self _ _)
    rw [State.heap_free_of_ne _ hne] at hb'
    rcases h.owned b' hb' with hw | hqueued | hsent
    · exact .inl hw
    · right
      left
      exact hsame.symm ▸ hqueued
    · rw [htask] at hsent
      cases hsent
      exact absurd rfl hne

end Sound

theorem sound_step_iff {build : Build} {s s' : State} {a : Action} (hordered : Ordered s)
    (h : Sound s) (hs : step build s a = some s') : Sound s' ↔ Careful s a := by
  cases a with
  | send env data =>
    obtain ⟨hwriting, hlen, rfl⟩ := send_inv hs
    exact h.send_iff hordered hwriting hlen
  | tx up =>
    obtain ⟨w, hw, rfl⟩ := Option.map_eq_some_iff.1 hs
    refine (h.tx_iff hordered hw).trans (imp_congr_right fun _ => ?_)
    rw [hw]
    exact ⟨by rintro h w ⟨⟩; exact h, fun h => h w rfl⟩
  | dequeue =>
    obtain ⟨e, queue, htask, hqueue, rfl⟩ := dequeue_inv hs
    exact iff_of_true (h.dequeue htask hqueue) trivial
  | write env =>
    obtain ⟨e, htask, rfl⟩ := write_inv hs
    refine (h.write_iff hordered htask).trans (imp_congr_right fun _ => ?_)
    rw [htask]
    exact ⟨by rintro h e ⟨⟩; exact h, fun h => h e rfl⟩
  | free =>
    obtain ⟨b, htask, rfl⟩ := free_inv hs
    exact iff_of_true (h.release hordered htask) trivial

/-- **The exact condition**: nothing is lost and nothing dangles in any state of a run if and only
if every step that is taken is careful, whatever the two tasks do in between. -/
theorem serial_buffers_sound_iff (build : Build) (as : List Action) :
    AllStates (step build) Sound {} as ↔
      AllSteps (step build) (fun s a => (step build s a).isSome = true → Careful s a) {} as := by
  have hordered : Ordered {} := ⟨fun _ _ => rfl, nofun, .nil, nofun, nofun⟩
  have hsound : Sound {} := ⟨rfl, nofun, nofun, fun _ hb => absurd rfl hb⟩
  refine allStates_iff_allSteps_of_stuck (fun h hs => ordered_step h hs)
    (fun {s s' a} hJ hI hs => ?_)
    ?_ hordered hsound
  · rw [hs]
    exact (sound_step_iff hJ hI hs).trans ⟨fun h _ => h, fun h => h rfl⟩
  · intro s a hs hsome
    rw [hs] at hsome
    cases hsome

end EspHostedOpen.HostSerialTx
