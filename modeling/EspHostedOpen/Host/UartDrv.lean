import EspHostedOpen.Link.UartFrames
import EspHostedOpen.Proto.Messages

/-!
# The UART driver of the host (`uart_drv.c`)

`h_uart_write_packet` puts the header in front of a payload, or fills it in where the payload's
buffer has room for it (`payload_zcopy`). `h_uart_read_task` takes frames off the stream and queues
those that `is_valid_uart_rx_packet` accepts. Data throttling is compiled out.
-/

namespace EspHostedOpen.HostUart

open ByteCodec Framing RxFrames

def maxUartBufferSize : Nat := 1600              -- `MAX_UART_BUFFER_SIZE`

/-- `MAX_PAYLOAD_SIZE`. -/
def maxPayloadSize (build : Build) : Nat := maxUartBufferSize - build.headerSize

def espHciIf : UInt8 := 4                        -- `ESP_HCI_IF`

/-! ## Sending -/

/-- `interface_buffer_handle_t`. -/
structure Handle where
  ifType : UInt8
  ifNum : UInt8
  flag : UInt8
  seqNum : UInt16
  payload : List UInt8
  payloadZcopy : Bool
  payload_lt : payload.length < 65536            -- `payload_len` is an `uint16_t`
  deriving DecidableEq

structure WriteEnv where
  alloc : Bool                                   -- `h_uart_buffer_alloc`
  sent : Nat                                     -- how many bytes `_h_uart_write` takes
  deriving DecidableEq, Repr

/-- What a call returns, what is on the wire, and whether the buffer of the payload is freed. -/
structure Written where
  ret : EspErr
  wire : List UInt8
  freed : Bool
  deriving DecidableEq, Repr

/-- `_h_uart_write`, and what it returns compared with what it was given. -/
def Written.transmit (env : WriteEnv) (frame : List UInt8) (freed : Bool) : Written where
  ret := if env.sent = frame.length then espOk else espFail
  wire := frame.take env.sent
  freed := freed

/-- The header for a payload of `len` bytes. -/
def Handle.header (build : Build) (h : Handle) (len : Nat) (pktType : UInt8) : Header where
  ifType := h.ifType
  ifNum := h.ifNum
  flags := h.flag
  len := len.toUInt16
  offset := build.headerSize.toUInt16
  seqNum := h.seqNum
  pktType := pktType

/-- `h_uart_write_packet`. `none` where it reads the first byte of a payload that has none. -/
def hUartWritePacket (build : Build) (env : WriteEnv) (h : Handle) : Option Written :=
  if h.flag = 0 ∧ h.payload = [] then some ⟨espFail, [], false⟩
  else if h.payloadZcopy = false ∧ env.alloc = false then some ⟨espFail, [], false⟩
  else if maxPayloadSize build < h.payload.length then some ⟨espFail, [], true⟩
  else if (h.ifType &&& 0x0F) = espHciIf ∧ h.payloadZcopy = false then
    match h.payload with
    | [] => none
    | type :: payload =>
      -- the first byte goes into the header, and `len` is one less from here on
      some (.transmit env (packet build (h.header build payload.length type) payload)
        (!payload.isEmpty))
  else
    some (.transmit env (packet build (h.header build h.payload.length 0) h.payload)
      (!h.payload.isEmpty || h.payloadZcopy))

/-! ## Receiving -/

/-- What `push_to_rx_queue` queues. -/
structure Item where
  ifType : UInt8
  ifNum : UInt8
  flag : UInt8
  seqNum : Nat
  payload : List UInt8
  deriving DecidableEq, Repr

/-- `is_valid_uart_rx_packet`. -/
def isValidUartRxPacket (build : Build) (f : Frame) : Bool :=
  decide (f.len ≠ 0) && decide (f.len ≤ maxPayloadSize build) &&
    decide (f.offset = build.headerSize) &&
    f.checksumOk build (f.len + f.offset)

/-- `push_to_rx_queue`. -/
def Item.ofFrame (f : Frame) : Item := ⟨f.ifType, f.ifNum, f.flags, f.seqNum, f.payload⟩

/-- `from_slave_queue`. -/
abbrev Queues := PrioQ → List Item

/-- What is queued: a frame that was not read as a whole is dropped before it is copied. -/
def Queued (build : Build) (f : Frame) : Prop := uartRead build f = .accepted ∧
    isValidUartRxPacket build f = true

instance (f : Frame) : Decidable (Queued build f) := inferInstanceAs (Decidable (_ ∧ _))

/-- What one turn of `h_uart_read_task` does with the frame in the scratch buffer. -/
def receive (build : Build) (f : Frame) (queues : Queues) : Queues :=
  if Queued build f then Function.update queues f.queue
    (queues f.queue ++ [Item.ofFrame f]) else queues

/-- `h_uart_read_task`, for the frames read so far. -/
def hUartReadTask (build : Build) (frames : List Frame) (queues : Queues) : Queues :=
  frames.foldl (fun queues f => receive build f queues) queues

/-! ## What the driver does -/

section Write

variable {build : Build} {env : WriteEnv} {h : Handle} {w : Written}

/-- What stands behind the header. -/
def Handle.behind (h : Handle) : List UInt8 :=
  if (h.ifType &&& 0x0F) = espHciIf ∧ h.payloadZcopy = false then h.payload.tail else h.payload

/-- What goes into the last byte of the header. -/
def Handle.pktType (h : Handle) : UInt8 :=
  if (h.ifType &&& 0x0F) = espHciIf ∧ h.payloadZcopy = false then h.payload.headD 0 else 0

/-- The frame of a handle. -/
def Handle.frame (build : Build) (h : Handle) : List UInt8 :=
  packet build (h.header build h.behind.length h.pktType) h.behind

theorem Handle.length_behind_le (h : Handle) : h.behind.length ≤ h.payload.length := by
  unfold Handle.behind
  split
  · rw [List.length_tail]
    omega
  · exact Nat.le_refl _

/-- A call that succeeds has put the whole frame on the wire. -/
theorem wire_of_ok (hw : hUartWritePacket build env h = some w) (hret : w.ret = espOk) :
    w.wire = h.frame build ∧ h.payload.length ≤ maxPayloadSize build ∧
      (h.flag ≠ 0 ∨ h.payload ≠ []) ∧
      ((h.ifType &&& 0x0F) = espHciIf → h.payloadZcopy = false → h.payload ≠ []) := by
  have hsent : ∀ {frame : List UInt8} {freed : Bool},
    (Written.transmit env frame freed).ret = espOk →
      (Written.transmit env frame freed).wire = frame := by
    intro frame freed hok
    unfold Written.transmit at hok ⊢
    by_cases hall : env.sent = frame.length
    · rw [hall, List.take_length]
    · rw [if_neg hall] at hok
      exact absurd hok (show espFail ≠ espOk by decide)
  unfold hUartWritePacket at hw
  split at hw
  · cases hw
    exact absurd hret (by decide)
  rename_i hsome
  split at hw
  · cases hw
    exact absurd hret (by decide)
  split at hw
  · cases hw
    exact absurd hret (by decide)
  rename_i hmax
  have hsome' : h.flag ≠ 0 ∨ h.payload ≠ [] := by
    by_contra hcontra
    push Not at hcontra
    exact hsome hcontra
  split at hw
  · rename_i hhci
    split at hw
    · cases hw
    · rename_i type payload hpayload
      cases hw
      refine ⟨?_, Nat.le_of_not_lt hmax, hsome', fun _ _ => ?_⟩
      · rw [hsent hret, Handle.frame, Handle.behind, Handle.pktType, if_pos hhci,
          if_pos hhci, hpayload]
        rfl
      · rw [hpayload]
        exact List.cons_ne_nil _ _
  · rename_i hhci
    cases hw
    refine ⟨?_, Nat.le_of_not_lt hmax, hsome', fun h1 h2 => absurd ⟨h1, h2⟩ hhci⟩
    rw [hsent hret, Handle.frame, Handle.behind, Handle.pktType, if_neg hhci, if_neg hhci]

end Write

/-- **What is queued**: of the frames read, those that are valid, in their order. -/
theorem hUartReadTask_queue (build : Build) (fs : List Frame) (queues : Queues) (q : PrioQ) :
    hUartReadTask build fs queues q =
      queues q ++ (fs.filter fun f => Queued build f ∧ f.queue = q).map Item.ofFrame := by
  induction fs generalizing queues with
  | nil => exact (List.append_nil _).symm
  | cons f fs ih =>
    rw [hUartReadTask, List.foldl_cons, ← hUartReadTask, ih, List.filter_cons]
    by_cases h : Queued build f
    · rw [receive, if_pos h]
      by_cases hq : f.queue = q
      · subst hq
        rw [if_pos (decide_eq_true ⟨h, rfl⟩), Function.update_self, List.append_assoc]
        rfl
      · rw [if_neg fun ha => hq (of_decide_eq_true ha).2, Function.update_of_ne (Ne.symm hq)]
    · rw [receive, if_neg h, if_neg fun ha => h (of_decide_eq_true ha).1]

end EspHostedOpen.HostUart
