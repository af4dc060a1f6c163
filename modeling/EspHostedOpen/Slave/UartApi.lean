import EspHostedOpen.Lib.Fragments
import EspHostedOpen.Link.UartFrames
import EspHostedOpen.Proto.Messages

/-!
# The UART transport of the slave (`uart_slave_api.c`, `esp_hosted_coprocessor.c`)

`h_uart_write` sends one packet, `uart_rx_task` takes frames off the stream and queues them by their
interface. What a turn of the task makes of a frame is `RxFrames.uartRx`; `process_rx_pkt` is where
a queued frame goes. Data throttling is compiled out.
-/

namespace EspHostedOpen.UartApi

open ByteCodec Framing Fragments RxFrames

/-! ## Sending -/

/-- `interface_buffer_handle_t` of the slave, what `h_uart_write` reads of it. -/
structure BufHandle where
  ifType : UInt8
  ifNum : UInt8
  flag : UInt8
  seqNum : UInt16
  payload : List UInt8
  wifiFlowCtrlEn : UInt8
  payload_lt : payload.length < 65536            -- `payload_len` is an `uint16_t`

structure WriteEnv where
  active : Bool                                  -- `handle->state` is `ACTIVE`
  alloc : Bool                                   -- there is a block left in the pool
  sent : Nat                                     -- how many bytes `uart_write_bytes` takes
  deriving DecidableEq, Repr

/-- The header of a packet; its last byte is not filled in. -/
def BufHandle.header (build : Build) (h : BufHandle) : Header where
  ifType := h.ifType
  ifNum := h.ifNum
  flags := h.flag
  len := h.payload.length.toUInt16
  offset := build.headerSize.toUInt16
  seqNum := h.seqNum
  throttleCmd := h.wifiFlowCtrlEn

/-- `h_uart_write`: what it returns, and what is on the wire. The blocks of the pool are of
`BUFFER_SIZE` bytes. -/
def hUartWrite (build : Build) (env : WriteEnv) (h : BufHandle) : EspErr × List UInt8 :=
  if env.active = false then (espFail, [])
  else if h.wifiFlowCtrlEn = 0 ∧ h.payload = [] then (espFail, [])
  else if env.alloc = false ∨ bufferSize < build.headerSize + h.payload.length then (espFail, [])
  else
    let frame := packet build (h.header build) h.payload
    (if env.sent = frame.length then Int32.ofNat h.payload.length else espFail, frame.take env.sent)

/-! ## Receiving -/

/-- `uart_rx_task`, for the frames read so far: 0 is the scratch buffer, and the others are numbered
from `b` on. -/
def uartRxTask (build : Build) : Nat → List Frame → Port → Port
  | _, [], p => p
  | b, f :: fs, p => uartRxTask build (b + 1) fs (uartRx build 0 b f p)

/-- What `process_rx_pkt` calls for a frame. -/
inductive RxCall
  | wifiTx (ap : Bool) (payload : List UInt8)    -- `esp_wifi_internal_tx`
  | serial (f : Fragment UInt16 UInt8)  -- `process_serial_rx_pkt`, what it reads of the header
  | priv (payload : List UInt8)                  -- `process_priv_pkt`
  | hci (payload : List UInt8)                   -- `esp_vhci_host_send_packet`
  | nothing
  deriving DecidableEq

/-- What `process_rx_pkt` looks at. -/
structure World where
  stationConnected : Bool
  softapStarted : Bool
  deriving DecidableEq, Repr

def moreFragment : UInt8 := 1                    -- `MORE_FRAGMENT`

/-- The branches of `process_rx_pkt`. -/
def route (w : World) (ifType : UInt8) (payload : List UInt8) (serial : Fragment UInt16 UInt8)
    (hci : List UInt8) :
    RxCall :=
  if ifType = 1 ∧ w.stationConnected then .wifiTx false payload
  else if ifType = 2 ∧ w.softapStarted then .wifiTx true payload
  else if ifType = 3 then .serial serial
  else if ifType = 5 then .priv payload
  else if ifType = 4 then .hci hci
  else .nothing

/-- `process_rx_pkt`, with `process_hci_rx_pkt`: the latter takes the last byte of the header
along. -/
def processRxPkt (w : World) (f : Frame) : RxCall :=
  route w f.ifType f.payload ⟨f.seqNum.toUInt16, f.payload, f.flags &&& moreFragment ≠ 0⟩
    (slice (f.offset - 1) (f.len + 1) f.buf)

/-- Only HCI packets are passed on with what stands in front of the payload. -/
theorem route_congr {w : World} {ifType : UInt8} {payload payload' hci hci' : List UInt8}
    {serial serial' : Fragment UInt16 UInt8} (hpayload : ifType ≠ 4 → payload = payload')
    (hserial : ifType ≠ 4 → serial = serial') (hhci : ifType = 4 → hci = hci') :
    route w ifType payload serial hci = route w ifType payload' serial' hci' := by
  by_cases h4 : ifType = 4
  · subst h4
    rw [hhci rfl]
    rfl
  · rw [hpayload h4, hserial h4, route, if_neg h4, route, if_neg h4]

/-! ## What the task queues -/

section Queue

variable {build : Build}

theorem queue_checked (f : Frame) : (f.checked build).queue = f.queue := by
  have hfirst : f.clearChecksum.ifType = f.ifType := by
    obtain ⟨buf, received⟩ := f
    cases buf <;> rfl
  unfold Frame.checked
  split
  · rw [Frame.queue, Frame.queue, hfirst]
  · rfl

/-- Accepted, and of this queue. -/
def Arrives (build : Build) (q : PrioQ) (f : Frame) :
    Prop := uartVerdict build f = .accepted ∧ f.queue = q

instance (q : PrioQ) (f : Frame) : Decidable (Arrives build q f) := inferInstanceAs
    (Decidable (_ ∧ _))

/-- A turn of the task on a frame that is read as a whole and has the right checksum. -/
theorem queue_uartRx_accepted {scratch copy : Nat} {f : Frame} (p : Port)
    (h : uartVerdict build f = .accepted)
    (q : PrioQ) : ((uartRx build scratch copy f p).queue q).map Prod.snd =
      (p.queue q).map Prod.snd ++ if f.queue = q then [f.checked build] else [] := by
  have hread : uartRead build f = .accepted := by
    unfold uartVerdict at h
    split at h
    · assumption
    · rename_i hne
      exact absurd h hne
  rw [uartRx, hread]
  dsimp only
  rw [h]
  dsimp only
  rw [Port.load, Port.send, queue_checked, (quiet_powerSave f p).queue]
  dsimp only
  by_cases hq : f.queue = q
  · subst hq
    rw [Function.update_self, if_pos rfl, List.map_append]
    rfl
  · rw [Function.update_of_ne (Ne.symm hq), if_neg hq, List.append_nil]

/-- A turn of the task on any other frame. -/
theorem queue_uartRx_dropped {scratch copy : Nat} {f : Frame} (p : Port)
    (h : uartVerdict build f ≠ .accepted) :
    (uartRx build scratch copy f p).queue = p.queue := by
  have hquiet := (quiet_powerSave f p).queue
  unfold uartRx
  split
  · split
    · exact absurd ‹_› h
    · exact hquiet
  · rfl

/-- **What is queued**: of the frames read, those that are accepted, in their order. -/
theorem queue_uartRxTask (build : Build) (fs : List Frame) (b : Nat) (p : Port) (q : PrioQ) :
    ((uartRxTask build b fs p).queue q).map Prod.snd = (p.queue q).map Prod.snd ++
      (fs.filter fun f => Arrives build q f).map (Frame.checked build) := by
  induction fs generalizing b p with
  | nil => exact (List.append_nil _).symm
  | cons f fs ih =>
    rw [uartRxTask, ih]
    by_cases h : uartVerdict build f = .accepted
    · rw [queue_uartRx_accepted p h]
      by_cases hq : f.queue = q
      · rw [if_pos hq, List.filter_cons, if_pos (decide_eq_true ⟨h, hq⟩), List.append_assoc]
        rfl
      · rw [if_neg hq, List.append_nil, List.filter_cons, if_neg fun ha =>
          hq (of_decide_eq_true ha).2]
    · rw [queue_uartRx_dropped p h, List.filter_cons, if_neg fun ha => h (of_decide_eq_true ha).1]

end Queue

end EspHostedOpen.UartApi
