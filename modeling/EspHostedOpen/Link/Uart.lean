import EspHostedOpen.Host.UartDrv
import EspHostedOpen.Link.UartPackets
import EspHostedOpen.Slave.UartApi

/-!
# The UART from end to end (`uart_drv.c`, `uart_slave_api.c`, `esp_hosted_coprocessor.c`)

What one end reports as sent, the other end takes off the line packet by packet, in whatever pieces
the bytes come in. A byte that is damaged on the line costs its packet and no other, as long as it
is not in the length or in the offset of a header.
-/

namespace EspHostedOpen.UartLink

open ByteCodec Framing Fragments RxFrames HostUart UartApi

/-! ## From the host to the slave -/

/-- A call of `h_uart_write_packet` that has reported success. -/
structure Success (build : Build) where
  env : HostUart.WriteEnv
  handle : Handle
  written : Written
  call : hUartWritePacket build env handle = some written
  ok : written.ret = espOk

/-- The queue for an interface, of which the header has 4 bits. -/
def queueOf (ifType : UInt8) : PrioQ :=
  if (ifType &&& 0x0F) = 3 then .serial else if (ifType &&& 0x0F) = 4 then .bt else .others

/-- What the slave is to call for a packet. -/
def callFor (w : World) (h : Handle) : RxCall :=
  route w (h.ifType &&& 0x0F) h.payload ⟨h.seqNum, h.payload, h.flag &&& moreFragment ≠ 0⟩
    (if h.payloadZcopy then 0 :: h.payload else h.payload)

/-- The event for the flags of a packet. -/
def powerEvents (flags : UInt8) : List RxFrames.Event :=
  if flags &&& flagPowerSaveStarted ≠ 0 then [.powerSaveOn]
  else if flags &&& flagPowerSaveStopped ≠ 0 then [.powerSaveOff]
  else []

section ToSlave

variable {build : Build}

theorem toNat_headerSize (build : Build) : build.headerSize.toUInt16.toNat = build.headerSize := by
  unfold Build.headerSize
  split <;> rfl

namespace Success

def header (s : Success build) : Header :=
    s.handle.header build s.handle.behind.length s.handle.pktType

theorem wire_eq (s : Success build) : s.written.wire = packet build s.header s.handle.behind :=
  (wire_of_ok s.call s.ok).1

theorem framed (s : Success build) : Framed build bufferSize s.header s.handle.behind where
  len := by
    have hlt := s.handle.payload_lt
    have hle := s.handle.length_behind_le
    exact UInt16.toNat_ofNat_of_lt' (show s.handle.behind.length < 65536 by omega)
  offset := toNat_headerSize build
  limit := by
    have hmax : s.handle.payload.length ≤ 1600 - build.headerSize := (wire_of_ok s.call s.ok).2.1
    have hle := s.handle.length_behind_le
    have hsize : build.headerSize ≤ 14 := by
      unfold Build.headerSize
      split <;> decide
    change _ ≤ 1600
    omega

/-- The packet as the slave finds it in its scratch buffer. -/
def frame (s : Success build) : Frame := whole build s.header s.handle.behind

theorem frames (s : Success build) :
    (uartReader build bufferSize).Frames s.written.wire s.frame := by
  rw [s.wire_eq]
  exact frames_packet s.framed

/-- The first byte of an HCI packet and what stands behind the header are the packet. -/
theorem pktType_behind (s : Success build) (hhci : (s.handle.ifType &&& 0x0F) = espHciIf) :
    s.handle.pktType :: s.handle.behind = if s.handle.payloadZcopy then 0 ::
      s.handle.payload else s.handle.payload := by
  have hne := (wire_of_ok s.call s.ok).2.2.2 hhci
  unfold Handle.pktType Handle.behind
  cases hzcopy : s.handle.payloadZcopy with
  | true => simp
  | false =>
    rw [if_pos ⟨hhci, rfl⟩, if_pos ⟨hhci, rfl⟩]
    obtain ⟨type, payload, hpayload⟩ := List.exists_cons_of_ne_nil (hne hzcopy)
    rw [hpayload]
    rfl

theorem behind_of_ne (s : Success build) (hhci : (s.handle.ifType &&& 0x0F) ≠ espHciIf) :
    s.handle.behind = s.handle.payload := if_neg fun h => hhci h.1

end Success

theorem frame_ifType (s : Success build) : s.frame.ifType = (s.handle.ifType &&& 0x0F : UInt8) :=
  (readsBack_whole build s.header s.handle.behind).ifType

theorem frame_flags (s : Success build) : s.frame.flags = s.handle.flag :=
  (readsBack_whole build s.header s.handle.behind).flags

theorem frame_queue (s : Success build) : s.frame.queue = queueOf s.handle.ifType := by
  rw [Frame.queue, frame_ifType]
  rfl

/-- **What is called for a packet** that has come in whole. -/
theorem processRxPkt_checked (w : World) (s : Success build) :
    processRxPkt w (s.frame.checked build) = callFor w s.handle := by
  have hback : ReadsBack build s.header 0 s.handle.behind
      ⟨plain build s.header s.handle.behind, (packet build s.header s.handle.behind).length⟩ :=
        readsBack (by decide)
  have hpayload : (Frame.mk (plain build s.header s.handle.behind) _).payload = s.handle.behind :=
    payload_bytes s.framed (by decide : 0 < 2 ^ 16) (packet build s.header s.handle.behind).length
  have hhci := pktType_payload_plain s.framed (packet build s.header s.handle.behind).length
  rw [Success.frame, checked_whole, processRxPkt, callFor, hback.ifType, hback.flags, hback.seqNum,
    hpayload, hhci]
  refine route_congr s.behind_of_ne (fun hne => ?_) s.pktType_behind
  rw [s.behind_of_ne hne]
  exact congrArg (Fragment.mk · s.handle.payload _) (UInt16.ofNat_toNat)

theorem arrives_frame (q : PrioQ) (s : Success build) :
    Arrives build q s.frame ↔ queueOf s.handle.ifType = q := by
  rw [Arrives, frame_queue]
  exact and_iff_right (uartVerdict_whole s.framed)

/-- The calls for the packets of one queue. -/
theorem calls_queued (w : World) (sends : List (Success build)) (b : Nat) (p : Port) (q : PrioQ) :
    ((uartRxTask build b (sends.map Success.frame) p).queue q).map (fun e => processRxPkt w e.2) =
      (p.queue q).map (fun e => processRxPkt w e.2) ++
        (sends.filter fun s => queueOf s.handle.ifType = q).map fun s => callFor w s.handle := by
  have hqueue :=
    congrArg (List.map (processRxPkt w)) (queue_uartRxTask build (sends.map Success.frame) b p q)
  rw [List.map_map, List.map_append, List.map_map, List.map_map] at hqueue
  refine hqueue.trans (congrArg _ ?_)
  rw [List.filter_map, List.map_map]
  have hfilter : (sends.filter ((fun f => decide (Arrives build q f)) ∘ Success.frame)) =
      sends.filter fun s => queueOf s.handle.ifType = q := by
    refine List.filter_congr fun s _ => ?_
    exact decide_eq_decide.2 (arrives_frame q s)
  rw [hfilter]
  exact List.map_congr_left fun s _ => processRxPkt_checked w s

theorem events_powerSave (f : Frame) (p : Port) : (p.powerSave f).eventHandler = p.eventHandler ∧
    (p.powerSave f).events = p.events ++ if p.eventHandler then powerEvents f.flags else [] := by
  unfold Port.powerSave powerEvents
  cases hhandler : p.eventHandler with
  | false => split <;> simp [Port.raise, hhandler]
  | true =>
    split
    · simp [Port.raise, hhandler]
    · split <;> simp [Port.raise, hhandler]

/-- The events for the frames read: the flags are looked at before the checksum. -/
theorem events_uartRxTask {frames : List Frame}
    (hread : ∀ f ∈ frames, uartRead build f = .accepted) (b : Nat) (p : Port) :
    (uartRxTask build b frames p).events =
      p.events ++ if p.eventHandler then frames.flatMap fun f => powerEvents f.flags else [] := by
  induction frames generalizing b p with
  | nil => simp [uartRxTask]
  | cons f frames ih =>
    obtain ⟨hhandler, hevents⟩ : (uartRx build 0 b f p).eventHandler = p.eventHandler ∧
        (uartRx build 0 b f p).events =
          p.events ++ if p.eventHandler then powerEvents f.flags else [] := by
      rw [uartRx, hread f List.mem_cons_self]
      dsimp only
      split <;> exact events_powerSave f p
    rw [uartRxTask, ih (fun g hg => hread g (List.mem_cons_of_mem f hg)), hevents, hhandler,
      List.append_assoc]
    cases p.eventHandler <;> rfl

theorem events_sends (sends : List (Success build)) (b : Nat) (p : Port) :
    (uartRxTask build b (sends.map Success.frame) p).events =
      p.events ++ if p.eventHandler then sends.flatMap fun s =>
        powerEvents s.handle.flag else [] := by
  have hread : ∀ f ∈ sends.map Success.frame, uartRead build f = .accepted := by
    intro f hf
    obtain ⟨s, -, rfl⟩ := List.mem_map.1 hf
    exact uartRead_whole s.framed
  rw [events_uartRxTask hread, List.flatMap_map]
  simp only [frame_flags]

/-- What the slave has done for these packets, besides what it had done before. -/
structure Done (w : World) (sends : List (Success build)) (p p' : Port) : Prop where
  calls : ∀ q, (p'.queue q).map (fun e => processRxPkt w e.2) =
    (p.queue q).map (fun e => processRxPkt w e.2) ++
    (sends.filter fun s => queueOf s.handle.ifType = q).map fun s => callFor w s.handle
  events : p'.events = p.events ++ if p.eventHandler then sends.flatMap fun s =>
    powerEvents s.handle.flag else []

/-- **Host to slave, at any moment**: of the packets that were reported as sent, the slave has
queued those that have come in as a whole, and raised their events, in the order in which they were
sent; nothing else is queued, and nothing is held back. -/
theorem uart_host_to_slave (w : World) (sends : List (Success build)) (b : Nat) (p : Port)
    (pieces : List (List UInt8)) (later : List UInt8)
    (hstream : pieces.flatten ++ later = sends.flatMap fun s => s.written.wire) :
    ∃ k, Done w (sends.take k) p
        (uartRxTask build b (pieces.foldl (uartReader build bufferSize).feed ([], [])).1 p) ∧
      (pieces.foldl (uartReader build bufferSize).feed ([], [])).2 ++ later =
        (sends.drop k).flatMap (fun s => s.written.wire) ∧
      ∀ s ∈ (sends.drop k).head?,
        (pieces.foldl (uartReader build bufferSize).feed ([], [])).2.length <
          s.written.wire.length := by
  have hframes : ∀ s ∈ sends, (uartReader build bufferSize).Frames s.written.wire s.frame :=
    fun s _ => s.frames
  obtain ⟨k, hread, hleft⟩ := Reader.read_part hframes hstream
  rw [Reader.foldl_feed_start]
  refine ⟨k, ⟨fun q => ?_, ?_⟩, hleft, Reader.length_left_lt hframes hleft⟩
  · rw [hread]
    exact calls_queued w _ b p q
  · rw [hread]
    exact events_sends _ b p

def serialPacket : Success withChecksum where
  env := ⟨true, 15⟩
  handle := ⟨3, 0, 0, 0, [1, 2, 3], false, by decide⟩
  written := ⟨espOk, [3, 0, 3, 0, 12, 0, 24, 0, 0, 0, 0, 0, 1, 2, 3], true⟩
  call := rfl
  ok := rfl

def hciPacket : Success withChecksum where
  env := ⟨true, 13⟩
  handle := ⟨4, 0, 0, 0, [1, 9], false, by decide⟩
  written := ⟨espOk, [4, 0, 1, 0, 12, 0, 27, 0, 0, 0, 0, 1, 9], true⟩
  call := rfl
  ok := rfl

/-- Two packets, of which a part of the second is still to come. -/
theorem uart_host_to_slave_two :
    ∃ k, Done ⟨false, false⟩ ([serialPacket, hciPacket].take k) { eventHandler := true }
        (uartRxTask withChecksum 1
          ([[3, 0, 3, 0, 12], [0, 24, 0, 0, 0, 0, 0, 1, 2, 3, 4, 0, 1], [0]].foldl
          (uartReader withChecksum bufferSize).feed ([], [])).1 { eventHandler := true }) ∧
      ([[3, 0, 3, 0, 12], [0, 24, 0, 0, 0, 0, 0, 1, 2, 3, 4, 0, 1], [0]].foldl
          (uartReader withChecksum bufferSize).feed ([], [])).2 ++ [12, 0, 27, 0, 0, 0, 0, 1, 9] =
        ([serialPacket, hciPacket].drop k).flatMap (fun s => s.written.wire) ∧
      ∀ s ∈ ([serialPacket, hciPacket].drop k).head?,
        ([[3, 0, 3, 0, 12], [0, 24, 0, 0, 0, 0, 0, 1, 2, 3, 4, 0, 1], [0]].foldl
          (uartReader withChecksum bufferSize).feed ([], [])).2.length < s.written.wire.length :=
  uart_host_to_slave ⟨false, false⟩ [serialPacket, hciPacket] 1 { eventHandler := true }
    [[3, 0, 3, 0, 12], [0, 24, 0, 0, 0, 0, 0, 1, 2, 3, 4, 0, 1], [0]]
      [12, 0, 27, 0, 0, 0, 0, 1, 9] rfl

/-! ### Damage on the line -/

/-- A packet on its way to the slave. -/
abbrev Coming (build : Build) := Transit fun s : Success build => s.written.wire

theorem arrives_iff (hsum : build.checksum = true) (q : PrioQ) (t : Coming build) :
    Arrives build q t.arrived ↔ t.intact ∧ queueOf t.sent.handle.ifType = q := by
  have hok := t.checksumOk_iff Success.wire_eq Success.framed hsum (by decide)
  obtain ⟨hlen, hoffset, hreceived⟩ := t.arrived_fields Success.wire_eq Success.framed
  cases h : t.intact with
  | true =>
    rw [t.arrived_eq Success.wire_eq h]
    exact (arrives_frame q t.sent).trans (and_iff_right rfl).symm
  | false =>
    refine iff_of_false (fun ha => ?_) fun ha => Bool.false_ne_true ha.1
    have hverdict := ha.1
    rw [hoffset, h] at hok
    rw [uartVerdict, uartRead_accepted hlen hoffset hreceived t.sent.framed.limit] at hverdict
    dsimp only at hverdict
    rw [hlen] at hok
    rw [hlen, hok] at hverdict
    exact absurd hverdict (by decide)

theorem uartRead_arrived (t : Coming build) : uartRead build t.arrived = .accepted := by
  obtain ⟨hlen, hoffset, hreceived⟩ := t.arrived_fields Success.wire_eq Success.framed
  exact uartRead_accepted hlen hoffset hreceived t.sent.framed.limit

/-- The calls for the packets that come in, damaged or not. -/
theorem calls_arrived (hsum : build.checksum = true) (w : World) (coming : List (Coming build))
    (b : Nat) (p : Port) (q : PrioQ) :
    ((uartRxTask build b (coming.map Transit.arrived) p).queue q).map
    (fun e => processRxPkt w e.2) =
      (p.queue q).map (fun e => processRxPkt w e.2) ++
        (coming.filter fun t => t.intact ∧ queueOf t.sent.handle.ifType = q).map
          fun t => callFor w t.sent.handle := by
  have hqueue := congrArg (List.map (processRxPkt w))
    (queue_uartRxTask build (coming.map Transit.arrived) b p q)
  rw [List.map_map, List.map_append, List.map_map, List.map_map] at hqueue
  refine hqueue.trans (congrArg _ ?_)
  rw [List.filter_map, List.map_map]
  have hfilter : (coming.filter ((fun f => decide (Arrives build q f)) ∘ Transit.arrived)) =
      coming.filter fun t => t.intact ∧ queueOf t.sent.handle.ifType = q :=
    List.filter_congr fun t _ => decide_eq_decide.2 (arrives_iff hsum q t)
  rw [hfilter]
  refine List.map_congr_left fun t ht => ?_
  have hintact : t.intact = true := (of_decide_eq_true (List.mem_filter.1 ht).2).1
  change processRxPkt w (t.arrived.checked build) = _
  rw [t.arrived_eq Success.wire_eq hintact]
  exact processRxPkt_checked w t.sent

/-- **A damaged byte costs one packet**: with checksums, and as long as no length and no offset is
damaged, the slave queues exactly the packets that come in as they were sent, in whatever pieces.
The power-save events are those for the flags as they come in, be the packet damaged or not. -/
theorem uart_damage_is_local (hsum : build.checksum = true) (w : World)
    (coming : List (Coming build)) (b : Nat) (p : Port) (pieces : List (List UInt8))
    (hstream : pieces.flatten = coming.flatMap Transit.got) :
    let p' := uartRxTask build b (pieces.foldl (uartReader build bufferSize).feed ([], [])).1 p
    (∀ q, (p'.queue q).map (fun e => processRxPkt w e.2) =
      (p.queue q).map (fun e => processRxPkt w e.2) ++
        (coming.filter fun t => t.intact ∧ queueOf t.sent.handle.ifType = q).map
          fun t => callFor w t.sent.handle) ∧
    p'.events = p.events ++
      if p.eventHandler then coming.flatMap fun t => powerEvents t.arrived.flags else [] := by
  have hframes : ∀ t ∈ coming, (uartReader build bufferSize).Frames t.got t.arrived :=
    fun t _ => t.frames Success.wire_eq Success.framed
  have hread := Reader.read_frames hframes []
  rw [List.append_nil, Reader.read_none (Reader.next_nil _)] at hread
  intro p'
  have hp' : p' = uartRxTask build b (coming.map Transit.arrived) p := by
    simp only [p']
    rw [Reader.foldl_feed_start, hstream, hread, List.append_nil]
  have haccepted : ∀ f ∈ coming.map Transit.arrived, uartRead build f = .accepted := by
    intro f hf
    obtain ⟨t, -, rfl⟩ := List.mem_map.1 hf
    exact uartRead_arrived t
  rw [hp']
  refine ⟨calls_arrived hsum w coming b p, ?_⟩
  rw [events_uartRxTask haccepted, List.flatMap_map]

/-- A bit of the payload is lost. -/
def damagedPacket : Coming withChecksum where
  sent := serialPacket
  got := [3, 0, 3, 0, 12, 0, 24, 0, 0, 0, 0, 0, 1, 0, 3]
  intact := false
  arrival := Damaged.byte (a := 2) (b := 0) [3, 0, 3, 0, 12, 0, 24, 0, 0, 0, 0, 0, 1] [3]
    (by decide) (by decide)

def intactPacket : Coming withChecksum where
  sent := hciPacket
  got := [4, 0, 1, 0, 12, 0, 27, 0, 0, 0, 0, 1, 9]
  intact := true
  arrival := rfl

/-- A bit of the flags is damaged, and says that power save starts. -/
def flaggedPacket : Coming withChecksum where
  sent := serialPacket
  got := [3, 4, 3, 0, 12, 0, 24, 0, 0, 0, 0, 0, 1, 2, 3]
  intact := false
  arrival :=
    Damaged.byte (a := 0) (b := 4) [3] [3, 0, 12, 0, 24, 0, 0, 0, 0, 0, 1, 2, 3] (by decide)
    (by decide)

/-- Of three packets, the only one that is handled is the one that is not damaged. -/
theorem uart_damage_is_local_two :
    (∀ q, ((uartRxTask withChecksum 1
        ([damagedPacket.got ++ flaggedPacket.got ++ intactPacket.got].foldl
          (uartReader withChecksum bufferSize).feed ([], [])).1
          { eventHandler := true }).queue q).map
        (fun e => processRxPkt ⟨false, false⟩ e.2) = if .bt = q then [.hci [1, 9]] else []) ∧
    (uartRxTask withChecksum 1
        ([damagedPacket.got ++ flaggedPacket.got ++ intactPacket.got].foldl
          (uartReader withChecksum bufferSize).feed ([], [])).1 { eventHandler := true }).events =
      [.powerSaveOn] := by
  have h := uart_damage_is_local rfl ⟨false, false⟩ [damagedPacket, flaggedPacket, intactPacket] 1
    { eventHandler := true } [damagedPacket.got ++ flaggedPacket.got ++ intactPacket.got] rfl
  refine ⟨fun q => (h.1 q).trans ?_, h.2⟩
  cases q <;> rfl

end ToSlave

/-! ## From the slave to the host -/

/-- A call of `h_uart_write` that has not failed. -/
structure Reply (build : Build) where
  env : UartApi.WriteEnv
  handle : BufHandle
  ok : (hUartWrite build env handle).1 ≠ espFail

/-- What the host is to queue for a packet. -/
def itemFor (h : BufHandle) : Item :=
  ⟨(h.ifType &&& 0x0F : UInt8), (h.ifNum &&& 0x0F : UInt8), h.flag, h.seqNum.toNat, h.payload⟩

section ToHost

variable {build : Build}

namespace Reply

def wire (s : Reply build) : List UInt8 := (hUartWrite build s.env s.handle).2

theorem wire_framed (s : Reply build) : s.wire = packet build
    (s.handle.header build) s.handle.payload ∧
    Framed build maxUartBufferSize (s.handle.header build) s.handle.payload := by
  have hok := s.ok
  unfold wire
  unfold hUartWrite at hok ⊢
  split at hok
  · exact absurd rfl hok
  rw [if_neg ‹_›]
  split at hok
  · exact absurd rfl hok
  rw [if_neg ‹_›]
  split at hok
  · exact absurd rfl hok
  rw [if_neg ‹_›]
  rename_i hroom
  dsimp only at hok ⊢
  split at hok
  · rename_i hsent
    refine ⟨by rw [hsent, List.take_length], ⟨?_, toNat_headerSize build, ?_⟩⟩
    · exact UInt16.toNat_ofNat_of_lt' s.handle.payload_lt
    · have hmax : ¬bufferSize < build.headerSize + s.handle.payload.length := fun h =>
        hroom (.inr h)
      unfold bufferSize at hmax
      change _ ≤ 1600
      omega
  · exact absurd rfl hok

end Reply

/-- A packet on its way to the host. -/
abbrev Leaving (build : Build) := Transit fun s : Reply build => s.wire

/-- What the host queues: what is not damaged and has a payload. -/
theorem queued_iff (t : Leaving build) (hsum : build.checksum = true ∨ t.intact = true) :
    Queued build t.arrived ↔ t.intact ∧ t.sent.handle.payload ≠ [] := by
  have hwire : ∀ s : Reply build, s.wire = packet build (s.handle.header build) s.handle.payload :=
    fun s => s.wire_framed.1
  have hframed : ∀ s : Reply build,
    Framed build maxUartBufferSize (s.handle.header build) s.handle.payload :=
    fun s => s.wire_framed.2
  obtain ⟨hlen, hoffset, hreceived⟩ := t.arrived_fields hwire hframed
  have hlimit : t.sent.handle.payload.length + build.headerSize ≤ 1600 := (hframed t.sent).limit
  have hok : t.arrived.checksumOk build (t.arrived.len + t.arrived.offset) = t.intact := by
    rcases hsum with hsum | hintact
    · exact t.checksumOk_iff hwire hframed hsum (by decide)
    · rw [t.arrived_eq hwire hintact, hintact]
      exact checksumOk_whole (hframed t.sent)
  have hread : uartRead build t.arrived = .accepted :=
    uartRead_accepted hlen hoffset hreceived hlimit
  have hmax : t.sent.handle.payload.length ≤ maxPayloadSize build := by
    change _ ≤ 1600 - build.headerSize
    omega
  rw [Queued, isValidUartRxPacket, hok, hlen, hoffset]
  simp [hread, hmax, and_comm]

theorem itemFor_eq (t : Leaving build) (h : t.intact = true) :
    Item.ofFrame t.arrived = itemFor t.sent.handle := by
  obtain ⟨hwire, hframed⟩ := t.sent.wire_framed
  have hback := readsBack_whole build (t.sent.handle.header build) t.sent.handle.payload
  rw [t.arrived_eq (fun s => s.wire_framed.1) h, Item.ofFrame, hback.ifType, hback.ifNum,
    hback.flags, hback.seqNum, payload_whole hframed]
  rfl

/-- What the host queues of packets that have come in. -/
theorem queue_arrived (leaving : List (Leaving build))
    (hsum : build.checksum = true ∨ ∀ t ∈ leaving, t.intact = true) (queues : Queues) (q : PrioQ) :
    hUartReadTask build (leaving.map Transit.arrived) queues q =
      queues q ++ (leaving.filter fun t => (t.intact ∧ t.sent.handle.payload ≠ []) ∧
        queueOf t.sent.handle.ifType = q).map fun t => itemFor t.sent.handle := by
  rw [hUartReadTask_queue, List.filter_map, List.map_map]
  have hiff : ∀ t ∈ leaving, Queued build t.arrived ↔ t.intact ∧ t.sent.handle.payload ≠ [] :=
    fun t ht => queued_iff t (hsum.imp_right fun h => h t ht)
  have hfilter :
    (leaving.filter ((fun f => decide (Queued build f ∧ f.queue = q)) ∘ Transit.arrived)) =
      leaving.filter fun t => (t.intact ∧ t.sent.handle.payload ≠ []) ∧
        queueOf t.sent.handle.ifType = q := by
    refine List.filter_congr fun t ht => decide_eq_decide.2 ?_
    rw [hiff t ht]
    refine and_congr_right fun h => ?_
    rw [Frame.queue, t.arrived_eq (fun s => s.wire_framed.1) h.1,
      (readsBack_whole build (t.sent.handle.header build) t.sent.handle.payload).ifType]
    exact Iff.rfl
  rw [hfilter]
  refine congrArg _ (List.map_congr_left fun t ht => ?_)
  exact itemFor_eq t (of_decide_eq_true (List.mem_filter.1 ht).2).1.1

theorem leaving_frames (leaving : List (Leaving build)) :
    ∀ t ∈ leaving, (uartReader build maxUartBufferSize).Frames t.got t.arrived :=
  fun t _ => t.frames (fun s => s.wire_framed.1) fun s => s.wire_framed.2

/-- **Slave to host, at any moment**: of the packets that were sent, the host has queued those that
have come in as they were sent, without those that have no payload, in the order in which they were
sent; nothing else is queued, and nothing is held back. Without checksums, this is so as long as
nothing is damaged. -/
theorem uart_slave_to_host (leaving : List (Leaving build))
    (hsum : build.checksum = true ∨ ∀ t ∈ leaving, t.intact = true) (queues : Queues)
    (pieces : List (List UInt8))
    (later : List UInt8) (hstream : pieces.flatten ++ later = leaving.flatMap Transit.got) :
    ∃ k, (∀ q, hUartReadTask build
    (pieces.foldl (uartReader build maxUartBufferSize).feed ([], [])).1 queues q =
        queues q ++ ((leaving.take k).filter fun t =>
          (t.intact ∧ t.sent.handle.payload ≠ []) ∧ queueOf t.sent.handle.ifType = q).map
            fun t => itemFor t.sent.handle) ∧
      (pieces.foldl (uartReader build maxUartBufferSize).feed ([], [])).2 ++ later =
        (leaving.drop k).flatMap Transit.got ∧
      ∀ t ∈ (leaving.drop k).head?,
        (pieces.foldl (uartReader build maxUartBufferSize).feed ([], [])).2.length <
          t.got.length := by
  obtain ⟨k, hread, hleft⟩ := Reader.read_part (leaving_frames leaving) hstream
  rw [Reader.foldl_feed_start]
  refine ⟨k, fun q => ?_, hleft, Reader.length_left_lt (leaving_frames leaving) hleft⟩
  rw [hread]
  exact queue_arrived _ (hsum.imp_right fun h t ht => h t (List.mem_of_mem_take ht)) queues q

def wifiReply : Reply withChecksum where
  env := ⟨true, true, 14⟩
  handle := ⟨1, 0, 0, 5, [7, 8], 0, by decide⟩
  ok := by decide

def wholeReply : Leaving withChecksum where
  sent := wifiReply
  got := [1, 0, 2, 0, 12, 0, 35, 0, 5, 0, 0, 0, 7, 8]
  intact := true
  arrival := rfl

def damagedReply : Leaving withChecksum where
  sent := wifiReply
  got := [1, 0, 2, 0, 12, 0, 35, 0, 4, 0, 0, 0, 7, 8]
  intact := false
  arrival := Damaged.byte (a := 5) (b := 4) [1, 0, 2, 0, 12, 0, 35, 0] [0, 0, 0, 7, 8]
    (by decide) (by decide)

/-- A packet that comes in whole, and the front of one that comes in damaged. -/
theorem uart_slave_to_host_two :
    ∃ k, (∀ q, hUartReadTask withChecksum ([wholeReply.got, [1, 0]].foldl
          (uartReader withChecksum maxUartBufferSize).feed ([], [])).1 (fun _ => []) q =
        [] ++ (([wholeReply, damagedReply].take k).filter fun t =>
          (t.intact ∧ t.sent.handle.payload ≠ []) ∧ queueOf t.sent.handle.ifType = q).map
            fun t => itemFor t.sent.handle) ∧
      ([wholeReply.got, [1, 0]].foldl (uartReader withChecksum maxUartBufferSize).feed
      ([], [])).2 ++
          [2, 0, 12, 0, 35, 0, 4, 0, 0, 0, 7, 8] =
            ([wholeReply, damagedReply].drop k).flatMap Transit.got ∧
      ∀ t ∈ ([wholeReply, damagedReply].drop k).head?,
        ([wholeReply.got, [1, 0]].foldl (uartReader withChecksum maxUartBufferSize).feed
        ([], [])).2.length <
          t.got.length :=
  uart_slave_to_host [wholeReply, damagedReply] (.inl rfl) (fun _ => []) [wholeReply.got, [1, 0]]
    [2, 0, 12, 0, 35, 0, 4, 0, 0, 0, 7, 8] rfl

end ToHost

end EspHostedOpen.UartLink
