import EspHostedOpen.Host.SerialStream
import EspHostedOpen.Link.Uart
import EspHostedOpen.Slave.Reassembly

/-!
# Requests from end to end (`serial_if.c`, `uart_drv.c`, `esp_hosted_coprocessor.c`,
`protocomm_pserial.c`)

A request of the host is composed, cut into fragments, sent over the UART among the packets of the
other interfaces, put together again by the slave, and parsed.
-/

namespace EspHostedOpen.SerialLink

open ByteCodec Framing Fragments Transition Records RxFrames HostUart HostSerialTx UartApi UartLink
  Reassembly Tlv

/-! ## What a request parses to -/

section Parse

variable {ep data : List UInt8}

theorem strlen_copyFront {n : Nat} (hlen : ep.length < n) (hnul : 0 ∉ ep) :
    strlen (copyFront ep (List.replicate n 0)) = ep.length ∧
      (copyFront ep (List.replicate n 0)).take ep.length = ep := by
  obtain ⟨k, rfl⟩ : ∃ k, n = ep.length + (k + 1) := ⟨n - ep.length - 1, by omega⟩
  have hcopy : copyFront ep (List.replicate (ep.length + (k + 1)) 0) =
    ep ++ 0 :: List.replicate k 0 := by
    rw [copyFront, List.length_replicate, List.take_of_length_le (by omega), List.drop_replicate,
      Nat.add_sub_cancel_left]
    rfl
  rw [hcopy]
  exact ⟨strlen_append_zero hnul _, List.take_left⟩

/-- The handler finds the endpoint and the data, whatever stands behind the request. -/
theorem rpcReqHandler_two (hep : 1 ≤ ep.length ∧ ep.length ≤ 14) (hnul : 0 ∉ ep)
    (hdata : 1 ≤ data.length ∧ data.length ≤ 65535) (beyond : Nat → UInt8) {fuel : Nat}
    (hfuel : 3 ≤ fuel) :
    ∃ p, rpcReqHandler (memory ((epnameTlv ep).bytes ++ (dataTlv data).bytes) beyond) fuel
      ((epnameTlv ep).bytes ++ (dataTlv data).bytes).length.toUInt32 =
        some (p, .ok ⟨ep, data⟩) := by
  obtain ⟨n, rfl⟩ : ∃ n, fuel = n + 3 := ⟨fuel - 3, by omega⟩
  generalize hs : (epnameTlv ep).bytes ++ (dataTlv data).bytes = s
  have hsize : s.length < 4294967296 := by
    rw [← hs]
    simp [Record.bytes, epnameTlv, dataTlv]
    omega
  have hat := at_start hsize
  -- the endpoint, the data, and the end
  have hhead : tlv.head? (s.drop 0) = some (epnameTlv ep, (dataTlv data).bytes ++ []) := by
    rw [List.drop_zero, ← hs, List.append_nil]
    exact head?_epnameTlv hep.2 _
  obtain ⟨q, hturn, hat1, hrest, hepname, -, -⟩ := turn_epnameTlv beyond hat hep.2 hhead
  have hhead1 : tlv.head? (s.drop (0 + (3 + ep.length))) = some (dataTlv data, []) := by
    rw [← hrest]
    exact head?_dataTlv hdata.2 []
  obtain ⟨q', ptr, hturn', hat2, hrest', hepname', hptr, hdatalen, hbytes, -⟩ :=
    turn_dataTlv beyond hat1 hhead1
  have hturn'' := turn_end beyond hat2 (List.drop_eq_nil_iff.1 hrest'.symm)
  have hparse : parse (memory s beyond) (n + 3) { totalLen := s.length.toUInt32 } =
    some (.done q') := by
    rw [parse, hturn]
    dsimp only
    rw [parse, hturn']
    dsimp only
    rw [parse, hturn'']
  have hname := strlen_copyFront (n := epnameMax) (Nat.lt_of_le_of_lt hep.2 (by decide)) hnul
  rw [← hepname, ← hepname'] at hname
  have hnonempty : ¬(q'.dataLen = 0 ∨ strlen q'.epname = 0) := by
    rw [hname.1]
    rintro (hzero | hzero)
    · have hz : (0 : UInt32).toNat = 0 := rfl
      rw [hzero] at hdatalen
      omega
    · omega
  refine ⟨{ q' with reads := q'.reads ++ [(ptr, q'.dataLen.toNat)] }, ?_⟩
  rw [rpcReqHandler, hparse, Option.map_some, accept]
  simp only [hptr]
  rw [if_neg hnonempty, hbytes, hname.1, hname.2]

end Parse

/-! ## What the slave puts together -/

/-- The fragments that `process_serial_rx_pkt` is called for, of what is queued. -/
def serialCalls (w : World) (entries : List (Nat × Frame)) : List Frag :=
  entries.filterMap fun e =>
    match processRxPkt w e.2 with
    | .serial f => some f
    | _ => none

/-- What the slave has put together of a stream, wherever the two tasks stand. -/
theorem assembled_take {reqs : List (List UInt8)} {pre post : List Frag} {build : Build}
    (hfits : ∀ data ∈ reqs, tlvSize + data.length ≤ maxFragmentablePayloadSize)
    (hstream : pre ++ post = requestStream build reqs) {r : Reassembly.State}
    (hreach : Reach Reassembly.step InOrder { input := pre } r) :
    ∃ k, r.parsed ++ r.task.inHand ++ r.queue = (reqs.take k).map message ∧
      (r.Quiet → post = [] → r.parsed = reqs.map message) := by
  have hflatten :
    (reqs.map fun data => ((0 : UInt16), pieces (maxPayloadSize build) (message data))).map
      (fun m => m.2.flatten) = reqs.map message := by
    rw [List.map_map]
    exact List.map_congr_left fun data _ => flatten_pieces _ _
  have hfitting : Fitting rxDataSize {} (requestStream build reqs) := by
    refine fitting_stream (fun m hm => ?_) rfl rfl
    obtain ⟨data, hdata, rfl⟩ := List.mem_map.1 hm
    rw [flatten_pieces]
    refine ⟨List.ne_nil_of_length_pos ?_, ?_⟩
    · rw [length_message]
      exact Nat.lt_of_lt_of_le (by decide) (Nat.le_add_right _ _)
    · rw [length_message]
      exact hfits data hdata
  rw [← hstream] at hfitting
  have hinv : Inv pre r :=
    hreach.invariant (inv_start hfitting.of_append) fun hs hguard hstep => inv_step hs hguard hstep
  have hall : (assemble (requestStream build reqs)).done = reqs.map message := by
    rw [requestStream, assemble_stream fun m hm => ?_]
    · exact hflatten
    · obtain ⟨data, -, rfl⟩ := List.mem_map.1 hm
      exact pieces_ne_nil _ _
  have hprefix : r.taken ++ (r.upcoming ++ post) = requestStream build reqs := by
    rw [← List.append_assoc, hinv.stream, hstream]
  refine ⟨completed r.taken, ?_, fun hquiet hpost => ?_⟩
  · rw [hinv.account, done_eq_take hprefix, hall, List.map_take]
  · obtain ⟨hrx, hinput, htask, hqueue⟩ := hquiet
    have hnone : r.upcoming = [] := by rw [State.upcoming, hrx, hinput]; rfl
    rw [hnone, hpost, List.append_nil, List.append_nil] at hprefix
    have haccount := hinv.account
    rwa [htask, hqueue, hprefix, hall, TaskPc.inHand, List.append_nil, List.append_nil] at haccount

/-! ## From end to end -/

section Requests

variable {build : Build}

/-- The packets of the serial interface, as the write task has sent them. -/
def serialPackets (sends : List (Success build)) : List (Handle × Written) :=
  (sends.filter fun s => queueOf s.handle.ifType = .serial).map fun s => (s.handle, s.written)

/-- What the slave is to put together of the packets that it has queued. -/
theorem serialCalls_queued (w : World) (sends : List (Success build)) (b : Nat) (p : Port)
    (hempty : p.queue .serial = [])
    (hserial : ∀ s ∈ sends, queueOf s.handle.ifType = .serial → s.handle.ifType = espSerialIf) :
    serialCalls w ((uartRxTask build b (sends.map Success.frame) p).queue .serial) =
      (serialPackets sends).map fun p => fragmentOf p.1 := by
  have hcalls := calls_queued w sends b p .serial
  rw [hempty, List.map_nil, List.nil_append] at hcalls
  have hsplit : serialCalls w ((uartRxTask build b (sends.map Success.frame) p).queue .serial) =
      (((uartRxTask build b (sends.map Success.frame) p).queue .serial).map fun e =>
        processRxPkt w e.2).filterMap
        fun call => match call with
          | .serial f => some f
          | _ => none := by
    rw [List.filterMap_map]
    rfl
  rw [hsplit, hcalls, serialPackets, List.map_map, List.filterMap_map, ← List.filterMap_eq_map]
  refine List.filterMap_congr fun s hs => ?_
  obtain ⟨hs, hqueue⟩ := List.mem_filter.1 hs
  have hif := hserial s hs (of_decide_eq_true hqueue)
  have hroute : callFor w s.handle = .serial (fragmentOf s.handle) := by
    rw [callFor, hif]
    rfl
  rw [Function.comp_apply, hroute]
  rfl

/-- **Requests from end to end**: the requests that the host has taken are, in their order and
whole, in the slave's queue or parsed; each of them parses to the endpoint and the data of the host;
and once all is sent and received, all are parsed. The UART may carry packets of other interfaces
between theirs, and the bytes may come in in any pieces. -/
theorem requests_arrive {as : List HostSerialTx.Action} {h : HostSerialTx.State}
    (hrun : run (HostSerialTx.step build) {} as = some h)
    (hthrough : AllSteps (HostSerialTx.step build) (Through build) {} as)
    (sends : List (Success build)) (hsends : serialPackets sends = h.line)
    (pieces : List (List UInt8)) (later : List UInt8)
    (hbytes : pieces.flatten ++ later = sends.flatMap fun s => s.written.wire)
    (w : World) (b : Nat) (p : Port) (hempty : p.queue .serial = []) {r : Reassembly.State}
    (hreach : Reach Reassembly.step InOrder { input := serialCalls w ((uartRxTask build b
      (pieces.foldl (uartReader build bufferSize).feed ([], [])).1 p).queue .serial) } r) :
    ∃ k, r.parsed ++ r.task.inHand ++ r.queue = ((requests as).take k).map message ∧
      (∀ data ∈ requests as, ∀ beyond, ∀ fuel ≥ 3, ∃ parser,
        rpcReqHandler (memory (message data) beyond) fuel
        (message data).length.toUInt32 = some (parser, .ok ⟨rpcEpNameRsp, data⟩)) ∧
      (h.writing = none → h.pending = [] → later = [] → r.Quiet →
        r.parsed = (requests as).map message) := by
  have hstreamed := streamed_run (streamed_start build) hthrough hrun
  rw [List.nil_append] at hstreamed
  -- the packets that the slave has taken off the line
  have hframes : ∀ s ∈ sends, (uartReader build bufferSize).Frames s.written.wire s.frame :=
    fun s _ => s.frames
  obtain ⟨k, hread, hleft⟩ := Reader.read_part hframes hbytes
  rw [Reader.foldl_feed_start, hread] at hreach
  have hserial : ∀ s ∈ sends.take k, queueOf s.handle.ifType = .serial →
    s.handle.ifType = espSerialIf := by
    intro s hs hqueue
    have hmem : (s.handle, s.written) ∈ h.line := by
      rw [← hsends]
      exact List.mem_map_of_mem (List.mem_filter.2 ⟨List.mem_of_mem_take hs, decide_eq_true hqueue⟩)
    obtain ⟨-, -, -, hif, -⟩ := hstreamed.ok _ hmem
    exact hif
  rw [serialCalls_queued w _ b p hempty hserial] at hreach
  -- are the front of the stream
  have hsplit : (serialPackets (sends.take k)).map (fun p => fragmentOf p.1) ++
      (((serialPackets (sends.drop k)).map fun p => fragmentOf p.1) ++ (h.queued ++ h.rest build)) =
        requestStream build (requests as) := by
    rw [← List.append_assoc, ← List.map_append, ← hstreamed.stream, State.sent, ← hsends,
      serialPackets, serialPackets,
      serialPackets, ← List.map_append, ← List.filter_append, List.take_append_drop]
  obtain ⟨n, haccount, hall⟩ :=
    assembled_take (fun data hdata => (hstreamed.fits data hdata).2) hsplit hreach
  refine ⟨n, haccount, fun data hdata beyond fuel hfuel => ?_,
    fun hwriting hpending hlater hquiet =>
    hall hquiet ?_⟩
  · obtain ⟨hne, hfits⟩ := hstreamed.fits data hdata
    have hlen : data.length ≤ 65535 := by
      unfold maxFragmentablePayloadSize at hfits
      omega
    exact rpcReqHandler_two (by decide) (by decide)
      ⟨List.length_pos_of_ne_nil hne, hlen⟩ beyond hfuel
  · have hnone : sends.drop k = [] := by
      rw [hlater, List.append_nil] at hleft
      exact Reader.drop_eq_nil hframes hleft
    have hrest : h.rest build = [] := by rw [State.rest, hwriting]
    have hqueued : h.queued = [] := by rw [State.queued, hpending]; rfl
    rw [hnone, hrest, hqueued]
    rfl

end Requests

/-! ### Two requests -/

/-- The test behind `requests_arrive_two`. -/
def through (build : Build) (s : HostSerialTx.State) : HostSerialTx.Action → Bool
  | .send env data => !decide (Buffered env data) ||
      (env.valid && env.active && decide (tlvSize + data.length ≤ maxFragmentablePayloadSize))
  | .tx up => up
  | .write env =>
    env.alloc && match s.task with
      | .took e => env.sent == build.headerSize + e.len.toNat
      | _ => true
  | .dequeue => true
  | .free => true

theorem through_of_test {build : Build} (s : HostSerialTx.State) (a : HostSerialTx.Action)
    (h : through build s a = true) : Through build s a := by
  cases a with
  | send env data =>
    intro hbuffered
    simpa [through, hbuffered, Taken, and_assoc] using h
  | tx up => exact h
  | write env =>
    obtain ⟨halloc, hsent⟩ := Bool.and_eq_true_iff.1 h
    refine ⟨halloc, fun e he => ?_⟩
    rw [he] at hsent
    exact eq_of_beq hsent
  | dequeue => trivial
  | free => trivial

/-- What a call that succeeds has sent. -/
def successOf (build : Build) (env : HostUart.WriteEnv) (h : Handle)
    (hok : (hUartWritePacket build env h).map Written.ret = some espOk) : Success build where
  env := env
  handle := h
  written := (hUartWritePacket build env h).get
    ((Option.isSome_map ..).symm.trans (congrArg Option.isSome hok))
  call := (Option.some_get _).symm
  ok := by
    obtain ⟨w, hw, hret⟩ := Option.map_eq_some_iff.1 hok
    exact (congrArg Written.ret (Option.get_of_eq_some _ hw)).trans hret

/-- One that does not fit into a packet. -/
def longRequest : List UInt8 := List.replicate 1600 7

/-- The second request is made while the first is on its way. -/
def twoRequests : List HostSerialTx.Action :=
  [.send ⟨true, true, true, true⟩ longRequest, .tx true, .dequeue, .tx true, .write ⟨true, 1600⟩,
    .send ⟨true, true, true, true⟩ [9], .dequeue, .write ⟨true, 36⟩, .tx true, .free, .dequeue,
    .write ⟨true, 25⟩, .free]

def frontPacket : Success withChecksum :=
  successOf withChecksum ⟨true, 1600⟩ (Entry.handle ⟨0, 0, 1588, 1, false⟩ (message longRequest))
    (by decide +kernel)

def rearPacket : Success withChecksum :=
  successOf withChecksum ⟨true, 36⟩ (Entry.handle ⟨0, 1588, 24, 0, true⟩ (message longRequest))
    (by decide +kernel)

def nextPacket : Success withChecksum :=
  successOf withChecksum ⟨true, 25⟩ (Entry.handle ⟨1, 0, 13, 0, true⟩ (message [9]))
    (by decide +kernel)

/-- A packet of another interface. -/
def stationPacket : Success withChecksum :=
  successOf withChecksum ⟨true, 14⟩ ⟨1, 0, 0, 0, [5, 6], false, by decide⟩ (by decide +kernel)

def packets : List (Success withChecksum) := [frontPacket, stationPacket, rearPacket, nextPacket]

/-- The bytes as they come in: the first piece ends inside a packet. -/
def arrivals : List (List UInt8) :=
  [(packets.flatMap fun s => s.written.wire).take 1605,
    (packets.flatMap fun s => s.written.wire).drop 1605]

/-- What the slave gets to put together of them. -/
def twoInput : List Frag := serialCalls ⟨false, false⟩ ((uartRxTask withChecksum 1
  (arrivals.foldl (uartReader withChecksum bufferSize).feed ([], [])).1
    { eventHandler := false }).queue .serial)

/-- Both fragments of the first request, and the second one. -/
def twoReceptions : List Reassembly.Action :=
  List.replicate 20 (.rx true) ++ parseRun ++ receiveRun ++ parseRun

/-- A request in two fragments, with a packet of another interface between them, and one more. -/
theorem requests_arrive_two : ∃ r : Reassembly.State,
    r.parsed = [message longRequest, message [9]] ∧
      ∀ data ∈ [longRequest, [9]], ∀ beyond, ∀ fuel ≥ 3, ∃ parser,
        rpcReqHandler (memory (message data) beyond) fuel (message data).length.toUInt32 =
          some (parser, .ok ⟨rpcEpNameRsp, data⟩) := by
  have hhost : (run (guarded (through withChecksum) (HostSerialTx.step withChecksum)) {}
      twoRequests).map (fun h => (h.line, h.writing, h.pending)) =
        some (serialPackets packets, none, []) := by
    decide +kernel
  have hslave : (run (guarded inOrder Reassembly.step) { input := twoInput } twoReceptions).map
      (fun r => decide r.Quiet) = some true := by
    decide +kernel
  obtain ⟨h, hrun, hend⟩ := Option.map_eq_some_iff.1 hhost
  obtain ⟨hline, hrest⟩ := Prod.mk.inj hend
  obtain ⟨hwriting, hpending⟩ := Prod.mk.inj hrest
  obtain ⟨r, hr, hquiet⟩ := Option.map_eq_some_iff.1 hslave
  obtain ⟨k, -, hparses, hall⟩ := requests_arrive (run_of_guarded_run hrun)
    (allSteps_of_guarded_run through_of_test hrun) packets hline.symm arrivals []
    (by rw [arrivals, List.flatten_cons, List.flatten_singleton, List.append_nil,
      List.take_append_drop]) ⟨false, false⟩ 1 { eventHandler := false } rfl
    (reach_of_guarded_run inOrder_of_test hr)
  have hreqs : requests twoRequests = [longRequest, [9]] := by decide +kernel
  rw [hreqs] at hparses hall
  exact ⟨r, hall hwriting hpending rfl (of_decide_eq_true hquiet), hparses⟩

end EspHostedOpen.SerialLink
