import EspHostedOpen.Slave.Table

/-!
# The reply contract

A handler answers a long enough request with exactly one message and a short one with none, and
never reads past the delivered bytes.

Two judgements carry the proof through a handler's text. `Quiet r c`: on the input `r`, `c` sends
nothing and reads in bounds. `Replies rpc r op c`: besides that, `c` sends the one response of `rpc`
to `op`. A handler is `unpackReq` in front of something that replies (`Obeys.unpackReq`), most of
them `answering` a quiet action (`Obeys.answering`).
-/

namespace EspHostedOpen

open ByteCodec

/-! ## The contract -/

/-- The length of the body behind the response header. Only GET_PHY_RSSI sends its byte with every
status, where `malloc` gave it a buffer. -/
def BodyLength (rpc : Rpc) (malloc : Bool) (st : EspErr) (body : List UInt8) : Prop :=
  body.length =
    if rpc = .getPhyRssi then if malloc then 1 else 0
    else if st = espOk then rpc.respStruct.sizeof - phyRpcRespHdr.sizeof else 0

/-- A message is a response to the request bytes `data`. -/
def IsResponse (rpc : Rpc) (malloc : Bool) (data : List UInt8) (m : UInt32 × List UInt8) : Prop :=
  m.1 = rpc.req ||| 0x8000 ∧
    ∃ st body, m.2 = slice 0 4 data ++ i32Bytes st ++ body ∧ BodyLength rpc malloc st body

/-- **The reply contract** of a handler for `rpc`. -/
def Obeys (rpc : Rpc) (h : Handler Unit) : Prop :=
  ∀ (r : Input) (s : SlaveState),
    (∀ i ∈ reads (h r s).events, i < r.data.length) ∧
      if r.data.length < rpc.reqStruct.sizeof then sends (h r s).events = []
      else ∃ m, sends (h r s).events = [m] ∧ IsResponse rpc r.env.malloc r.data m

/-! ## Quiet actions -/

/-- Reads in bounds and no message. -/
def Silent (len : Nat) : Event → Prop
  | .read i => i < len
  | .send _ _ => False
  | _ => True

abbrev Quiet {α : Type} (r : Input) (c : Handler α) : Prop := Cmd.Emits (Silent r.data.length) r c

section Quiet

variable {α : Type} {r : Input}

theorem Quiet.sends_eq_nil {c : Handler α} (h : Quiet r c) (s : SlaveState) :
    sends (c r s).events = [] := by
  refine List.filterMap_eq_nil_iff.2 fun e he => ?_
  have hsil := h s e he
  cases e <;> first | rfl | exact hsil.elim

theorem Quiet.reads_lt {c : Handler α} (h : Quiet r c) (s : SlaveState) :
    ∀ i ∈ reads (c r s).events, i < r.data.length := by
  intro i hi
  obtain ⟨e, he, hei⟩ := List.mem_filterMap.1 hi
  have hsil := h s e he
  cases e with
  | read j => cases hei; exact hsil
  | _ => cases hei

theorem quiet_readBytes {off n : Nat} (h : off + n ≤ r.data.length) : Quiet r
    (readBytes off n) := by
  intro s e he
  obtain ⟨i, hi, rfl⟩ := List.mem_map.1 he
  exact Nat.lt_of_lt_of_le (List.mem_range'_1.1 hi).2 h

theorem quiet_readU8 {off : Nat} (h : off + 1 ≤ r.data.length) : Quiet r (readU8 off) :=
  .map _ (quiet_readBytes h)

theorem quiet_readI8 {off : Nat} (h : off + 1 ≤ r.data.length) : Quiet r (readI8 off) :=
  .map _ (quiet_readU8 h)

theorem quiet_readU16 {off : Nat} (h : off + 2 ≤ r.data.length) : Quiet r (readU16 off) :=
  .map _ (quiet_readBytes h)

theorem quiet_readU32 {off : Nat} (h : off + 4 ≤ r.data.length) : Quiet r (readU32 off) :=
  .map _ (quiet_readBytes h)

theorem quiet_readU64 {off : Nat} (h : off + 8 ≤ r.data.length) : Quiet r (readU64 off) :=
  .map _ (quiet_readBytes h)

theorem quiet_ask (f : Input → α) : Quiet r (Cmd.ask f : Handler α) := by
  intro s e he
  cases he

theorem quiet_callPhy (c : PhyCall) : Quiet r (callPhy c) := .emit trivial

theorem quiet_callDrv (c : DrvCall) : Quiet r (callDrv c) := by
  intro s e he
  rw [List.mem_singleton.1 he]
  trivial

theorem quiet_callOs (c : OsCall) : Quiet r (callOs c) := by
  intro s e he
  rw [List.mem_singleton.1 he]
  trivial

theorem quiet_getPhy (c : PhyCall) (sym : Sym) : Quiet r (getPhy c sym) := by
  intro s e he
  rw [List.mem_singleton.1 he]
  trivial

theorem quiet_setState (f : PhyState → PhyState) : Quiet r (setState f) := .modify _

theorem quiet_ifResolved (sym : Sym) (c : PhyCall) : Quiet r (ifResolved sym c) :=
  .bind (quiet_ask _) fun _ => .ite (fun _ => quiet_callPhy c) fun _ => .pure ()

theorem quiet_hookOpt {sym : Sym} {act : Handler Unit} (h : Quiet r act) : Quiet r
    (hookOpt sym act) :=
  .bind (quiet_ask _) fun _ => .ite (fun _ => .bind h fun _ => .pure _) fun _ => .pure _

theorem quiet_drvOrNs (sym : Sym) (call : DrvCall) : Quiet r (drvOrNs sym call) :=
  .bind (quiet_ask _) fun _ => .ite (fun _ => quiet_callDrv call) fun _ => .pure _

/-- Hand one member to the radio. -/
theorem quiet_passByte {off : Nat} (h : off + 1 ≤ r.data.length) (call : UInt8 → PhyCall) :
    Quiet r (readU8 off >>= fun v => callPhy (call v)) :=
  .bind (quiet_readU8 h) fun _ => quiet_callPhy _

end Quiet

/-! ## Replying -/

/-- On the input `r`, `c` reads in bounds and sends the one response of `rpc` to `op`. -/
def Replies (rpc : Rpc) (r : Input) (op : UInt32) (c : Handler Unit) : Prop :=
  ∀ s, (∀ i ∈ reads (c r s).events, i < r.data.length) ∧
    ∃ st body, sends (c r s).events = [(rpc.resp, u32Bytes op ++ i32Bytes st ++ body)] ∧
      BodyLength rpc r.env.malloc st body

namespace Replies

variable {α : Type} {rpc : Rpc} {r : Input} {op : UInt32}

theorem bind {c : Handler α} {k : α → Handler Unit} (hc : Quiet r c)
    (hk : ∀ a, Replies rpc r op (k a)) : Replies rpc r op (c >>= k) := by
  intro s
  obtain ⟨hreads, st, body, hsends, hbody⟩ := hk (c r s).val (c r s).state
  refine ⟨fun i hi => ?_, st, body, ?_, hbody⟩
  · rw [Cmd.bind_eval, reads_append, List.mem_append] at hi
    rcases hi with hi | hi
    · exact hc.reads_lt s i hi
    · exact hreads i hi
  · rw [Cmd.bind_eval, sends_append, hc.sends_eq_nil s, List.nil_append, hsends]

theorem ite {p : Prop} [Decidable p] {c d : Handler Unit} (hc : p → Replies rpc r op c)
    (hd : ¬p → Replies rpc r op d) : Replies rpc r op (if p then c else d) := by
  split
  · exact hc ‹_›
  · exact hd ‹_›

theorem simple {st : EspErr} (h : BodyLength rpc r.env.malloc st []) :
    Replies rpc r op (sendSimpleResp rpc.resp op st) := by
  intro s
  refine ⟨fun i hi => absurd hi List.not_mem_nil, st, [], ?_, h⟩
  rw [List.append_nil]
  rfl

/-- `send_resp_with_body` answers `ESP_ERR_NO_MEM` without a body where its buffer fails. -/
theorem withBody {st : EspErr} {body : List UInt8} (h : BodyLength rpc true st body)
    (h0 : BodyLength rpc false espErrNoMem []) :
    Replies rpc r op (sendRespWithBody rpc.resp op st body) := by
  intro s
  cases hm : r.env.malloc with
  | true =>
    refine ⟨fun i hi => ?_, st, body, ?_, h⟩
    · simp [sendRespWithBody, hm] at hi
    · simp [sendRespWithBody, hm]
  | false =>
    refine ⟨fun i hi => ?_, espErrNoMem, [], ?_, h0⟩
    · simp [sendRespWithBody, sendSimpleResp, hm] at hi
    · simp [sendRespWithBody, sendSimpleResp, hm]

end Replies

theorem u32Bytes_leNat {bs : List UInt8} (h : bs.length = 4) :
    u32Bytes (UInt32.ofNat (leNat bs)) = bs := by
  have hlt : leNat bs < 2 ^ 32 := by
    have := leNat_lt bs
    rwa [h] at this
  rw [u32Bytes, UInt32.toNat_ofNat', Nat.mod_eq_of_lt hlt]
  have := leBytes_leNat bs
  rwa [h] at this

namespace Obeys

variable {rpc : Rpc}

/-- What replies behind `UNPACK_REQ` obeys the contract. -/
theorem unpackReq {k : UInt32 → Handler Unit}
    (hk : ∀ r : Input, rpc.reqStruct.sizeof ≤ r.data.length → ∀ op, Replies rpc r op (k op)) :
    Obeys rpc (unpackReq rpc.reqStruct k) := by
  intro r s
  by_cases hshort : r.data.length < rpc.reqStruct.sizeof
  · have hev : (EspHostedOpen.unpackReq rpc.reqStruct k r s).events = [] := by
      simp [EspHostedOpen.unpackReq, dataLen, hshort]
    rw [hev, if_pos hshort]
    exact ⟨fun i hi => absurd hi List.not_mem_nil, rfl⟩
  · have hlen : rpc.reqStruct.sizeof ≤ r.data.length := Nat.le_of_not_lt hshort
    have hfour : 0 + 4 ≤ r.data.length := Nat.le_trans rpc.hdr_le_sizeof hlen
    have hreply : Replies rpc r (UInt32.ofNat (leNat (slice 0 4 r.data)))
        (readU32 (rpc.reqStruct.offset 0) >>= fun _ =>
          k (UInt32.ofNat (leNat (slice 0 4 r.data)))) :=
      .bind (quiet_readU32 hfour) fun _ => hk r hlen _
    have hev : (EspHostedOpen.unpackReq rpc.reqStruct k r s).events =
        ((readU32 (rpc.reqStruct.offset 0) >>= fun _ =>
          k (UInt32.ofNat (leNat (slice 0 4 r.data)))) r s).events := by
      simp [EspHostedOpen.unpackReq, dataLen, hshort, readU32, readBytes, Packed.offset]
    obtain ⟨hreads, st, body, hsends, hbody⟩ := hreply s
    rw [hev, if_neg hshort]
    refine ⟨hreads, _, hsends, rpc.resp_eq, st, body, ?_, hbody⟩
    rw [u32Bytes_leNat (length_slice hfour)]

/-- A handler that computes a status quietly and answers it, for a response that is the header
alone. -/
theorem answering (hresp : rpc.respStruct = phyRpcRespHdr) {act : Handler EspErr}
    (hact : ∀ r : Input, rpc.reqStruct.sizeof ≤ r.data.length → Quiet r act) :
    Obeys rpc (answering rpc.reqStruct rpc.resp act) := by
  have hrssi : rpc ≠ .getPhyRssi := by
    rintro rfl
    exact absurd hresp (by decide)
  refine unpackReq fun r hlen op => .bind (hact r hlen) fun st => .simple ?_
  simp [BodyLength, hrssi, hresp]

end Obeys

/-! ## The handlers of `phy_rpc_handlers.c` -/

theorem obeys_onSetChannel : Obeys .setChannel onSetChannel := by
  refine .answering rfl fun r hlen => .bind (quiet_callDrv _) fun _ =>
    .bind (quiet_callDrv _) fun _ => ?_
  refine .ite (fun _ => ?_) fun _ => .pure _
  refine .bind (quiet_readU8 (.trans (by decide) hlen)) fun _ => ?_
  exact .bind (quiet_callPhy _) fun _ => .bind (quiet_setState _) fun _ => .pure _

theorem obeys_onSetPhy11p : Obeys .setPhy11p onSetPhy11p := by
  refine .answering rfl fun r hlen => .bind (quiet_readU8 (.trans (by decide) hlen)) fun _ => ?_
  exact .bind (quiet_callPhy _) fun _ => .bind (quiet_setState _) fun _ => .pure _

theorem obeys_onSetTxPower : Obeys .setTxPower onSetTxPower := by
  refine .answering rfl fun r hlen => .bind (quiet_readI8 (.trans (by decide) hlen)) fun _ => ?_
  refine .bind (quiet_callDrv _) fun _ => .ite (fun _ => ?_) fun _ => .pure _
  exact .bind (quiet_setState _) fun _ => .pure _

theorem obeys_onSetRxGain : Obeys .setRxGain onSetRxGain := by
  refine .answering rfl fun r hlen => .bind (quiet_readU8 (.trans (by decide) hlen)) fun _ => ?_
  refine .ite (fun _ => ?_) fun _ => ?_
  · exact .bind (quiet_ifResolved _ _) fun _ => .bind (quiet_ifResolved _ _) fun _ => .pure _
  · refine .bind (quiet_ifResolved _ _) fun _ => .bind (quiet_ifResolved _ _) fun _ => ?_
    exact quiet_hookOpt (quiet_callPhy _)

theorem obeys_onSetAgcMaxGain : Obeys .setAgcMaxGain onSetAgcMaxGain := by
  refine .answering rfl fun r hlen => quiet_hookOpt ?_
  refine .bind (quiet_readU8 (.trans (by decide) hlen)) fun _ => ?_
  exact .bind (quiet_callPhy _) fun _ => quiet_setState _

/-- The two switches: one member at offset 4 selects the symbol. -/
theorem obeys_onSetSwitch {rpc : Rpc} (hresp : rpc.respStruct = phyRpcRespHdr)
    (hmem : rpc.reqStruct.offset 1 + 1 ≤ rpc.reqStruct.sizeof) (onSym offSym : Sym)
    (on off : PhyCall) (store : UInt8 → PhyState → PhyState) :
    Obeys rpc (onSetSwitch rpc.reqStruct rpc.resp onSym offSym on off store) := by
  refine .answering hresp fun r hlen => .bind (quiet_readU8 (hmem.trans hlen)) fun _ => ?_
  refine .bind (.ite (fun _ => quiet_hookOpt (quiet_callPhy _)) fun _ =>
    quiet_hookOpt (quiet_callPhy _)) fun _ => ?_
  exact .ite (fun _ => .bind (quiet_setState _) fun _ => .pure _) fun _ => .pure _

theorem obeys_onSetCca : Obeys .setCca onSetCca := obeys_onSetSwitch rfl (by decide) _ _ _ _ _

theorem obeys_onSetLowRate : Obeys .setLowRate onSetLowRate :=
  obeys_onSetSwitch rfl (by decide) _ _ _ _ _

theorem obeys_onGetCcaCounters : Obeys .getCcaCounters onGetCcaCounters := by
  refine .unpackReq fun r _ op => .bind (quiet_ask _) fun _ => ?_
  refine .ite (fun _ => .bind (quiet_callPhy _) fun _ => .bind (quiet_ask _) fun busy =>
    ?_) fun _ => ?_
  · exact .withBody (by simp [BodyLength, u32Bytes]; rfl) rfl
  · exact .simple rfl

theorem obeys_onResetCcaCounters : Obeys .resetCcaCount onResetCcaCounters :=
  .answering rfl fun _ _ => quiet_hookOpt (quiet_callPhy _)

theorem obeys_onSetBandwidth : Obeys .setBandwidth onSetBandwidth := by
  refine .answering rfl fun r hlen => .bind (quiet_ask _) fun _ =>
    .ite (fun _ => ?_) fun _ => .pure _
  refine .bind (quiet_readU8 (.trans (by decide) hlen)) fun _ => ?_
  refine .ite (fun _ => .bind (quiet_callPhy _) fun _ => .pure _) fun _ => ?_
  exact .ite (fun _ => .bind (quiet_callPhy _) fun _ => .pure _) fun _ => .pure _

/-- The byte is there whatever the status, and nothing is without the buffer. -/
theorem obeys_onGetPhyRssi : Obeys .getPhyRssi onGetPhyRssi := by
  refine .unpackReq fun r _ op => .bind ?_ fun rssi => .withBody ?_ rfl
  rotate_left
  · rw [BodyLength]
    rfl
  refine .bind (quiet_ask _) fun _ => .ite (fun _ => .map _ (quiet_getPhy _ _)) fun _ => ?_
  exact .bind (quiet_ask _) fun _ => .ite (fun _ => .map _ (quiet_getPhy _ _)) fun _ => .pure _

theorem obeys_onSetCountryPermissive : Obeys .setCountryPerm onSetCountryPermissive :=
  .answering rfl fun _ _ => quiet_callDrv _

theorem obeys_onGetInfo : Obeys .getInfo onGetInfo :=
  .unpackReq fun _ _ _ => .bind (.get _) fun _ => .withBody rfl rfl

theorem obeys_onSetFreq : Obeys .setFreq onSetFreq := by
  refine .answering rfl fun r hlen => quiet_hookOpt ?_
  exact .bind (quiet_readU32 (.trans (by decide) hlen)) fun _ => quiet_callPhy _

theorem obeys_onSetEither {rpc : Rpc} (hresp : rpc.respStruct = phyRpcRespHdr)
    (hmem : rpc.reqStruct.offset 1 + 1 ≤ rpc.reqStruct.sizeof) (sym sym' : Sym)
    (call call' : Int32 → PhyCall) :
    Obeys rpc (onSetEither rpc.reqStruct rpc.resp sym sym' call call') := by
  refine .answering hresp fun r hlen => .bind (quiet_ask _) fun _ => .ite (fun _ => ?_) fun _ => ?_
  · refine .bind (quiet_readU8 (hmem.trans hlen)) fun _ => ?_
    exact .bind (quiet_callPhy _) fun _ => .pure _
  · exact quiet_hookOpt (quiet_passByte (hmem.trans hlen) _)

theorem obeys_onSetBand : Obeys .setBand onSetBand := obeys_onSetEither rfl (by decide) _ _ _ _

theorem obeys_onSetBtTxGain : Obeys .setBtTxGain onSetBtTxGain :=
  obeys_onSetEither rfl (by decide) _ _ _ _

theorem obeys_onSetChanFilt : Obeys .setChanFilt onSetChanFilt := by
  refine .answering rfl fun r hlen => quiet_hookOpt ?_
  exact .bind (quiet_readU32 (.trans (by decide) hlen)) fun _ => quiet_callPhy _

theorem obeys_onSetByte {rpc : Rpc} (hresp : rpc.respStruct = phyRpcRespHdr)
    (hmem : rpc.reqStruct.offset 1 + 1 ≤ rpc.reqStruct.sizeof) (sym : Sym)
    (call : Int32 → PhyCall) :
    Obeys rpc (onSetByte rpc.reqStruct rpc.resp sym call) :=
  .answering hresp fun _ hlen => quiet_hookOpt (quiet_passByte (hmem.trans hlen) _)

theorem obeys_onSetChan14Mic : Obeys .setChan14Mic onSetChan14Mic := obeys_onSetByte rfl
    (by decide) _ _

theorem obeys_onSetRate : Obeys .setRate onSetRate := obeys_onSetByte rfl (by decide) _ _

theorem obeys_onSetCsiDump : Obeys .setCsiDump onSetCsiDump := obeys_onSetByte rfl (by decide) _ _

theorem obeys_onSetLoopback : Obeys .setLoopback onSetLoopback := obeys_onSetByte rfl
    (by decide) _ _

theorem obeys_onSetMostTpw : Obeys .setMostTpw onSetMostTpw := by
  refine .answering rfl fun r hlen => quiet_hookOpt ?_
  exact .bind (quiet_readI8 (.trans (by decide) hlen)) fun _ => quiet_callPhy _

theorem obeys_onGetByte {rpc : Rpc} (hreq : rpc.reqStruct = phyRpcHdr)
    (hresp : rpc.respStruct = phyRpcRespHdr ++ [1]) (hrssi : rpc ≠ .getPhyRssi) (sym : Sym)
    (call : PhyCall) : Obeys rpc (onGetByte rpc.resp sym call) := by
  unfold onGetByte
  rw [← hreq]
  refine .unpackReq fun r _ op => .bind (quiet_ask _) fun _ => .ite (fun _ => ?_) fun _ => ?_
  · refine .bind (.map _ (quiet_getPhy _ _)) fun v => .withBody ?_ ?_
    · simp [BodyLength, hrssi, hresp]
      rfl
    · simp [BodyLength, hrssi, espErrNoMem, espOk]
  · exact .simple (by simp [BodyLength, hrssi, espErrNotSupported, espOk])

theorem obeys_onGetMostTpw : Obeys .getMostTpw onGetMostTpw :=
  obeys_onGetByte rfl rfl (by decide) _ _

theorem obeys_onGetNoiseFloor : Obeys .getNoiseFloor onGetNoiseFloor :=
  obeys_onGetByte rfl rfl (by decide) _ _

theorem obeys_onGetTemperature : Obeys .getTemperature onGetTemperature :=
  obeys_onGetByte rfl rfl (by decide) _ _

theorem obeys_onResetRxGainTable : Obeys .resetRxGainTbl onResetRxGainTable :=
  .answering rfl fun _ _ => quiet_hookOpt (quiet_callPhy _)

theorem obeys_onSetBtFilter : Obeys .setBtFilter onSetBtFilter := by
  refine .answering rfl fun r hlen => quiet_hookOpt ?_
  exact .bind (quiet_readU32 (.trans (by decide) hlen)) fun _ => quiet_callPhy _

theorem obeys_onGetCaps : Obeys .getCaps onGetCaps := by
  refine .unpackReq fun _ _ _ => .bind (quiet_ask _) fun res => .withBody ?_ rfl
  rw [BodyLength, length_getCaps]
  rfl

/-! ## The handlers of `phy_rpc_extras.c` -/

/-- The tail is read only behind the check that it fits. -/
theorem obeys_onTx80211 : Obeys .tx80211 onTx80211 := by
  refine .answering rfl fun r hlen => .bind (quiet_readU16 (.trans (by decide) hlen)) fun n => ?_
  refine .ask_bind (.ite (fun _ => .pure _) fun hfit => ?_)
  refine .bind (quiet_readU8 (.trans (by decide) hlen)) fun _ => ?_
  refine .bind (quiet_readU8 (.trans (by decide) hlen)) fun _ => ?_
  exact .bind (quiet_readBytes (Nat.le_of_not_lt hfit)) fun _ => quiet_callDrv _

theorem obeys_onSetPromisc : Obeys .setPromisc onSetPromisc := by
  refine .answering rfl fun r hlen => .bind (quiet_readU8 (.trans (by decide) hlen)) fun _ => ?_
  refine .bind (.get _) fun _ => .ite (fun _ => ?_) fun _ => quiet_callDrv _
  refine .bind (quiet_callOs _) fun _ => .bind (.modify _) fun _ =>
    .bind (quiet_callOs _) fun _ => ?_
  exact .bind (quiet_callDrv _) fun _ => quiet_callDrv _

theorem obeys_onSetPromiscFilter : Obeys .setPromiscFilter onSetPromiscFilter :=
  .answering rfl fun _ hlen => .bind (quiet_readU32 (.trans (by decide) hlen)) fun _ =>
    quiet_callDrv _

theorem obeys_onSetProtocol : Obeys .setProtocol onSetProtocol := by
  refine .answering rfl fun r hlen => .bind (quiet_readU8 (.trans (by decide) hlen)) fun _ => ?_
  exact .bind (quiet_readU8 (.trans (by decide) hlen)) fun _ => quiet_callDrv _

theorem obeys_onSetMac : Obeys .setMac onSetMac := by
  refine .answering rfl fun r hlen => .bind (quiet_readU8 (.trans (by decide) hlen)) fun _ => ?_
  exact .bind (quiet_readBytes (.trans (by decide) hlen)) fun _ => quiet_callDrv _

theorem obeys_onSetCsiEnable : Obeys .setCsiEnable onSetCsiEnable := by
  refine .answering rfl fun r hlen => .bind (quiet_readU8 (.trans (by decide) hlen)) fun _ => ?_
  refine .ite (fun _ => ?_) fun _ => quiet_callDrv _
  exact .bind (quiet_callDrv _) fun _ => .ite (fun _ => quiet_callDrv _) fun _ => .pure _

theorem obeys_onFtmInitiate : Obeys .ftmInitiate onFtmInitiate := by
  refine .answering rfl fun r hlen => .bind (.bind (.get _) fun _ => ?_) fun _ => ?_
  · exact .ite (fun _ => .pure _) fun _ => .bind (quiet_callDrv _) fun _ => .modify _
  · refine .bind (quiet_readU8 (.trans (by decide) hlen)) fun _ => ?_
    refine .bind (quiet_readU8 (.trans (by decide) hlen)) fun _ => ?_
    refine .bind (quiet_readU8 (.trans (by decide) hlen)) fun _ => ?_
    exact .bind (quiet_readBytes (.trans (by decide) hlen)) fun _ => quiet_callDrv _

theorem obeys_onSetEventMask : Obeys .setEventMask onSetEventMask :=
  .answering rfl fun _ hlen => .bind (quiet_readU64 (.trans (by decide) hlen)) fun _ => .pure _

/-! ## The handlers of `phy_rpc_wireless.c` -/

theorem obeys_onEspnowInit : Obeys .espnowInit onEspnowInit := by
  refine .answering rfl fun r _ => .bind (quiet_callDrv _) fun _ => ?_
  refine .ite (fun _ => ?_) fun _ => .pure _
  exact .bind (quiet_callDrv _) fun _ => .bind (quiet_callDrv _) fun _ => .pure _

theorem obeys_onEspnowDeinit : Obeys .espnowDeinit onEspnowDeinit :=
  .answering rfl fun _ _ => quiet_callDrv _

theorem obeys_onEspnowSetPmk : Obeys .espnowSetPmk onEspnowSetPmk :=
  .answering rfl fun _ hlen => .bind (quiet_readBytes (.trans (by decide) hlen)) fun _ =>
    quiet_callDrv _

theorem obeys_onEspnowAddPeer : Obeys .espnowAddPeer onEspnowAddPeer := by
  refine .answering rfl fun r hlen => .bind (quiet_readBytes (.trans (by decide) hlen)) fun _ => ?_
  refine .bind (quiet_readBytes (.trans (by decide) hlen)) fun _ => ?_
  refine .bind (quiet_readU8 (.trans (by decide) hlen)) fun _ => ?_
  refine .bind (quiet_readU8 (.trans (by decide) hlen)) fun _ => ?_
  exact .bind (quiet_readU8 (.trans (by decide) hlen)) fun _ => quiet_callDrv _

theorem obeys_onEspnowDelPeer : Obeys .espnowDelPeer onEspnowDelPeer :=
  .answering rfl fun _ hlen => .bind (quiet_readBytes (.trans (by decide) hlen)) fun _ =>
    quiet_callDrv _

theorem obeys_onEspnowSend : Obeys .espnowSend onEspnowSend := by
  refine .answering rfl fun r hlen => .bind (quiet_readU16 (.trans (by decide) hlen)) fun n => ?_
  refine .ask_bind (.ite (fun _ => .pure _) fun hfit => ?_)
  refine .bind (quiet_readBytes (.trans (by decide) hlen)) fun _ => ?_
  exact .bind (quiet_readBytes (Nat.le_of_not_lt hfit)) fun _ => quiet_callDrv _

theorem obeys_onI154Enable : Obeys .ieee154Enable onI154Enable := by
  refine .answering rfl fun r hlen => .bind (quiet_readU8 (.trans (by decide) hlen)) fun _ => ?_
  exact .ite (fun _ => quiet_drvOrNs _ _) fun _ => quiet_drvOrNs _ _

theorem obeys_onI154SetChan : Obeys .ieee154SetChan onI154SetChan := by
  refine .answering rfl fun r hlen => .bind (quiet_ask _) fun _ =>
    .ite (fun _ => ?_) fun _ => .pure _
  refine .bind (quiet_readU8 (.trans (by decide) hlen)) fun _ => ?_
  exact .ite (fun _ => .pure _) fun _ => quiet_callDrv _

theorem obeys_onI154SetPanid : Obeys .ieee154SetPanid onI154SetPanid := by
  refine .answering rfl fun r hlen => .bind (quiet_ask _) fun _ =>
    .ite (fun _ => ?_) fun _ => .pure _
  exact .bind (quiet_readU16 (.trans (by decide) hlen)) fun _ => quiet_callDrv _

theorem obeys_onI154SetPromisc : Obeys .ieee154SetPromisc onI154SetPromisc := by
  refine .answering rfl fun r hlen => .bind (quiet_ask _) fun _ =>
    .ite (fun _ => ?_) fun _ => .pure _
  exact .bind (quiet_readU8 (.trans (by decide) hlen)) fun _ => quiet_callDrv _

theorem obeys_onI154TxRaw : Obeys .ieee154TxRaw onI154TxRaw := by
  refine .answering rfl fun r hlen => .bind (quiet_readU16 (.trans (by decide) hlen)) fun n => ?_
  refine .ask_bind (.ite (fun _ => .pure _) fun hfit => .bind (quiet_ask _) fun _ => ?_)
  refine .ite (fun _ => .ite (fun _ => .pure _) fun _ => ?_) fun _ => .pure _
  refine .bind (quiet_readBytes (Nat.le_of_not_lt hfit)) fun _ => ?_
  exact .bind (quiet_readU8 (.trans (by decide) hlen)) fun _ => quiet_callDrv _

/-! ## All of them -/

/-- **Every registered handler obeys the reply contract.** -/
theorem handler_obeys (rpc : Rpc) : Obeys rpc rpc.handler := by
  cases rpc with
  | setChannel => exact obeys_onSetChannel
  | setFreq => exact obeys_onSetFreq
  | setBand => exact obeys_onSetBand
  | setBandwidth => exact obeys_onSetBandwidth
  | setChanFilt => exact obeys_onSetChanFilt
  | setCountryPerm => exact obeys_onSetCountryPermissive
  | setChan14Mic => exact obeys_onSetChan14Mic
  | setPhy11p => exact obeys_onSetPhy11p
  | setRate => exact obeys_onSetRate
  | setLowRate => exact obeys_onSetLowRate
  | setTxPower => exact obeys_onSetTxPower
  | setMostTpw => exact obeys_onSetMostTpw
  | getMostTpw => exact obeys_onGetMostTpw
  | setRxGain => exact obeys_onSetRxGain
  | setAgcMaxGain => exact obeys_onSetAgcMaxGain
  | resetRxGainTbl => exact obeys_onResetRxGainTable
  | setCca => exact obeys_onSetCca
  | getCcaCounters => exact obeys_onGetCcaCounters
  | resetCcaCount => exact obeys_onResetCcaCounters
  | getPhyRssi => exact obeys_onGetPhyRssi
  | getNoiseFloor => exact obeys_onGetNoiseFloor
  | getTemperature => exact obeys_onGetTemperature
  | setCsiDump => exact obeys_onSetCsiDump
  | setLoopback => exact obeys_onSetLoopback
  | setBtTxGain => exact obeys_onSetBtTxGain
  | setBtFilter => exact obeys_onSetBtFilter
  | getInfo => exact obeys_onGetInfo
  | getCaps => exact obeys_onGetCaps
  | tx80211 => exact obeys_onTx80211
  | setPromisc => exact obeys_onSetPromisc
  | setPromiscFilter => exact obeys_onSetPromiscFilter
  | setProtocol => exact obeys_onSetProtocol
  | setMac => exact obeys_onSetMac
  | setCsiEnable => exact obeys_onSetCsiEnable
  | ftmInitiate => exact obeys_onFtmInitiate
  | setEventMask => exact obeys_onSetEventMask
  | espnowInit => exact obeys_onEspnowInit
  | espnowDeinit => exact obeys_onEspnowDeinit
  | espnowAddPeer => exact obeys_onEspnowAddPeer
  | espnowDelPeer => exact obeys_onEspnowDelPeer
  | espnowSend => exact obeys_onEspnowSend
  | espnowSetPmk => exact obeys_onEspnowSetPmk
  | ieee154Enable => exact obeys_onI154Enable
  | ieee154SetChan => exact obeys_onI154SetChan
  | ieee154SetPanid => exact obeys_onI154SetPanid
  | ieee154SetPromisc => exact obeys_onI154SetPromisc
  | ieee154TxRaw => exact obeys_onI154TxRaw

/-- The three register functions hand out 47 callbacks, each for one request, and each of them obeys
its contract on every input and in every state. -/
theorem registered_callbacks_obey :
    (rows registerOrder).length = 47 ∧
      ∀ e ∈ rows registerOrder, ∃ rpc : Rpc, e.1 = rpc.req ∧ Obeys rpc e.2 := by
  refine ⟨rfl, fun e he => ?_⟩
  obtain ⟨rpc, -, rfl⟩ := List.mem_map.1 he
  exact ⟨rpc, rfl, handler_obeys rpc⟩

end EspHostedOpen
