import EspHostedOpen.Link.Events
import EspHostedOpen.Link.RawTx

/-!
# ESP-NOW from end to end

A request to send, the frames received and the completions of frames sent, each from one end to the
other. Sending and receiving are faithful (`drvCalls_espnowSend`, `espnowRxEvent_eq`). A completion
names the sender where the host expects the destination: `espnow_endToEnd_iff` is the condition for
all three.
-/

namespace EspHostedOpen

open ByteCodec

/-! ## Sending -/

/-- An accepted frame stands behind the address and its length. -/
theorem espnowSend_body {malloc : Bool} {mac : Mac} {data : List UInt8} {call : Call}
    (h : espHostedOpenEspnowSend malloc (some mac) (some data) = .ok call) :
    (1 ≤ data.length ∧ data.length ≤ 250) ∧ call.reqMsgId = Rpc.espnowSend.req ∧
      call.reqBody = mac.toList ++ [UInt8.ofNat data.length, UInt8.ofNat (data.length >>> 8)] ++
        data := by
  simp only [espHostedOpenEspnowSend] at h
  split at h
  · cases h
  · rename_i hlen
    split at h
    · cases h
    · cases h
      exact ⟨by omega, rfl, rfl⟩

/-- **What the driver gets**: the caller's address and bytes, once. -/
theorem drvCalls_espnowSend {malloc : Bool} {mac : Mac} {data : List UInt8} {call : Call}
    (h : espHostedOpenEspnowSend malloc (some mac) (some data) = .ok call)
    (opId : UInt32) (env : Env)
    (s : SlaveState) :
    drvCalls (onEspnowSend ⟨env, requestBytes opId call⟩ s).events =
      [.espNowSend mac.toList data (UInt16.ofNat data.length)] := by
  obtain ⟨hlen, -, hbody⟩ := espnowSend_body h
  have hmac : mac.toList.length = 6 := mac.length_toList
  have hhead : ∀ a b : UInt8, (mac.toList ++ [a, b]).length = 8 := by
    intro a b
    rw [List.length_append, hmac]
    rfl
  have hsize : (requestBytes opId call).length = 12 + data.length := by
    rw [length_requestBytes, hbody, List.length_append, hhead]
    omega
  have hpeer : slice 4 6 (requestBytes opId call) = mac.toList := by
    rw [slice_requestBytes opId call 0 6, hbody, List.append_assoc]
    exact slice_prefix _ hmac
  have hn : slice 10 2 (requestBytes opId call) =
      [UInt8.ofNat data.length, UInt8.ofNat (data.length >>> 8)] := by
    rw [slice_requestBytes opId call 6 2, hbody, List.append_assoc,
      slice_append_right _ _ (Nat.le_of_eq hmac), hmac]
    exact slice_prefix _ rfl
  have hdata : slice 12 data.length (requestBytes opId call) = data := by
    rw [slice_requestBytes opId call 8 _, hbody, slice_append_right _ _ (Nat.le_of_eq (hhead _ _)),
      hhead]
    exact slice_all rfl
  have hlen16 : (UInt16.ofNat data.length).toNat = data.length := by
    rw [UInt16.toNat_ofNat']
    omega
  have hsizeof : Rpc.espnowSend.reqStruct.sizeof = 12 := rfl
  have hfit : ¬Rpc.espnowSend.reqStruct.sizeof + data.length > (requestBytes opId call).length := by
    omega
  have hlong : Rpc.espnowSend.reqStruct.sizeof ≤ (requestBytes opId call).length := by omega
  rw [onEspnowSend, answering_events s hlong]
  simp only [Rpc.reqStruct, phyRpcHdr, Packed.offset, Packed.sizeof, List.cons_append,
    List.nil_append,
    List.take_succ_cons, List.take_zero, List.sum_cons, List.sum_nil, Nat.reduceAdd] at hfit ⊢
  simp only [Cmd.bind_eval, Cmd.ite_eval, readU16_val, readU16_state, readU16_events, dataLen_eval,
    readBytes_val, readBytes_state, readBytes_events, callDrv_eval, hn,
    leNat_lengthBytes (show data.length < 65536 by omega), hlen16, if_neg hfit, hpeer, hdata,
    drvCalls_append, drvCalls_reads, drvCalls_drv, drvCalls_send, drvCalls_nil, List.nil_append,
    List.append_nil]

/-! ## All three -/

/-- The callbacks `ctx` and `ctx'` are registered for frames and completions. -/
def EventCallbacks.withEspnow {κ : Type} (cbs : EventCallbacks κ) (ctx ctx' : κ) :
    EventCallbacks κ :=
  { cbs with espnowRx := some ctx, espnowTx := some ctx' }

/-- The request of the host makes the slave's driver send the caller's frame to the caller's
peer. -/
def SendDelivered (r : Input) (s : SlaveState) (mac : Mac) (data : List UInt8) : Prop :=
  drvCalls (onEspnowSend r s).events = [.espNowSend mac.toList data (UInt16.ofNat data.length)]

/-- A frame the driver received makes one callback, with its bytes and all its metadata. -/
def RxDelivered {κ : Type} (malloc : Malloc) (a : ChannelAllocs) (cbs : EventCallbacks κ) (ctx : κ)
    (info : EspNowRecvInfo) (data : List UInt8) : Prop :=
  espnowRxEvent malloc a cbs info data = some (.espnowRx ctx data info.espnowMeta)

/-- The completion of a frame sent from `own` to `dest` makes one callback, with the destination and
the driver's verdict. -/
def TxReported {κ : Type} (a : ChannelAllocs) (cbs : EventCallbacks κ) (ctx : κ) (own dest : Mac)
    (status : EspNowSendStatus) : Prop :=
  espnowTxEvent a cbs (some ⟨some dest, some own⟩) status =
    some (.espnowTx ctx dest.toList (status = .success))

section EndToEnd

variable {κ : Type} (cbs : EventCallbacks κ) (ctx ctx' : κ)

theorem rxDelivered_iff (malloc : Malloc) (a : ChannelAllocs) (info : EspNowRecvInfo)
    {data : List UInt8} (hlen : 1 ≤ data.length ∧ data.length ≤ 250) :
    RxDelivered malloc a (cbs.withEspnow ctx ctx') ctx info data ↔
      (malloc (Evt.espnowRx.struct.sizeof + data.length)).isSome = true ∧ a.ok = true := by
  rw [RxDelivered, espnowRxEvent_eq malloc a _ info data hlen]
  split
  · exact iff_of_true rfl ‹_›
  · exact iff_of_false (by rintro ⟨⟩) ‹_›

theorem txReported_iff (a : ChannelAllocs) (own dest : Mac) (status : EspNowSendStatus) :
    TxReported a (cbs.withEspnow ctx ctx') ctx' own dest status ↔ a.ok = true ∧ own = dest := by
  rw [TxReported, espnowTxEvent_eq]
  constructor
  · intro h
    split at h
    · rename_i ha
      have hmac : own.toList = dest.toList := (Upcall.espnowTx.inj (Option.some_inj.1 h)).2.1
      exact ⟨ha, Vector.toList_inj.1 hmac⟩
    · cases h
  · rintro ⟨ha, rfl⟩
    rw [if_pos ha]
    rfl

/-- **Exactly when ESP-NOW is faithful**: there is memory for the events, and the frame whose
completion is reported was addressed to the sender itself. -/
theorem espnow_endToEnd_iff {mallocSend : Bool} {mac : Mac} {data : List UInt8} {call : Call}
    (hsend : espHostedOpenEspnowSend mallocSend (some mac) (some data) = .ok call) (opId : UInt32)
    (env : Env) (s : SlaveState) (malloc : Malloc) (a a' : ChannelAllocs) (info : EspNowRecvInfo)
    {rxData : List UInt8} (hlen : 1 ≤ rxData.length ∧ rxData.length ≤ 250) (own dest : Mac)
    (status : EspNowSendStatus) :
    (SendDelivered ⟨env, requestBytes opId call⟩ s mac data ∧
      RxDelivered malloc a (cbs.withEspnow ctx ctx') ctx info rxData ∧
      TxReported a' (cbs.withEspnow ctx ctx') ctx' own dest status) ↔
      ((malloc (Evt.espnowRx.struct.sizeof + rxData.length)).isSome = true ∧ a.ok = true) ∧
        a'.ok = true ∧ own = dest := by
  have hdrv : SendDelivered ⟨env, requestBytes opId call⟩ s mac data :=
    drvCalls_espnowSend hsend opId env s
  rw [rxDelivered_iff cbs ctx ctx' malloc a info hlen, txReported_iff]
  exact and_iff_right hdrv

end EndToEnd

/-- An address whose last byte is `b`. -/
def macEnding (b : UInt8) : Mac := #v[0x24, 0x6f, 0x28, 0, 0, b]

def channelUp : ChannelAllocs := { buf := true, copy := true, ntfy := true, bytes := true }

def recvInfo : EspNowRecvInfo :=
  { srcAddr := macEnding 2, desAddr := macEnding 1, rxCtrl := some (-40, 6) }

/-- A frame to oneself. -/
theorem espnow_endToEnd_self :
    ∃ call, espHostedOpenEspnowSend true (some (macEnding 1)) (some [7]) = .ok call ∧
      SendDelivered ⟨bareChip, requestBytes 1 call⟩ {} (macEnding 1) [7] ∧
      RxDelivered .zeroed channelUp (({} : EventCallbacks Nat).withEspnow 0 1) 0 recvInfo [9] ∧
      TxReported channelUp (({} : EventCallbacks Nat).withEspnow 0 1) 1 (macEnding 1) (macEnding 1)
        .success :=
  ⟨_, rfl, (@espnow_endToEnd_iff Nat {} 0 1 true (macEnding 1) [7] _ rfl 1 bareChip
    {} .zeroed channelUp
    channelUp recvInfo [9] (by decide) (macEnding 1) (macEnding 1) .success).2
      ⟨⟨rfl, rfl⟩, rfl, rfl⟩⟩

/-- A frame from …:01 to …:02 is confirmed as one to …:01. -/
theorem espnowTx_names_sender :
    espnowTxEvent channelUp (({} : EventCallbacks Nat).withEspnow 0 1)
        (some ⟨some (macEnding 2), some (macEnding 1)⟩) .success =
      some (.espnowTx 1 (macEnding 1).toList true) ∧
    ¬TxReported channelUp (({} : EventCallbacks Nat).withEspnow 0 1) 1 (macEnding 1) (macEnding 2)
      .success := by
  refine ⟨espnowTxEvent_eq _ _ _ _ _, fun h => ?_⟩
  have hsame := ((txReported_iff {} 0 1 channelUp (macEnding 1) (macEnding 2) .success).1 h).2
  exact absurd hsame (by decide)

end EspHostedOpen
