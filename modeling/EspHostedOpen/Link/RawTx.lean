import EspHostedOpen.Host.Wrappers
import EspHostedOpen.Slave.Status

/-!
# Raw-frame injection from host to driver

`esp_hosted_open_tx_80211` puts an 8-byte header in front of the frame, `phy_rpc_req_tx_80211_t` has
6 bytes there. The slave takes the last two bytes of the host's header for the first two of the
frame: `drvCalls_tx80211` is what it hands to the driver for every frame, and `tx80211_faithful_iff`
the frames that survive.
-/

namespace EspHostedOpen

open ByteCodec

/-- The slave hands the driver the caller's frame, once. -/
def TxFaithful (r : Input) (s : SlaveState) (iface : WifiIf) (frame : List UInt8) (enSeqNr : Bool) :
    Prop :=
  drvCalls (onTx80211 r s).events =
    [.espWifi80211Tx iface frame (UInt16.ofNat frame.length) enSeqNr]

section Body

variable {m m' : Bool} {iface : WifiIf} {frame : List UInt8} {enSeqNr : Bool} {call : Call}

/-- A frame of admissible length is put behind a header of 8 bytes. -/
theorem tx80211_body (hlen : 1 ≤ frame.length ∧ frame.length ≤ 1500)
    (h : espHostedOpenTx80211 m m' iface.code (some frame) enSeqNr = .ok call) :
    call.reqBody = [iface.code, boolByte enSeqNr, 0, 0, UInt8.ofNat frame.length,
      UInt8.ofNat (frame.length >>> 8), 0, 0] ++ frame := by
  have hadm : ¬(frame.length = 0 ∨ frame.length > 1500) := by omega
  simp only [espHostedOpenTx80211, if_neg hadm, plainCall] at h
  split at h
  · cases h
  · cases h
    rfl

end Body

/-- **What the driver gets**: the frame behind two zero bytes, cut to its length. -/
theorem drvCalls_tx80211 {m m' : Bool} {iface : WifiIf} {frame : List UInt8} {enSeqNr : Bool}
    {call : Call}
    (hlen : 1 ≤ frame.length ∧ frame.length ≤ 1500)
    (h : espHostedOpenTx80211 m m' iface.code (some frame) enSeqNr = .ok call) (opId : UInt32)
    (env : Env) (s : SlaveState) :
    drvCalls (onTx80211 ⟨env, requestBytes opId call⟩ s).events =
      [.espWifi80211Tx iface ((0 :: 0 :: frame).take frame.length) (UInt16.ofNat frame.length)
        enSeqNr] := by
  have hbody := tx80211_body hlen h
  have hsize : (requestBytes opId call).length = 12 + frame.length := by
    rw [length_requestBytes, hbody, List.length_append]
    simp only [List.length_cons, List.length_nil]
    omega
  have hif : slice 4 1 (requestBytes opId call) = [iface.code] := by
    rw [slice_requestBytes opId call 0 1, hbody]
    rfl
  have hen : slice 5 1 (requestBytes opId call) = [boolByte enSeqNr] := by
    rw [slice_requestBytes opId call 1 1, hbody]
    rfl
  have hn : slice 8 2 (requestBytes opId call) =
      [UInt8.ofNat frame.length, UInt8.ofNat (frame.length >>> 8)] := by
    rw [slice_requestBytes opId call 4 2, hbody]
    rfl
  have hframe : slice 10 frame.length (requestBytes opId call) =
      (0 :: 0 :: frame).take frame.length := by
    rw [slice_requestBytes opId call 6 _, hbody]
    rfl
  have hlen16 : (UInt16.ofNat frame.length).toNat = frame.length := by
    rw [UInt16.toNat_ofNat']
    omega
  have hfit : ¬Rpc.tx80211.reqStruct.sizeof + frame.length > (requestBytes opId call).length := by
    have hsizeof : Rpc.tx80211.reqStruct.sizeof = 10 := rfl
    omega
  have hsizeof : Rpc.tx80211.reqStruct.sizeof ≤ (requestBytes opId call).length := by
    have h10 : Rpc.tx80211.reqStruct.sizeof = 10 := rfl
    omega
  have hbool : decide (boolByte enSeqNr ≠ 0) = enSeqNr := by
    cases enSeqNr <;> rfl
  have hone : ∀ b : UInt8, UInt8.ofNat (leNat [b]) = b := by
    intro b
    rw [leNat_cons, leNat_nil, Nat.mul_zero, Nat.add_zero, UInt8.ofNat_toNat]
  rw [onTx80211, answering_events s hsizeof]
  simp only [Rpc.reqStruct, phyRpcHdr, Packed.offset, Packed.sizeof, List.cons_append,
    List.nil_append, List.take_succ_cons, List.take_zero, List.sum_cons, List.sum_nil,
    Nat.reduceAdd] at hfit ⊢
  simp only [Cmd.bind_eval, Cmd.ite_eval, readU16_val, readU16_state, readU16_events, dataLen_eval,
    readU8_val, readU8_state, readU8_events, readBytes_val, readBytes_state, readBytes_events,
    callDrv_eval, hn, leNat_lengthBytes (show frame.length < 65536 by omega), hlen16, if_neg hfit,
    hif, hen, hframe, hone, ifaceOf_code, hbool, drvCalls_append, drvCalls_reads, drvCalls_drv,
    drvCalls_send, drvCalls_nil, List.nil_append, List.append_nil]

/-- Shifting a list right by two zeros and cutting it to its length gives it back only if it is zero
throughout. -/
theorem shifted_eq_iff (l : List UInt8) :
    (0 :: 0 :: l).take l.length = l ↔ ∀ b ∈ l, b = 0 := by
  constructor
  · intro h
    have hget : ∀ i, i < l.length → l[i]? = (0 :: 0 :: l)[i]? := by
      intro i hi
      rw [← List.getElem?_take_of_lt (l := 0 :: 0 :: l) hi, h]
    -- by two-step induction on the position: the first two are the zeros, each other one is the
    -- element two places before
    have hzero : ∀ i, i < l.length → l[i]? = some 0 := by
      intro i
      induction i using Nat.twoStepInduction with
      | zero => intro hi; exact hget 0 hi
      | one => intro hi; exact hget 1 hi
      | more i ih _ => intro hi; exact (hget (i + 2) hi).trans (ih (by omega))
    intro b hb
    obtain ⟨i, hi, rfl⟩ := List.getElem_of_mem hb
    exact Option.some_inj.1 ((List.getElem?_eq_getElem hi).symm.trans (hzero i hi))
  · intro h
    have hrep : l = List.replicate l.length 0 := List.eq_replicate_of_mem h
    rw [hrep, List.length_replicate, ← List.replicate_succ, ← List.replicate_succ,
      List.take_replicate]
    congr 1
    omega

/-- **Exactly when injection is faithful**: the frame is zero throughout. -/
theorem tx80211_faithful_iff {m m' : Bool} {iface : WifiIf} {frame : List UInt8} {enSeqNr : Bool}
    {call : Call}
    (hlen : 1 ≤ frame.length ∧ frame.length ≤ 1500)
    (h : espHostedOpenTx80211 m m' iface.code (some frame) enSeqNr = .ok call) (opId : UInt32)
    (env : Env) (s : SlaveState) :
    TxFaithful ⟨env, requestBytes opId call⟩ s iface frame enSeqNr ↔ ∀ b ∈ frame, b = 0 := by
  rw [TxFaithful, drvCalls_tx80211 hlen h, ← shifted_eq_iff]
  simp

theorem tx80211_faithful_zeros :
    ∃ call, espHostedOpenTx80211 true true WifiIf.sta.code (some [0, 0, 0]) true = .ok call ∧
      TxFaithful ⟨bareChip, requestBytes 1 call⟩ {} .sta [0, 0, 0] true :=
  ⟨_, rfl, (@tx80211_faithful_iff true true _ _ _ _ (by decide) rfl 1 bareChip {}).2 (by simp)⟩

/-- A beacon's first bytes 0x80 0x00 0x00 reach the driver as 0x00 0x00 0x80. -/
theorem tx80211_not_faithful :
    ∃ call, espHostedOpenTx80211 true true WifiIf.sta.code (some [0x80, 0, 0]) true = .ok call ∧
      drvCalls (onTx80211 ⟨bareChip, requestBytes 1 call⟩ {}).events =
        [.espWifi80211Tx .sta [0, 0, 0x80] 3 true] ∧
      ¬TxFaithful ⟨bareChip, requestBytes 1 call⟩ {} .sta [0x80, 0, 0] true := by
  refine ⟨_, rfl, ?_⟩
  rw [TxFaithful,
    @drvCalls_tx80211 true true .sta [0x80, 0, 0] true _ (by decide) rfl 1 bareChip {}]
  decide

end EspHostedOpen
