import EspHostedOpen.Slave.Status

/-!
# Requests as values

A `Setting` is what a request with arguments asks for, free of its layout: the setters of all three
files and the 802.15.4 transmission. `decodeSetting` reads one off the bytes, at the offsets of the
packed structure, and `Setting.calls` lists what it has the radio and the driver do. `calls_handler`
is the refinement: a handler makes exactly the calls of the setting its bytes decode to.
-/

namespace EspHostedOpen

open ByteCodec

inductive Setting
  | setChannel (ch : UInt8)
  | setPhy11p (enable : Bool)
  | setTxPower (dbm : Int8)
  | setRxGain (gainIndex : UInt8)
  | setAgcMaxGain (maxGain : UInt8)
  | setCca (enable : Bool)
  | setLowRate (enable : Bool)
  | setBandwidth (bwMhz : UInt8)
  | setFreq (freqMhz : UInt32)
  | setBand (band : UInt8)
  | setChanFilt (mask : UInt32)
  | setChan14Mic (enable : UInt8)
  | setRate (rate : UInt8)
  | setMostTpw (tpw : Int8)
  | setCsiDump (enable : UInt8)
  | setLoopback (gain : UInt8)
  | setBtTxGain (gain : UInt8)
  | setBtFilter (regValue : UInt32)
  | setPromisc (enable : Bool)
  | setPromiscFilter (filterMask : UInt32)
  | setProtocol (iface : WifiIf) (mask : UInt8)
  | setMac (iface : WifiIf) (mac : List UInt8)
  | setCsiEnable (enable : Bool)
  | ftmInitiate (cfg : FtmInitiatorCfg)
  | setEventMask (mask : UInt64)
  | espnowSetPmk (pmk : List UInt8)
  | espnowAddPeer (peer : EspNowPeerInfo)
  | espnowDelPeer (peerMac : List UInt8)
  | ieee154Enable (enable : Bool)
  | ieee154SetChan (ch : UInt8)
  | ieee154SetPanid (panId : UInt16)
  | ieee154SetPromisc (enable : Bool)
  | ieee154TxRaw (frame : List UInt8) (cca : Bool)
  deriving DecidableEq

/-- The setting behind the bytes of a request, where it has arguments. -/
def decodeSetting (rpc : Rpc) (data : List UInt8) : Option Setting :=
  let bytes k n := slice (rpc.reqStruct.offset k) n data
  let u8 k := UInt8.ofNat (leNat (bytes k 1))
  let u32 k := UInt32.ofNat (leNat (bytes k 4))
  match rpc with
  | .setChannel => some (.setChannel (u8 1))
  | .setPhy11p => some (.setPhy11p (u8 1 ≠ 0))
  | .setTxPower => some (.setTxPower (u8 1).toInt8)
  | .setRxGain => some (.setRxGain (u8 1))
  | .setAgcMaxGain => some (.setAgcMaxGain (u8 1))
  | .setCca => some (.setCca (u8 1 ≠ 0))
  | .setLowRate => some (.setLowRate (u8 1 ≠ 0))
  | .setBandwidth => some (.setBandwidth (u8 1))
  | .setFreq => some (.setFreq (u32 1))
  | .setBand => some (.setBand (u8 1))
  | .setChanFilt => some (.setChanFilt (u32 1))
  | .setChan14Mic => some (.setChan14Mic (u8 1))
  | .setRate => some (.setRate (u8 1))
  | .setMostTpw => some (.setMostTpw (u8 1).toInt8)
  | .setCsiDump => some (.setCsiDump (u8 1))
  | .setLoopback => some (.setLoopback (u8 1))
  | .setBtTxGain => some (.setBtTxGain (u8 1))
  | .setBtFilter => some (.setBtFilter (u32 1))
  | .setPromisc => some (.setPromisc (u8 1 ≠ 0))
  | .setPromiscFilter => some (.setPromiscFilter (u32 1))
  | .setProtocol => some (.setProtocol (ifaceOf (u8 2)) (u8 1))
  | .setMac => some (.setMac (ifaceOf (u8 1)) (bytes 2 6))
  | .setCsiEnable => some (.setCsiEnable (u8 1 ≠ 0))
  | .ftmInitiate => some (.ftmInitiate
      { respMac := bytes 1 6, frmCount := u8 2, burstPeriod := u8 3, channel := u8 4 })
  | .setEventMask => some (.setEventMask (UInt64.ofNat (leNat (bytes 1 8))))
  | .espnowSetPmk => some (.espnowSetPmk (bytes 1 16))
  | .espnowAddPeer => some (.espnowAddPeer
      { peerAddr := bytes 1 6, lmk := bytes 2 16, channel := u8 3, ifidx := ifaceOf (u8 4),
        encrypt := u8 5 ≠ 0 })
  | .espnowDelPeer => some (.espnowDelPeer (bytes 1 6))
  | .ieee154Enable => some (.ieee154Enable (u8 1 ≠ 0))
  | .ieee154SetChan => some (.ieee154SetChan (u8 1))
  | .ieee154SetPanid => some (.ieee154SetPanid (UInt16.ofNat (leNat (bytes 1 2))))
  | .ieee154SetPromisc => some (.ieee154SetPromisc (u8 1 ≠ 0))
  | .ieee154TxRaw =>
    some (.ieee154TxRaw (slice rpc.reqStruct.sizeof (leNat (bytes 3 2)) data) (u8 1 ≠ 0))
  | _ => none

/-! ## Calls -/

def Event.isCall : Event → Bool
  | .phy _ | .drv _ _ => true
  | _ => false

/-- The calls into the radio and the driver, in order. -/
def calls (es : List Event) : List Event := es.filter Event.isCall

section Calls

variable (es es' : List Event)

@[simp] theorem calls_nil : calls [] = [] := rfl
@[simp] theorem calls_append : calls (es ++ es') = calls es ++ calls es' :=
  List.filter_append es es'
@[simp] theorem calls_send (m : UInt32) (b : List UInt8) : calls (.send m b :: es) = calls es := rfl

@[simp] theorem calls_reads (l : List Nat) : calls (l.map .read) = [] := by
  refine List.filter_eq_nil_iff.2 fun e he => ?_
  obtain ⟨i, -, rfl⟩ := List.mem_map.1 he
  exact Bool.false_ne_true

theorem calls_answering {t : Packed} {r : Input} (s : SlaveState) (hlen : t.sizeof ≤ r.data.length)
    (respId : UInt32) (act : Handler EspErr) :
    calls (answering t respId act r s).events = calls (act r s).events := by
  rw [answering_events s hlen]
  simp

end Calls

/-- A radio call behind a weak symbol. -/
def phyIf (env : Env) (sym : Sym) (c : PhyCall) : List Event :=
  if env.resolved sym then [.phy c] else []

/-- A driver call with the outcome it meets. -/
def drvEvent (env : Env) (c : DrvCall) : Event := .drv c (env.err c)

def drvIf (env : Env) (sym : Sym) (c : DrvCall) : List Event :=
  if env.resolved sym then [drvEvent env c] else []

/-- `enable ? 1 : 0` as an `int`. -/
def intFlag (b : Bool) : Int32 := if b then 1 else 0

/-- What a setting has the radio and the driver do. -/
def Setting.calls (env : Env) (s : SlaveState) : Setting → List Event
  | .setChannel ch =>
    [drvEvent env (.espWifiSetCountry permissiveCountry), drvEvent env (.espWifiSetChannel 140)] ++
      if env.err (.espWifiSetChannel 140) = espOk then
        [.phy (.phyChangeChannel ch.toUInt32.toInt32 1 0 0)]
      else []
  | .setPhy11p en => [.phy (.phy11pSet (intFlag en) 0)]
  | .setTxPower dbm => [drvEvent env (.espWifiSetMaxTxPower (txPowerQuarters dbm))]
  | .setRxGain gain =>
    if gain = 0xFF then
      phyIf env .phyEnableAgc .phyEnableAgc ++ phyIf env .phyRxGainForce (.phyRxGainForce 0)
    else
      phyIf env .phyDisableAgc .phyDisableAgc ++ (phyIf env .phyRxGainForce (.phyRxGainForce 1) ++
        phyIf env .phyForceRxGain (.phyForceRxGain gain.toUInt32.toInt32))
  | .setAgcMaxGain g => phyIf env .phyAgcMaxGainSet (.phyAgcMaxGainSet g.toUInt32.toInt32)
  | .setCca en =>
    if en then phyIf env .phyEnableCca .phyEnableCca else phyIf env .phyDisableCca .phyDisableCca
  | .setLowRate en =>
    if en then phyIf env .phyEnableLowRate .phyEnableLowRate
    else phyIf env .phyDisableLowRate .phyDisableLowRate
  | .setBandwidth bw =>
    if bw = 40 then phyIf env .phyBbBssCbw40 (.phyBbBssCbw40 1)
    else if bw = 20 then phyIf env .phyBbBssCbw40 (.phyBbBssCbw40 0)
    else []
  | .setFreq mhz => phyIf env .phySetFreq (.phySetFreq mhz.toInt32)
  | .setBand b =>
    if env.resolved .phyBandChange then [.phy (.phyBandChange b.toUInt32.toInt32)]
    else phyIf env .phyBandSel (.phyBandSel b.toUInt32.toInt32)
  | .setChanFilt m => phyIf env .phyChanFiltSet (.phyChanFiltSet m)
  | .setChan14Mic en => phyIf env .phyChan14MicCfgNew (.phyChan14MicCfgNew en.toUInt32.toInt32)
  | .setRate rate => phyIf env .phySetRate (.phySetRate rate.toUInt32.toInt32)
  | .setMostTpw tpw => phyIf env .phySetMostTpw (.phySetMostTpw tpw.toInt32)
  | .setCsiDump en => phyIf env .phyCsidumpForceLltfCfg
    (.phyCsidumpForceLltfCfg en.toUInt32.toInt32)
  | .setLoopback g => phyIf env .phySetLoopbackGain (.phySetLoopbackGain g.toUInt32.toInt32)
  | .setBtTxGain g =>
    if env.resolved .phyBtSetTxGainNew then [.phy (.phyBtSetTxGainNew g.toUInt32.toInt32)]
    else phyIf env .phyBtTxGainSet (.phyBtTxGainSet g.toUInt32.toInt32)
  | .setBtFilter v => phyIf env .phyBtFilterReg (.phyBtFilterReg v)
  | .setPromisc en =>
    (if en ∧ s.rawQ = false then [drvEvent env .espWifiSetPromiscuousRxCb] else []) ++
      [drvEvent env (.espWifiSetPromiscuous en)]
  | .setPromiscFilter m => [drvEvent env (.espWifiSetPromiscuousFilter m)]
  | .setProtocol iface m => [drvEvent env (.espWifiSetProtocol iface m)]
  | .setMac iface mac => [drvEvent env (.espWifiSetMac iface mac)]
  | .setCsiEnable en =>
    if en then
      drvEvent env .espWifiSetCsiRxCb ::
        if env.err .espWifiSetCsiRxCb = espOk then [drvEvent env (.espWifiSetCsi true)] else []
    else [drvEvent env (.espWifiSetCsi false)]
  | .ftmInitiate cfg =>
    (if s.ftmHandlerRegistered then [] else [drvEvent env .espEventHandlerRegisterFtm]) ++
      [drvEvent env (.espWifiFtmInitiateSession cfg)]
  | .setEventMask _ => []
  | .espnowSetPmk pmk => [drvEvent env (.espNowSetPmk pmk)]
  | .espnowAddPeer peer => [drvEvent env (.espNowAddPeer peer)]
  | .espnowDelPeer mac => [drvEvent env (.espNowDelPeer mac)]
  | .ieee154Enable en =>
    if en then drvIf env .espIeee802154Enable .espIeee802154Enable
    else drvIf env .espIeee802154Disable .espIeee802154Disable
  | .ieee154SetChan ch =>
    if ch < 11 ∨ ch > 26 then []
    else drvIf env .espIeee802154SetChannel (.espIeee802154SetChannel ch)
  | .ieee154SetPanid pan => drvIf env .espIeee802154SetPanid (.espIeee802154SetPanid pan)
  | .ieee154SetPromisc en =>
    drvIf env .espIeee802154SetPromiscuous (.espIeee802154SetPromiscuous en)
  | .ieee154TxRaw frame cca =>
    if frame.length > 127 then []
    else drvIf env .espIeee802154Transmit
      (.espIeee802154Transmit (UInt8.ofNat frame.length :: frame) cca)

/-! ## Handlers refine settings -/

section Refine

variable {r : Input} (s : SlaveState)

theorem calls_hookOpt (sym : Sym) (act : Handler Unit) :
    calls (hookOpt sym act r s).events =
      if r.env.resolved sym then calls (act r s).events else [] := by
  rw [hookOpt_eval]
  split <;> rfl

theorem calls_hookOpt_phy (sym : Sym) (c : PhyCall) :
    calls (hookOpt sym (callPhy c) r s).events = phyIf r.env sym c := by
  rw [calls_hookOpt, callPhy_eval]
  rfl

theorem calls_drvOrNs (sym : Sym) (c : DrvCall) :
    calls (drvOrNs sym c r s).events = drvIf r.env sym c := by
  rw [drvOrNs_eval]
  unfold drvIf drvEvent
  split <;> rfl

theorem calls_ifResolved_bind {α : Type} (sym : Sym) (c : PhyCall) (k : Unit → Handler α) :
    calls ((ifResolved sym c >>= k) r s).events = phyIf r.env sym c ++ calls (k () r s).events := by
  rw [Cmd.bind_eval, ifResolved_eval, calls_append]
  unfold phyIf
  split <;> rfl

/-- What calls nothing and leaves the statics alone only hands on its value. -/
theorem calls_bind_of_silent {α β : Type} {c : Handler α} (hev : calls (c r s).events = [])
    (hs : (c r s).state = s) (k : α → Handler β) :
    calls ((c >>= k) r s).events = calls (k (c r s).val r s).events := by
  rw [Cmd.bind_eval, calls_append, hev, hs, List.nil_append]

theorem calls_readBytes_bind {α : Type} (off n : Nat) (k : List UInt8 → Handler α) :
    calls ((readBytes off n >>= k) r s).events = calls (k (slice off n r.data) r s).events :=
  calls_bind_of_silent s (calls_reads _) rfl k

theorem calls_readU8_bind {α : Type} (off : Nat) (k : UInt8 → Handler α) :
    calls ((readU8 off >>= k) r s).events =
      calls (k (UInt8.ofNat (leNat (slice off 1 r.data))) r s).events := by
  rw [calls_bind_of_silent s (by rw [readU8_events, calls_reads]) rfl, readU8_val]

theorem calls_readI8_bind {α : Type} (off : Nat) (k : Int8 → Handler α) :
    calls ((readI8 off >>= k) r s).events =
      calls (k (UInt8.ofNat (leNat (slice off 1 r.data))).toInt8 r s).events := by
  rw [calls_bind_of_silent s (by rw [readI8_events, calls_reads]) rfl, readI8_val]

theorem calls_readU16_bind {α : Type} (off : Nat) (k : UInt16 → Handler α) :
    calls ((readU16 off >>= k) r s).events =
      calls (k (UInt16.ofNat (leNat (slice off 2 r.data))) r s).events := by
  rw [calls_bind_of_silent s (by rw [readU16_events, calls_reads]) rfl, readU16_val]

theorem calls_readU32_bind {α : Type} (off : Nat) (k : UInt32 → Handler α) :
    calls ((readU32 off >>= k) r s).events =
      calls (k (UInt32.ofNat (leNat (slice off 4 r.data))) r s).events := by
  rw [calls_bind_of_silent s (by rw [readU32_events, calls_reads]) rfl, readU32_val]

theorem calls_resolved_bind {α : Type} (sym : Sym) (k : Bool → Handler α) :
    calls ((resolved sym >>= k) r s).events = calls (k (r.env.resolved sym) r s).events := by
  rw [calls_bind_of_silent s (by rw [resolved_eval, calls_nil]) (by rw [resolved_eval]),
    resolved_eval]

theorem calls_callDrv_bind {α : Type} (c : DrvCall) (k : EspErr → Handler α) :
    calls ((callDrv c >>= k) r s).events =
      drvEvent r.env c :: calls (k (r.env.err c) r s).events := by
  rw [Cmd.bind_eval, callDrv_eval, calls_append]
  rfl

theorem calls_callDrv (c : DrvCall) : calls (callDrv c r s).events = [drvEvent r.env c] := by
  rw [callDrv_eval]
  rfl

section Families

variable {t : Packed} {respId : UInt32} (hlen : t.sizeof ≤ r.data.length)
include hlen

theorem calls_onSetSwitch (onSym offSym : Sym) (on off : PhyCall)
    (store : UInt8 → PhyState → PhyState) :
    calls (onSetSwitch t respId onSym offSym on off store r s).events =
      if decide (UInt8.ofNat (leNat (slice (t.offset 1) 1 r.data)) ≠ 0) then phyIf r.env onSym on
      else phyIf r.env offSym off := by
  rw [onSetSwitch, calls_answering s hlen, calls_readU8_bind]
  generalize UInt8.ofNat (leNat (slice (t.offset 1) 1 r.data)) = en
  have htail : ∀ (o : Outcome SlaveState Event EspErr), calls ((if o.val = espOk then
      setState (store (flag en)) >>= fun _ => pure o.val else pure o.val) r o.state).events =
        [] := by
    intro o
    rw [Cmd.ite_eval]
    split <;> rfl
  by_cases hen : en = 0
  · rw [if_neg (by simp [hen]), if_neg (by simp [hen]), Cmd.bind_eval, calls_append, htail,
      List.append_nil, calls_hookOpt_phy]
  · rw [if_pos hen, if_pos (by simp [hen]), Cmd.bind_eval, calls_append, htail, List.append_nil,
      calls_hookOpt_phy]

theorem calls_onSetEither (sym sym' : Sym) (call call' : Int32 → PhyCall) :
    calls (onSetEither t respId sym sym' call call' r s).events =
      if r.env.resolved sym then
        [.phy (call (UInt8.ofNat (leNat (slice (t.offset 1) 1 r.data))).toUInt32.toInt32)]
      else
        phyIf r.env sym'
        (call' (UInt8.ofNat (leNat (slice (t.offset 1) 1 r.data))).toUInt32.toInt32) := by
  rw [onSetEither, calls_answering s hlen, calls_resolved_bind, Cmd.ite_eval]
  split
  · rw [calls_readU8_bind]
    rfl
  · rw [calls_hookOpt, calls_readU8_bind]
    rfl

theorem calls_onSetByte (sym : Sym) (call : Int32 → PhyCall) :
    calls (onSetByte t respId sym call r s).events =
      phyIf r.env sym
      (call (UInt8.ofNat (leNat (slice (t.offset 1) 1 r.data))).toUInt32.toInt32) := by
  rw [onSetByte, calls_answering s hlen, calls_hookOpt, calls_readU8_bind]
  rfl

end Families

theorem calls_onSetChannel (hlen : Rpc.setChannel.reqStruct.sizeof ≤ r.data.length) :
    calls (onSetChannel r s).events =
      (Setting.setChannel (UInt8.ofNat (leNat (slice 4 1 r.data)))).calls r.env s := by
  rw [onSetChannel, calls_answering s hlen, calls_callDrv_bind, calls_callDrv_bind, Cmd.ite_eval,
    Setting.calls]
  split
  · rw [calls_readU8_bind]
    rfl
  · rfl

theorem calls_onSetTxPower (hlen : Rpc.setTxPower.reqStruct.sizeof ≤ r.data.length) :
    calls (onSetTxPower r s).events =
      (Setting.setTxPower (UInt8.ofNat (leNat (slice 4 1 r.data))).toInt8).calls r.env s := by
  rw [onSetTxPower, calls_answering s hlen, calls_readI8_bind, calls_callDrv_bind, Cmd.ite_eval]
  split <;> rfl

theorem calls_onSetRxGain (hlen : Rpc.setRxGain.reqStruct.sizeof ≤ r.data.length) :
    calls (onSetRxGain r s).events =
      (Setting.setRxGain (UInt8.ofNat (leNat (slice 4 1 r.data)))).calls r.env s := by
  have harg : UInt8.ofNat (leNat (slice (Rpc.setRxGain.reqStruct.offset 1) 1 r.data)) =
      UInt8.ofNat (leNat (slice 4 1 r.data)) := rfl
  rw [onSetRxGain, calls_answering s hlen, calls_readU8_bind, Cmd.ite_eval, harg, Setting.calls]
  split
  · rw [calls_ifResolved_bind, calls_ifResolved_bind, Cmd.pure_eval, calls_nil, List.append_nil]
  · rw [calls_ifResolved_bind, calls_ifResolved_bind, calls_hookOpt_phy]

theorem calls_onSetBandwidth (hlen : Rpc.setBandwidth.reqStruct.sizeof ≤ r.data.length) :
    calls (onSetBandwidth r s).events =
      (Setting.setBandwidth (UInt8.ofNat (leNat (slice 4 1 r.data)))).calls r.env s := by
  have harg : UInt8.ofNat (leNat (slice (Rpc.setBandwidth.reqStruct.offset 1) 1 r.data)) =
      UInt8.ofNat (leNat (slice 4 1 r.data)) := rfl
  rw [onSetBandwidth, calls_answering s hlen, calls_resolved_bind, Cmd.ite_eval, Setting.calls]
  unfold phyIf
  cases r.env.resolved .phyBbBssCbw40 with
  | false => simp
  | true =>
    simp only [if_true]
    rw [calls_readU8_bind, harg, Cmd.ite_eval]
    split
    · rfl
    · rw [Cmd.ite_eval]
      split <;> rfl

theorem calls_onSetPromisc (hlen : Rpc.setPromisc.reqStruct.sizeof ≤ r.data.length) :
    calls (onSetPromisc r s).events =
      (Setting.setPromisc (UInt8.ofNat (leNat (slice 4 1 r.data)) ≠ 0)).calls r.env s := by
  have harg : UInt8.ofNat (leNat (slice (Rpc.setPromisc.reqStruct.offset 1) 1 r.data)) =
      UInt8.ofNat (leNat (slice 4 1 r.data)) := rfl
  rw [onSetPromisc, calls_answering s hlen, calls_readU8_bind, harg,
    calls_bind_of_silent s (by rw [Cmd.get_eval, calls_nil]) (by rw [Cmd.get_eval]), Cmd.get_eval,
    Cmd.ite_eval, Setting.calls]
  split
  · rename_i hboth
    rw [if_pos (by simpa using hboth)]
    rfl
  · rename_i hnot
    rw [if_neg (by simpa using hnot)]
    rfl

theorem calls_onSetCsiEnable (hlen : Rpc.setCsiEnable.reqStruct.sizeof ≤ r.data.length) :
    calls (onSetCsiEnable r s).events =
      (Setting.setCsiEnable (UInt8.ofNat (leNat (slice 4 1 r.data)) ≠ 0)).calls r.env s := by
  have harg : UInt8.ofNat (leNat (slice (Rpc.setCsiEnable.reqStruct.offset 1) 1 r.data)) =
      UInt8.ofNat (leNat (slice 4 1 r.data)) := rfl
  rw [onSetCsiEnable, calls_answering s hlen, calls_readU8_bind, harg, Cmd.ite_eval, Setting.calls]
  generalize UInt8.ofNat (leNat (slice 4 1 r.data)) = en
  by_cases hen : en = 0
  · simp only [hen, ne_eq, not_true_eq_false, if_false, decide_false, Bool.false_eq_true]
    exact calls_callDrv s _
  · simp only [hen, ne_eq, not_false_eq_true, if_true, decide_true]
    rw [calls_callDrv_bind, Cmd.ite_eval]
    split
    · rw [calls_callDrv]
    · rfl

theorem calls_onFtmInitiate (hlen : Rpc.ftmInitiate.reqStruct.sizeof ≤ r.data.length) :
    calls (onFtmInitiate r s).events = (Setting.ftmInitiate
      { respMac := slice 4 6 r.data, frmCount := UInt8.ofNat (leNat (slice 10 1 r.data)),
        burstPeriod := UInt8.ofNat (leNat (slice 11 1 r.data)),
        channel := UInt8.ofNat (leNat (slice 12 1 r.data)) }).calls r.env s := by
  rw [onFtmInitiate, calls_answering s hlen, Cmd.bind_eval, calls_append, calls_readU8_bind,
    calls_readU8_bind, calls_readU8_bind, calls_readBytes_bind, calls_callDrv, Setting.calls]
  congr 1
  rw [ensureFtmHandler, calls_bind_of_silent s (by rw [Cmd.get_eval, calls_nil])
    (by rw [Cmd.get_eval]), Cmd.get_eval, Cmd.ite_eval]
  split <;> rfl

theorem calls_onI154Enable (hlen : Rpc.ieee154Enable.reqStruct.sizeof ≤ r.data.length) :
    calls (onI154Enable r s).events =
      (Setting.ieee154Enable (UInt8.ofNat (leNat (slice 4 1 r.data)) ≠ 0)).calls r.env s := by
  have harg : UInt8.ofNat (leNat (slice (Rpc.ieee154Enable.reqStruct.offset 1) 1 r.data)) =
      UInt8.ofNat (leNat (slice 4 1 r.data)) := rfl
  rw [onI154Enable, calls_answering s hlen, calls_readU8_bind, harg, Cmd.ite_eval, Setting.calls]
  split
  · rename_i hen
    rw [if_pos (by simpa using hen), calls_drvOrNs]
  · rename_i hen
    rw [if_neg (by simpa using hen), calls_drvOrNs]

theorem calls_onI154SetChan (hlen : Rpc.ieee154SetChan.reqStruct.sizeof ≤ r.data.length) :
    calls (onI154SetChan r s).events =
      (Setting.ieee154SetChan (UInt8.ofNat (leNat (slice 4 1 r.data)))).calls r.env s := by
  have harg : UInt8.ofNat (leNat (slice (Rpc.ieee154SetChan.reqStruct.offset 1) 1 r.data)) =
      UInt8.ofNat (leNat (slice 4 1 r.data)) := rfl
  rw [onI154SetChan, calls_answering s hlen, calls_resolved_bind, Cmd.ite_eval, Setting.calls]
  unfold drvIf
  cases r.env.resolved .espIeee802154SetChannel with
  | false => simp
  | true =>
    simp only [if_true]
    rw [calls_readU8_bind, harg, Cmd.ite_eval]
    split
    · rfl
    · rw [calls_callDrv]

/-- The frame of a well-formed request is as long as it says. -/
theorem calls_onI154TxRaw (hwf : WellFormedReq .ieee154TxRaw r.data) :
    calls (onI154TxRaw r s).events =
      (Setting.ieee154TxRaw (slice 8 (leNat (slice 6 2 r.data)) r.data)
        (UInt8.ofNat (leNat (slice 4 1 r.data)) ≠ 0)).calls r.env s := by
  let n := leNat (slice 6 2 r.data)
  have hfit : 8 + n ≤ r.data.length := hwf
  have hn : n < 65536 := by
    have hlen : (slice 6 2 r.data).length = 2 := length_slice (by omega)
    have hlt := leNat_lt (slice 6 2 r.data)
    rwa [hlen] at hlt
  have hn16 : (UInt16.ofNat n).toNat = n := by
    rw [UInt16.toNat_ofNat']
    omega
  have hframe : (slice 8 n r.data).length = n := length_slice hfit
  have hbig : UInt16.ofNat n > 127 ↔ n > 127 := by
    show (127 : UInt16) < UInt16.ofNat n ↔ 127 < n
    rw [UInt16.lt_iff_toNat_lt, hn16]
    rfl
  have harg : UInt16.ofNat (leNat (slice (Rpc.ieee154TxRaw.reqStruct.offset 3) 2 r.data)) =
      UInt16.ofNat n := rfl
  have hsize : Rpc.ieee154TxRaw.reqStruct.sizeof = 8 := rfl
  have hu8 : (UInt16.ofNat n).toUInt8 = UInt8.ofNat n := by
    apply UInt8.toNat_inj.1
    rw [UInt16.toNat_toUInt8, hn16, UInt8.toNat_ofNat']
  have hnot : ¬ 8 + n > r.data.length := by omega
  rw [onI154TxRaw, calls_answering s hwf.sizeof_le, calls_readU16_bind, harg,
    calls_bind_of_silent s (by rw [dataLen_eval, calls_nil]) (by rw [dataLen_eval]), dataLen_eval,
    Cmd.ite_eval, hsize, hn16, if_neg hnot, calls_resolved_bind, Cmd.ite_eval, Setting.calls,
    hframe]
  unfold drvIf
  cases r.env.resolved .espIeee802154Transmit with
  | false => simp
  | true =>
    simp only [if_true]
    rw [Cmd.ite_eval]
    by_cases h : n > 127
    · rw [if_pos (hbig.2 h), if_pos h]
      rfl
    · rw [if_neg (fun hh => h (hbig.1 hh)), if_neg h, calls_readBytes_bind, calls_readU8_bind,
        calls_callDrv, hu8]
      rfl

theorem intFlag_flag (x : UInt8) : (flag x).toUInt32.toInt32 = intFlag (x ≠ 0) := by
  unfold flag intFlag
  by_cases hx : x = 0
  · rw [if_neg (by simp [hx]), if_neg (by simp [hx])]
    rfl
  · rw [if_pos hx, if_pos (by simp [hx])]
    rfl

theorem calls_onSetPhy11p (hlen : Rpc.setPhy11p.reqStruct.sizeof ≤ r.data.length) :
    calls (onSetPhy11p r s).events =
      (Setting.setPhy11p (UInt8.ofNat (leNat (slice 4 1 r.data)) ≠ 0)).calls r.env s := by
  have harg : UInt8.ofNat (leNat (slice (Rpc.setPhy11p.reqStruct.offset 1) 1 r.data)) =
      UInt8.ofNat (leNat (slice 4 1 r.data)) := rfl
  rw [onSetPhy11p, calls_answering s hlen, calls_readU8_bind, harg, Setting.calls, ← intFlag_flag]
  rfl

theorem calls_onSetCca (hlen : Rpc.setCca.reqStruct.sizeof ≤ r.data.length) :
    calls (onSetCca r s).events =
      (Setting.setCca (UInt8.ofNat (leNat (slice 4 1 r.data)) ≠ 0)).calls r.env s := by
  unfold onSetCca
  exact calls_onSetSwitch s hlen _ _ _ _ _

theorem calls_onSetLowRate (hlen : Rpc.setLowRate.reqStruct.sizeof ≤ r.data.length) :
    calls (onSetLowRate r s).events =
      (Setting.setLowRate (UInt8.ofNat (leNat (slice 4 1 r.data)) ≠ 0)).calls r.env s := by
  unfold onSetLowRate
  exact calls_onSetSwitch s hlen _ _ _ _ _

theorem calls_onSetBand (hlen : Rpc.setBand.reqStruct.sizeof ≤ r.data.length) :
    calls (onSetBand r s).events =
      (Setting.setBand (UInt8.ofNat (leNat (slice 4 1 r.data)))).calls r.env s := by
  unfold onSetBand
  exact calls_onSetEither s hlen _ _ _ _

theorem calls_onSetBtTxGain (hlen : Rpc.setBtTxGain.reqStruct.sizeof ≤ r.data.length) :
    calls (onSetBtTxGain r s).events =
      (Setting.setBtTxGain (UInt8.ofNat (leNat (slice 4 1 r.data)))).calls r.env s := by
  unfold onSetBtTxGain
  exact calls_onSetEither s hlen _ _ _ _

end Refine

/-- **Refinement**: a handler makes exactly the calls of the setting its request decodes to. -/
theorem calls_handler {rpc : Rpc} {r : Input} {c : Setting} (s : SlaveState)
    (hwf : WellFormedReq rpc r.data) (h : decodeSetting rpc r.data = some c) :
    calls (rpc.handler r s).events = c.calls r.env s := by
  have hlen := hwf.sizeof_le
  cases rpc with
  | setChannel => cases h; exact calls_onSetChannel s hlen
  | setPhy11p => cases h; exact calls_onSetPhy11p s hlen
  | setTxPower => cases h; exact calls_onSetTxPower s hlen
  | setRxGain => cases h; exact calls_onSetRxGain s hlen
  | setAgcMaxGain =>
    cases h
    rw [Rpc.handler, onSetAgcMaxGain, calls_answering s hlen, calls_hookOpt, calls_readU8_bind]
    rfl
  | setCca => cases h; exact calls_onSetCca s hlen
  | setLowRate => cases h; exact calls_onSetLowRate s hlen
  | setBandwidth => cases h; exact calls_onSetBandwidth s hlen
  | setFreq =>
    cases h
    rw [Rpc.handler, onSetFreq, calls_answering s hlen, calls_hookOpt, calls_readU32_bind]
    rfl
  | setBand => cases h; exact calls_onSetBand s hlen
  | setChanFilt =>
    cases h
    rw [Rpc.handler, onSetChanFilt, calls_answering s hlen, calls_hookOpt, calls_readU32_bind]
    rfl
  | setChan14Mic => cases h; exact calls_onSetByte s hlen _ _
  | setRate => cases h; exact calls_onSetByte s hlen _ _
  | setMostTpw =>
    cases h
    rw [Rpc.handler, onSetMostTpw, calls_answering s hlen, calls_hookOpt, calls_readI8_bind]
    rfl
  | setCsiDump => cases h; exact calls_onSetByte s hlen _ _
  | setLoopback => cases h; exact calls_onSetByte s hlen _ _
  | setBtTxGain => cases h; exact calls_onSetBtTxGain s hlen
  | setBtFilter =>
    cases h
    rw [Rpc.handler, onSetBtFilter, calls_answering s hlen, calls_hookOpt, calls_readU32_bind]
    rfl
  | setPromisc => cases h; exact calls_onSetPromisc s hlen
  | setPromiscFilter =>
    cases h
    rw [Rpc.handler, onSetPromiscFilter, calls_answering s hlen, calls_readU32_bind, calls_callDrv]
    rfl
  | setProtocol =>
    cases h
    rw [Rpc.handler, onSetProtocol, calls_answering s hlen, calls_readU8_bind, calls_readU8_bind,
      calls_callDrv]
    rfl
  | setMac =>
    cases h
    rw [Rpc.handler, onSetMac, calls_answering s hlen, calls_readU8_bind, calls_readBytes_bind,
      calls_callDrv]
    rfl
  | setCsiEnable => cases h; exact calls_onSetCsiEnable s hlen
  | ftmInitiate => cases h; exact calls_onFtmInitiate s hlen
  | setEventMask =>
    cases h
    rw [Rpc.handler, onSetEventMask, calls_answering s hlen,
      calls_bind_of_silent s (by rw [readU64_events, calls_reads]) rfl]
    rfl
  | espnowSetPmk =>
    cases h
    rw [Rpc.handler, onEspnowSetPmk, calls_answering s hlen, calls_readBytes_bind, calls_callDrv]
    rfl
  | espnowAddPeer =>
    cases h
    rw [Rpc.handler, onEspnowAddPeer, calls_answering s hlen, calls_readBytes_bind,
      calls_readBytes_bind, calls_readU8_bind, calls_readU8_bind, calls_readU8_bind, calls_callDrv]
    rfl
  | espnowDelPeer =>
    cases h
    rw [Rpc.handler, onEspnowDelPeer, calls_answering s hlen, calls_readBytes_bind, calls_callDrv]
    rfl
  | ieee154Enable => cases h; exact calls_onI154Enable s hlen
  | ieee154SetChan => cases h; exact calls_onI154SetChan s hlen
  | ieee154SetPanid =>
    cases h
    rw [Rpc.handler, onI154SetPanid, calls_answering s hlen, calls_resolved_bind, Cmd.ite_eval,
      Setting.calls, drvIf]
    split
    · rw [calls_readU16_bind, calls_callDrv]
    · rfl
  | ieee154SetPromisc =>
    cases h
    rw [Rpc.handler, onI154SetPromisc, calls_answering s hlen, calls_resolved_bind, Cmd.ite_eval,
      Setting.calls, drvIf]
    split
    · rw [calls_readU8_bind, calls_callDrv]
    · rfl
  | ieee154TxRaw => cases h; exact calls_onI154TxRaw s hwf
  | _ => cases h

end EspHostedOpen
