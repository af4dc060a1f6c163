import EspHostedOpen.Slave.Status

/-!
# Capability bits against the statuses answered

A capability bit promises that the request's underlying symbol is there. `Truthful` compares the bit
with the status a request meets: `ESP_ERR_NOT_SUPPORTED` exactly where the bit is clear.

For most requests the bit and the handler look at the same symbol. `BitFollowsSymbol` lists the
others with the condition under which they agree: requests that need a second symbol, requests that
use the symbol for some arguments only, and the RSSI, whose sentinel stands for "not supported".
-/

namespace EspHostedOpen

open ByteCodec

/-- The one-byte member behind the header. -/
def byteArg (data : List UInt8) : UInt8 := UInt8.ofNat (leNat (slice 4 1 data))

/-- `ESP_ERR_NOT_SUPPORTED` is answered exactly where the capability bit is clear. -/
def Truthful (rpc : Rpc) (r : Input) (s : SlaveState) : Prop :=
  replyStatus (rpc.handler r s).events = some espErrNotSupported ↔
    capBit (getCaps r.env.resolved) rpc.req = false

/-- The RSSI measured where one of the two symbols resolved. -/
def rssiOf (env : Env) : Int8 :=
  if env.resolved .phyGetSigrssi then (env.value .phyGetSigrssi).toInt8
  else (env.value .phyGetRssi).toInt8

/-- What the handler looks at agrees with the symbol behind the bit. -/
def BitFollowsSymbol (rpc : Rpc) (r : Input) : Prop :=
  let res := r.env.resolved
  match rpc with
  -- releasing the gain never needs `phy_force_rx_gain`
  | .setRxGain => byteArg r.data = 0xFF → res .phyForceRxGain = true
  -- the bit is the disable symbol
  | .setCca => byteArg r.data ≠ 0 → res .phyEnableCca = res .phyDisableCca
  | .setLowRate => byteArg r.data ≠ 0 → res .phyEnableLowRate = res .phyDisableLowRate
  -- a measured -128 reads as unsupported, and without the buffer nothing does
  | .getPhyRssi =>
    if res .phyGetSigrssi || res .phyGetRssi then r.env.malloc = true → rssiOf r.env ≠ int8Min
    else r.env.malloc = true
  -- the bit of all five is the enable symbol
  | .ieee154Enable => byteArg r.data = 0 → res .espIeee802154Disable = res .espIeee802154Enable
  | .ieee154SetChan => res .espIeee802154SetChannel = res .espIeee802154Enable
  | .ieee154SetPanid => res .espIeee802154SetPanid = res .espIeee802154Enable
  | .ieee154SetPromisc => res .espIeee802154SetPromiscuous = res .espIeee802154Enable
  | .ieee154TxRaw => res .espIeee802154Transmit = res .espIeee802154Enable
  | _ => True

/-! ## One lemma for each shape of handler -/

section Shapes

variable {rpc : Rpc} {r : Input} (s : SlaveState)

/-- Truthfulness of an `answering` handler is about the value of its action. -/
theorem truthful_answering {act : Handler EspErr}
    (hh : rpc.handler = answering rpc.reqStruct rpc.resp act)
    (hlen : rpc.reqStruct.sizeof ≤ r.data.length) :
    Truthful rpc r s ↔
      ((act r s).val = espErrNotSupported ↔ advertised r.env.resolved rpc = false) := by
  rw [Truthful, hh, replyStatus_answering s hlen, capBit_getCaps, Option.some_inj]

/-- Always advertised and never refused as unsupported. -/
theorem truthful_of_supported {act : Handler EspErr}
    (hh : rpc.handler = answering rpc.reqStruct rpc.resp act)
    (hlen : rpc.reqStruct.sizeof ≤ r.data.length)
    (hadv : advertised r.env.resolved rpc = true) (hval : (act r s).val ≠ espErrNotSupported) :
    Truthful rpc r s := by
  rw [truthful_answering s hh hlen, hadv]
  simp [hval]

/-- The handlers that are one `HOOK_OPT` on the symbol of their bit. -/
theorem truthful_hookOpt {sym : Sym} {act : Handler Unit}
    (hh : rpc.handler = answering rpc.reqStruct rpc.resp (hookOpt sym act))
    (hlen : rpc.reqStruct.sizeof ≤ r.data.length)
    (hadv : advertised r.env.resolved rpc = r.env.resolved sym) : Truthful rpc r s := by
  rw [truthful_answering s hh hlen, hadv, hookOpt_eval]
  cases r.env.resolved sym <;> simp [espOk, espErrNotSupported]

theorem truthful_onSetEither {sym sym' : Sym} {call call' : Int32 → PhyCall}
    (hh : rpc.handler = onSetEither rpc.reqStruct rpc.resp sym sym' call call')
    (hlen : rpc.reqStruct.sizeof ≤ r.data.length)
    (hadv : advertised r.env.resolved rpc = (r.env.resolved sym || r.env.resolved sym')) :
    Truthful rpc r s := by
  rw [truthful_answering s hh hlen, hadv]
  cases hs : r.env.resolved sym <;> cases hs' : r.env.resolved sym' <;>
    simp [hookOpt_eval, hs, hs', espOk, espErrNotSupported]

theorem replyStatus_onGetByte (respId : UInt32) (sym : Sym) (call : PhyCall)
    (hlen : phyRpcHdr.sizeof ≤ r.data.length) :
    replyStatus (onGetByte respId sym call r s).events =
      some (if r.env.resolved sym then if r.env.malloc then espOk else espErrNoMem
        else espErrNotSupported) := by
  refine replyStatus_unpackReq s hlen (replyStatus_bind ?_)
  rw [resolved_eval, Cmd.ite_eval]
  split
  · exact replyStatus_bind (replyStatus_withBody _ _ _ _ _ _)
  · exact replyStatus_simple _ _ _ _ _

theorem truthful_onGetByte {sym : Sym} {call : PhyCall}
    (hh : rpc.handler = onGetByte rpc.resp sym call) (hreq : rpc.reqStruct = phyRpcHdr)
    (hlen : rpc.reqStruct.sizeof ≤ r.data.length)
    (hadv : advertised r.env.resolved rpc = r.env.resolved sym) : Truthful rpc r s := by
  rw [hreq] at hlen
  rw [Truthful, hh, replyStatus_onGetByte s _ _ _ hlen, capBit_getCaps, hadv]
  cases r.env.resolved sym <;> cases r.env.malloc <;>
    simp [espOk, espErrNoMem, espErrNotSupported]

/-- A call of a weak IDF function that never answers `ESP_ERR_NOT_SUPPORTED` itself. -/
theorem drvOrNs_notSupported_iff (herr : ∀ c, r.env.err c ≠ espErrNotSupported) (sym : Sym)
    (call : DrvCall) :
    (drvOrNs sym call r s).val = espErrNotSupported ↔ r.env.resolved sym = false := by
  rw [drvOrNs_eval]
  cases r.env.resolved sym <;> simp [herr]

end Shapes

/-! ## The requests that look at something else -/

section Exceptions

variable {r : Input} (s : SlaveState)

theorem truthful_onSetRxGain (hlen : Rpc.setRxGain.reqStruct.sizeof ≤ r.data.length) :
    Truthful .setRxGain r s ↔ BitFollowsSymbol .setRxGain r := by
  rw [truthful_answering s rfl hlen]
  have hval : (UInt8.ofNat (leNat (slice (Rpc.setRxGain.reqStruct.offset 1) 1 r.data))) =
      byteArg r.data := rfl
  simp only [BitFollowsSymbol, advertised, Cmd.bind_eval, readU8_val, readU8_state, hval,
    Cmd.ite_eval]
  by_cases hrel : byteArg r.data = 0xFF
  · simp [hrel, espOk, espErrNotSupported]
  · cases hsym : r.env.resolved .phyForceRxGain <;>
      simp [hrel, hookOpt_eval, hsym, espOk, espErrNotSupported]

theorem truthful_onSetSwitch {rpc : Rpc} {onSym offSym : Sym} {on off : PhyCall}
    {store : UInt8 → PhyState → PhyState}
    (hh : rpc.handler = onSetSwitch rpc.reqStruct rpc.resp onSym offSym on off store)
    (hlen : rpc.reqStruct.sizeof ≤ r.data.length) (hoff : rpc.reqStruct.offset 1 = 4)
    (hadv : advertised r.env.resolved rpc = r.env.resolved offSym) :
    Truthful rpc r s ↔
      (byteArg r.data ≠ 0 → r.env.resolved onSym = r.env.resolved offSym) := by
  rw [truthful_answering s hh hlen, hadv]
  have hval : UInt8.ofNat (leNat (slice (rpc.reqStruct.offset 1) 1 r.data)) = byteArg r.data := by
    rw [hoff, byteArg]
  simp only [Cmd.bind_eval, readU8_val, readU8_state, hval, Cmd.ite_eval]
  by_cases hen : byteArg r.data = 0
  · cases hoffSym : r.env.resolved offSym <;>
      simp [hen, hookOpt_eval, hoffSym, espOk, espErrNotSupported]
  · cases honSym : r.env.resolved onSym <;> cases hoffSym : r.env.resolved offSym <;>
      simp [hen, hookOpt_eval, honSym, espOk, espErrNotSupported]

theorem truthful_onSetCca (hlen : Rpc.setCca.reqStruct.sizeof ≤ r.data.length) :
    Truthful .setCca r s ↔ BitFollowsSymbol .setCca r := by
  have hh : Rpc.setCca.handler = onSetSwitch Rpc.setCca.reqStruct Rpc.setCca.resp .phyEnableCca
      .phyDisableCca .phyEnableCca .phyDisableCca fun b p => { p with ccaEnabled := b } := rfl
  exact truthful_onSetSwitch s hh hlen rfl rfl

theorem truthful_onSetLowRate (hlen : Rpc.setLowRate.reqStruct.sizeof ≤ r.data.length) :
    Truthful .setLowRate r s ↔ BitFollowsSymbol .setLowRate r := by
  have hh : Rpc.setLowRate.handler = onSetSwitch Rpc.setLowRate.reqStruct Rpc.setLowRate.resp
      .phyEnableLowRate .phyDisableLowRate .phyEnableLowRate .phyDisableLowRate
      fun b p => { p with lowRateEnabled := b } := rfl
  exact truthful_onSetSwitch s hh hlen rfl rfl

theorem truthful_onSetBandwidth (hlen : Rpc.setBandwidth.reqStruct.sizeof ≤ r.data.length) :
    Truthful .setBandwidth r s := by
  rw [truthful_answering s rfl hlen]
  cases hsym : r.env.resolved .phyBbBssCbw40 with
  | false => simp [advertised, hsym]
  | true =>
    simp only [advertised, hsym, Cmd.bind_eval, resolved_eval, if_true, readU8_val, readU8_state,
      Cmd.ite_eval]
    split
    · simp [espOk, espErrNotSupported]
    · split <;> simp [espOk, espErrInvalidArg, espErrNotSupported]

theorem measureRssi_val : (measureRssi r s).val =
    if r.env.resolved .phyGetSigrssi || r.env.resolved .phyGetRssi then rssiOf r.env
    else int8Min := by
  unfold measureRssi rssiOf
  cases hsig : r.env.resolved .phyGetSigrssi <;> cases hrssi : r.env.resolved .phyGetRssi <;>
    simp [hsig, hrssi]

theorem truthful_onGetPhyRssi (hlen : Rpc.getPhyRssi.reqStruct.sizeof ≤ r.data.length) :
    Truthful .getPhyRssi r s ↔ BitFollowsSymbol .getPhyRssi r := by
  have hst : replyStatus (onGetPhyRssi r s).events = some (if r.env.malloc then
      if (measureRssi r s).val = int8Min then espErrNotSupported else espOk else espErrNoMem) :=
    replyStatus_unpackReq s hlen (replyStatus_bind (replyStatus_withBody _ _ _ _ _ _))
  rw [Truthful, Rpc.handler, hst, capBit_getCaps, measureRssi_val]
  simp only [BitFollowsSymbol, advertised]
  cases hm : r.env.malloc <;>
    cases hsym : (r.env.resolved .phyGetSigrssi || r.env.resolved .phyGetRssi) <;>
    by_cases hv : rssiOf r.env = int8Min <;>
    simp [hv, espOk, espErrNoMem, espErrNotSupported]

section Driver

variable (herr : ∀ c, r.env.err c ≠ espErrNotSupported)
include herr

theorem truthful_onI154Enable (hlen : Rpc.ieee154Enable.reqStruct.sizeof ≤ r.data.length) :
    Truthful .ieee154Enable r s ↔ BitFollowsSymbol .ieee154Enable r := by
  rw [truthful_answering s rfl hlen]
  have hval : (UInt8.ofNat (leNat (slice (Rpc.ieee154Enable.reqStruct.offset 1) 1 r.data))) =
      byteArg r.data := rfl
  simp only [BitFollowsSymbol, advertised, Cmd.bind_eval, readU8_val, readU8_state, hval,
    Cmd.ite_eval]
  by_cases hen : byteArg r.data = 0
  · simp only [hen, ne_eq, not_true_eq_false, if_false, drvOrNs_notSupported_iff s herr,
      true_implies]
    cases r.env.resolved .espIeee802154Disable <;> cases r.env.resolved .espIeee802154Enable <;>
      simp
  · simp only [hen, ne_eq, not_false_eq_true, if_true, drvOrNs_notSupported_iff s herr,
      false_implies]

end Driver

/-- The four others: a missing symbol, else an argument check or the driver's answer. -/
theorem truthful_weakDrv {rpc : Rpc} {sym : Sym} {act : Handler EspErr} (st : EspErr)
    (hh : rpc.handler = answering rpc.reqStruct rpc.resp act)
    (hlen : rpc.reqStruct.sizeof ≤ r.data.length)
    (hadv : advertised r.env.resolved rpc = r.env.resolved .espIeee802154Enable)
    (hact : (act r s).val = if r.env.resolved sym then st else espErrNotSupported)
    (hst : st ≠ espErrNotSupported) :
    Truthful rpc r s ↔ r.env.resolved sym = r.env.resolved .espIeee802154Enable := by
  rw [truthful_answering s hh hlen, hadv, hact]
  cases r.env.resolved sym <;> cases r.env.resolved .espIeee802154Enable <;> simp [hst]

section Driver

variable (herr : ∀ c, r.env.err c ≠ espErrNotSupported)
include herr

theorem truthful_onI154SetChan (hlen : Rpc.ieee154SetChan.reqStruct.sizeof ≤ r.data.length) :
    Truthful .ieee154SetChan r s ↔ BitFollowsSymbol .ieee154SetChan r := by
  let ch : UInt8 := UInt8.ofNat (leNat (slice (Rpc.ieee154SetChan.reqStruct.offset 1) 1 r.data))
  refine truthful_weakDrv s (if ch < 11 ∨ ch > 26 then espErrInvalidArg
    else r.env.err (.espIeee802154SetChannel ch)) rfl hlen rfl ?_ ?_
  · cases hsym : r.env.resolved .espIeee802154SetChannel with
    | false => simp [hsym]
    | true =>
      simp only [hsym, Cmd.bind_eval, resolved_eval, if_true, readU8_val, readU8_state,
        Cmd.ite_eval]
      split <;> rfl
  · split
    · decide
    · exact herr _

theorem truthful_onI154SetPanid (hlen : Rpc.ieee154SetPanid.reqStruct.sizeof ≤ r.data.length) :
    Truthful .ieee154SetPanid r s ↔ BitFollowsSymbol .ieee154SetPanid r := by
  refine truthful_weakDrv s _ rfl hlen rfl ?_ (herr (.espIeee802154SetPanid
    (UInt16.ofNat (leNat (slice (Rpc.ieee154SetPanid.reqStruct.offset 1) 2 r.data)))))
  cases hsym : r.env.resolved .espIeee802154SetPanid <;> simp [hsym]

theorem truthful_onI154SetPromisc (hlen : Rpc.ieee154SetPromisc.reqStruct.sizeof ≤ r.data.length) :
    Truthful .ieee154SetPromisc r s ↔ BitFollowsSymbol .ieee154SetPromisc r := by
  refine truthful_weakDrv s _ rfl hlen rfl ?_ (herr (.espIeee802154SetPromiscuous
    (UInt8.ofNat (leNat (slice (Rpc.ieee154SetPromisc.reqStruct.offset 1) 1 r.data)) ≠ 0)))
  cases hsym : r.env.resolved .espIeee802154SetPromiscuous <;> simp [hsym]

theorem truthful_onI154TxRaw (hwf : WellFormedReq .ieee154TxRaw r.data) :
    Truthful .ieee154TxRaw r s ↔ BitFollowsSymbol .ieee154TxRaw r := by
  let n : UInt16 := UInt16.ofNat (leNat (slice (Rpc.ieee154TxRaw.reqStruct.offset 3) 2 r.data))
  let frame := slice Rpc.ieee154TxRaw.reqStruct.sizeof n.toNat r.data
  let cca : UInt8 := UInt8.ofNat (leNat (slice (Rpc.ieee154TxRaw.reqStruct.offset 1) 1 r.data))
  have hn : UInt16.ofNat (leNat (slice (Rpc.ieee154TxRaw.reqStruct.offset 3) 2 r.data)) = n := rfl
  have hfit : ¬Rpc.ieee154TxRaw.reqStruct.sizeof + n.toNat > r.data.length := by
    have hmod : n.toNat ≤ leNat (slice (Rpc.ieee154TxRaw.reqStruct.offset 3) 2 r.data) := by
      rw [UInt16.toNat_ofNat']
      exact Nat.mod_le _ _
    have htail : Rpc.ieee154TxRaw.reqStruct.sizeof +
        leNat (slice (Rpc.ieee154TxRaw.reqStruct.offset 3) 2 r.data) ≤ r.data.length := hwf
    omega
  refine truthful_weakDrv s (if n > 127 then espErrInvalidSize
    else r.env.err (.espIeee802154Transmit (n.toUInt8 :: frame) (cca ≠ 0))) rfl
      hwf.sizeof_le rfl ?_ ?_
  · simp only [Cmd.bind_eval, readU16_val, readU16_state, dataLen_eval, resolved_eval, Cmd.ite_eval,
      hn, if_neg hfit]
    cases r.env.resolved .espIeee802154Transmit with
    | false => rfl
    | true =>
      by_cases hbig : n > 127
      · simp only [if_true, if_pos hbig, Cmd.pure_eval]
      · simp only [if_true, if_neg hbig, readBytes_val, readU8_val, callDrv_eval, frame,
          cca]
  · split
    · decide
    · exact herr _

end Driver

end Exceptions

/-! ## The requests that need no symbol -/

section Always

variable {r : Input} (s : SlaveState)

/-- The two replies with a body that nothing can refuse. -/
theorem truthful_of_withBody {rpc : Rpc} {c : Handler α} {body : α → List UInt8}
    (hh : rpc.handler = unpackReq rpc.reqStruct fun op => do
      let a ← c
      sendRespWithBody rpc.resp op espOk (body a))
    (hlen : rpc.reqStruct.sizeof ≤ r.data.length) (hadv : advertised r.env.resolved rpc = true) :
    Truthful rpc r s := by
  have hst : replyStatus (rpc.handler r s).events =
      some (if r.env.malloc then espOk else espErrNoMem) := by
    rw [hh]
    exact replyStatus_unpackReq s hlen (replyStatus_bind (replyStatus_withBody _ _ _ _ _ _))
  rw [Truthful, hst, capBit_getCaps, hadv]
  cases r.env.malloc <;> simp [espOk, espErrNoMem, espErrNotSupported]

theorem truthful_onGetCcaCounters (hlen : Rpc.getCcaCounters.reqStruct.sizeof ≤ r.data.length) :
    Truthful .getCcaCounters r s := by
  have hst : replyStatus (onGetCcaCounters r s).events =
      some (if r.env.resolved .phyGetCcaCnt then if r.env.malloc then espOk else espErrNoMem
        else espErrNotSupported) := by
    refine replyStatus_unpackReq s hlen (replyStatus_bind ?_)
    rw [resolved_eval, Cmd.ite_eval]
    split
    · exact replyStatus_bind (replyStatus_bind (replyStatus_withBody _ _ _ _ _ _))
    · exact replyStatus_simple _ _ _ _ _
  rw [Truthful, Rpc.handler, hst, capBit_getCaps, advertised]
  cases r.env.resolved .phyGetCcaCnt <;> cases r.env.malloc <;>
    simp [espOk, espErrNoMem, espErrNotSupported]

variable (herr : ∀ c, r.env.err c ≠ espErrNotSupported)
include herr

/-- An action that answers `ESP_OK`, an argument error or what the driver said. -/
theorem truthful_of_driver {rpc : Rpc} {act : Handler EspErr}
    (hh : rpc.handler = answering rpc.reqStruct rpc.resp act)
    (hlen : rpc.reqStruct.sizeof ≤ r.data.length) (hadv : advertised r.env.resolved rpc = true)
    (hval : (∃ c, (act r s).val = r.env.err c) ∨ (act r s).val = espOk ∨
      (act r s).val = espErrInvalidSize) : Truthful rpc r s := by
  refine truthful_of_supported s hh hlen hadv ?_
  rcases hval with ⟨c, hc⟩ | hok | hsize
  · rw [hc]
    exact herr c
  · rw [hok]
    decide
  · rw [hsize]
    decide

theorem truthful_onSetChannel (hlen : Rpc.setChannel.reqStruct.sizeof ≤ r.data.length) :
    Truthful .setChannel r s := by
  refine truthful_of_driver s herr rfl hlen rfl (.inl ⟨.espWifiSetChannel 140, ?_⟩)
  by_cases hok : r.env.err (.espWifiSetChannel 140) = espOk <;> simp [hok]

theorem truthful_onSetTxPower (hlen : Rpc.setTxPower.reqStruct.sizeof ≤ r.data.length) :
    Truthful .setTxPower r s := by
  let q := txPowerQuarters
    (UInt8.ofNat (leNat (slice (Rpc.setTxPower.reqStruct.offset 1) 1 r.data))).toInt8
  refine truthful_of_driver s herr rfl hlen rfl (.inl ⟨.espWifiSetMaxTxPower q, ?_⟩)
  simp only [Cmd.bind_eval, readI8_val, readI8_state, callDrv_eval, Cmd.ite_eval]
  split <;> rfl

theorem truthful_onTx80211 (hlen : Rpc.tx80211.reqStruct.sizeof ≤ r.data.length) :
    Truthful .tx80211 r s := by
  refine truthful_of_driver s herr rfl hlen rfl ?_
  simp only [Cmd.bind_eval, readU16_val, readU16_state, dataLen_eval, Cmd.ite_eval]
  split
  · exact .inr (.inr rfl)
  · exact .inl ⟨_, rfl⟩

theorem truthful_onSetPromisc (hlen : Rpc.setPromisc.reqStruct.sizeof ≤ r.data.length) :
    Truthful .setPromisc r s := by
  refine truthful_of_driver s herr rfl hlen rfl (.inl ⟨.espWifiSetPromiscuous
    (UInt8.ofNat (leNat (slice (Rpc.setPromisc.reqStruct.offset 1) 1 r.data)) ≠ 0), ?_⟩)
  simp only [Cmd.bind_eval, readU8_val, readU8_state, Cmd.get_eval, Cmd.ite_eval, callDrv_eval,
    callOs_eval, Cmd.modify_eval]
  split <;> rfl

theorem truthful_onSetCsiEnable (hlen : Rpc.setCsiEnable.reqStruct.sizeof ≤ r.data.length) :
    Truthful .setCsiEnable r s := by
  refine truthful_of_driver s herr rfl hlen rfl (.inl ?_)
  simp only [Cmd.bind_eval, readU8_val, readU8_state, callDrv_eval, Cmd.ite_eval, Cmd.pure_eval]
  split
  · split
    · exact ⟨_, rfl⟩
    · exact ⟨_, rfl⟩
  · exact ⟨_, rfl⟩

theorem truthful_onEspnowInit (hlen : Rpc.espnowInit.reqStruct.sizeof ≤ r.data.length) :
    Truthful .espnowInit r s := by
  refine truthful_of_driver s herr rfl hlen rfl (.inl ⟨.espNowInit, ?_⟩)
  by_cases hok : r.env.err .espNowInit = espOk <;> simp [hok]

theorem truthful_onEspnowSend (hlen : Rpc.espnowSend.reqStruct.sizeof ≤ r.data.length) :
    Truthful .espnowSend r s := by
  refine truthful_of_driver s herr rfl hlen rfl ?_
  simp only [Cmd.bind_eval, readU16_val, readU16_state, dataLen_eval, Cmd.ite_eval]
  split
  · exact .inr (.inr rfl)
  · exact .inl ⟨_, rfl⟩

end Always

/-! ## Every request -/

/-- **Exactly when a capability bit tells the truth.** The driver's own functions are taken not to
answer `ESP_ERR_NOT_SUPPORTED`. -/
theorem truthful_iff (rpc : Rpc) {r : Input} (s : SlaveState) (hwf : WellFormedReq rpc r.data)
    (herr : ∀ c, r.env.err c ≠ espErrNotSupported) :
    Truthful rpc r s ↔ BitFollowsSymbol rpc r := by
  have hlen := hwf.sizeof_le
  have hok : espOk ≠ espErrNotSupported := by decide
  cases rpc with
  | setRxGain => exact truthful_onSetRxGain s hlen
  | setCca => exact truthful_onSetCca s hlen
  | setLowRate => exact truthful_onSetLowRate s hlen
  | getPhyRssi => exact truthful_onGetPhyRssi s hlen
  | ieee154Enable => exact truthful_onI154Enable s herr hlen
  | ieee154SetChan => exact truthful_onI154SetChan s herr hlen
  | ieee154SetPanid => exact truthful_onI154SetPanid s herr hlen
  | ieee154SetPromisc => exact truthful_onI154SetPromisc s herr hlen
  | ieee154TxRaw => exact truthful_onI154TxRaw s herr hwf
  | setBandwidth => exact iff_of_true (truthful_onSetBandwidth s hlen) trivial
  | setAgcMaxGain => exact iff_of_true (truthful_hookOpt s rfl hlen rfl) trivial
  | resetRxGainTbl => exact iff_of_true (truthful_hookOpt s rfl hlen rfl) trivial
  | resetCcaCount => exact iff_of_true (truthful_hookOpt s rfl hlen rfl) trivial
  | setFreq => exact iff_of_true (truthful_hookOpt s rfl hlen rfl) trivial
  | setChanFilt => exact iff_of_true (truthful_hookOpt s rfl hlen rfl) trivial
  | setChan14Mic => exact iff_of_true (truthful_hookOpt s rfl hlen rfl) trivial
  | setRate => exact iff_of_true (truthful_hookOpt s rfl hlen rfl) trivial
  | setMostTpw => exact iff_of_true (truthful_hookOpt s rfl hlen rfl) trivial
  | setCsiDump => exact iff_of_true (truthful_hookOpt s rfl hlen rfl) trivial
  | setLoopback => exact iff_of_true (truthful_hookOpt s rfl hlen rfl) trivial
  | setBtFilter => exact iff_of_true (truthful_hookOpt s rfl hlen rfl) trivial
  | setBand => exact iff_of_true (truthful_onSetEither s rfl hlen rfl) trivial
  | setBtTxGain => exact iff_of_true (truthful_onSetEither s rfl hlen rfl) trivial
  | getMostTpw => exact iff_of_true (truthful_onGetByte s rfl rfl hlen rfl) trivial
  | getNoiseFloor => exact iff_of_true (truthful_onGetByte s rfl rfl hlen rfl) trivial
  | getTemperature => exact iff_of_true (truthful_onGetByte s rfl rfl hlen rfl) trivial
  | setChannel => exact iff_of_true (truthful_onSetChannel s herr hlen) trivial
  | setPhy11p =>
    exact iff_of_true (truthful_of_driver s herr rfl hlen rfl (.inr (.inl rfl))) trivial
  | setTxPower => exact iff_of_true (truthful_onSetTxPower s herr hlen) trivial
  | setCountryPerm =>
    exact iff_of_true (truthful_of_driver s herr rfl hlen rfl (.inl ⟨_, rfl⟩)) trivial
  | getInfo => exact iff_of_true (truthful_of_withBody s rfl hlen rfl) trivial
  | getCaps => exact iff_of_true (truthful_of_withBody s rfl hlen rfl) trivial
  | getCcaCounters => exact iff_of_true (truthful_onGetCcaCounters s hlen) trivial
  | tx80211 => exact iff_of_true (truthful_onTx80211 s herr hlen) trivial
  | setPromisc => exact iff_of_true (truthful_onSetPromisc s herr hlen) trivial
  | setPromiscFilter =>
    exact iff_of_true (truthful_of_driver s herr rfl hlen rfl (.inl ⟨_, rfl⟩)) trivial
  | setProtocol =>
    exact iff_of_true (truthful_of_driver s herr rfl hlen rfl (.inl ⟨_, rfl⟩)) trivial
  | setMac => exact iff_of_true (truthful_of_driver s herr rfl hlen rfl (.inl ⟨_, rfl⟩)) trivial
  | setCsiEnable => exact iff_of_true (truthful_onSetCsiEnable s herr hlen) trivial
  | ftmInitiate =>
    exact iff_of_true (truthful_of_driver s herr rfl hlen rfl (.inl ⟨_, rfl⟩)) trivial
  | setEventMask =>
    exact iff_of_true (truthful_of_driver s herr rfl hlen rfl (.inr (.inl rfl))) trivial
  | espnowInit => exact iff_of_true (truthful_onEspnowInit s herr hlen) trivial
  | espnowDeinit =>
    exact iff_of_true (truthful_of_driver s herr rfl hlen rfl (.inl ⟨_, rfl⟩)) trivial
  | espnowSetPmk =>
    exact iff_of_true (truthful_of_driver s herr rfl hlen rfl (.inl ⟨_, rfl⟩)) trivial
  | espnowAddPeer =>
    exact iff_of_true (truthful_of_driver s herr rfl hlen rfl (.inl ⟨_, rfl⟩)) trivial
  | espnowDelPeer =>
    exact iff_of_true (truthful_of_driver s herr rfl hlen rfl (.inl ⟨_, rfl⟩)) trivial
  | espnowSend => exact iff_of_true (truthful_onEspnowSend s herr hlen) trivial

theorem setChan_truthful_bareChip : BitFollowsSymbol .ieee154SetChan ⟨bareChip, [1, 0, 0, 0, 15]⟩ ∧
    Truthful .ieee154SetChan ⟨bareChip, [1, 0, 0, 0, 15]⟩ {} := by
  have hbit : BitFollowsSymbol .ieee154SetChan ⟨bareChip, [1, 0, 0, 0, 15]⟩ := rfl
  have herr : espOk ≠ espErrNotSupported := by decide
  have hwf : WellFormedReq .ieee154SetChan [1, 0, 0, 0, 15] := by
    unfold WellFormedReq
    decide
  exact ⟨hbit, (truthful_iff .ieee154SetChan {} hwf fun _ => herr).2 hbit⟩

/-- Without any symbol, SET_RX_GAIN is not advertised and its release code answers `ESP_OK`. -/
theorem rxGain_release_not_truthful : ¬Truthful .setRxGain ⟨bareChip, [1, 0, 0, 0, 0xFF]⟩ {} := by
  rw [truthful_onSetRxGain {} (by decide)]
  show ¬(byteArg [1, 0, 0, 0, 0xFF] = 0xFF → false = true)
  decide

end EspHostedOpen
