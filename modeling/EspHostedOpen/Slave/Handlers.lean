import EspHostedOpen.Slave.Driver

/-!
# The PHY request handlers (`phy_rpc_handlers.c`)

One definition for each handler, in the order of the file. Families share a shape: `answering` for
those that end in `send_simple_resp`, `hookOpt` for `HOOK_OPT`, `onGetByte` for the three getters of
one measured byte. `on_get_caps` needs the sibling modules and stands in `Slave.Caps`.
-/

namespace EspHostedOpen

open ByteCodec

def onSetChannel : Handler Unit :=
  answering Rpc.setChannel.reqStruct Rpc.setChannel.resp do
    let _ ← callDrv (.espWifiSetCountry permissiveCountry)
    let err ← callDrv (.espWifiSetChannel 140)
    if err = espOk then
      let channel ← readU8 (Rpc.setChannel.reqStruct.offset 1)
      callPhy (.phyChangeChannel channel.toUInt32.toInt32 1 0 0)
      setState fun p => { p with channel := channel }
      pure err
    else pure err

/-- `x ? 1 : 0`. -/
def flag (x : UInt8) : UInt8 := if x ≠ 0 then 1 else 0

def onSetPhy11p : Handler Unit :=
  answering Rpc.setPhy11p.reqStruct Rpc.setPhy11p.resp do
    let enable ← readU8 (Rpc.setPhy11p.reqStruct.offset 1)
    callPhy (.phy11pSet (flag enable).toUInt32.toInt32 0)
    setState fun p => { p with phy11pArmed := flag enable }
    pure espOk

/-- The quarter-dBm argument of `on_set_tx_power`: the product is cut to `int8_t` first and clamped
to 8..84 afterwards. -/
def txPowerQuarters (dbm : Int8) : Int8 :=
  let q : Int8 := dbm * 4
  let q := if q < 8 then 8 else q
  if q > 84 then 84 else q

/-- Where the product fits an `int8_t`, cutting it first does no harm to the clamp. -/
theorem txPowerQuarters_toInt {dbm : Int8} (hlo : -32 ≤ dbm.toInt) (hhi : dbm.toInt ≤ 31) :
    (txPowerQuarters dbm).toInt = max 8 (min 84 (4 * dbm.toInt)) := by
  have hmul : (dbm * 4).toInt = 4 * dbm.toInt := by
    have hfour : (4 : Int8).toInt = 4 := rfl
    rw [Int8.toInt_mul, hfour, Int.mul_comm]
    exact Int.bmod_eq_of_le (by omega) (by omega)
  have hlow : dbm * 4 < 8 ↔ 4 * dbm.toInt < 8 := by
    rw [Int8.lt_iff_toInt_lt, hmul]
    exact Iff.rfl
  have hhigh : dbm * 4 > 84 ↔ 84 < 4 * dbm.toInt := by
    show (84 : Int8) < dbm * 4 ↔ _
    rw [Int8.lt_iff_toInt_lt, hmul]
    exact Iff.rfl
  unfold txPowerQuarters
  by_cases hsmall : dbm * 4 < 8
  · have hval : (8 : Int8).toInt = 8 := rfl
    have hquad := hlow.1 hsmall
    simp only [if_pos hsmall, if_neg (show ¬(8 : Int8) > 84 by decide), hval]
    omega
  · have hquad : ¬4 * dbm.toInt < 8 := fun hlt => hsmall (hlow.2 hlt)
    simp only [if_neg hsmall]
    split
    · rename_i hbig
      have hval : (84 : Int8).toInt = 84 := rfl
      have hover := hhigh.1 hbig
      rw [hval]
      omega
    · rename_i hfits
      have hunder : ¬84 < 4 * dbm.toInt := fun hlt => hfits (hhigh.2 hlt)
      rw [hmul]
      omega

def onSetTxPower : Handler Unit :=
  answering Rpc.setTxPower.reqStruct Rpc.setTxPower.resp do
    let dbm ← readI8 (Rpc.setTxPower.reqStruct.offset 1)
    let err ← callDrv (.espWifiSetMaxTxPower (txPowerQuarters dbm))
    if err = espOk then
      setState fun p => { p with txPowerDbm := dbm }
      pure err
    else pure err

def onSetRxGain : Handler Unit :=
  answering Rpc.setRxGain.reqStruct Rpc.setRxGain.resp do
    let gainIndex ← readU8 (Rpc.setRxGain.reqStruct.offset 1)
    if gainIndex = 0xFF then
      ifResolved .phyEnableAgc .phyEnableAgc
      ifResolved .phyRxGainForce (.phyRxGainForce 0)
      pure espOk
    else
      ifResolved .phyDisableAgc .phyDisableAgc
      ifResolved .phyRxGainForce (.phyRxGainForce 1)
      hookOpt .phyForceRxGain (callPhy (.phyForceRxGain gainIndex.toUInt32.toInt32))

def onSetAgcMaxGain : Handler Unit :=
  answering Rpc.setAgcMaxGain.reqStruct Rpc.setAgcMaxGain.resp <|
    hookOpt .phyAgcMaxGainSet do
      let maxGain ← readU8 (Rpc.setAgcMaxGain.reqStruct.offset 1)
      callPhy (.phyAgcMaxGainSet maxGain.toUInt32.toInt32)
      setState fun p => { p with agcMaxGain := maxGain }

/-- Enable or disable through two symbols, remembering the flag where the symbol was there
(`on_set_cca`, `on_set_low_rate`). -/
def onSetSwitch (t : Packed) (respId : UInt32) (onSym offSym : Sym) (on off : PhyCall)
    (store : UInt8 → PhyState → PhyState) : Handler Unit :=
  answering t respId do
    let enable ← readU8 (t.offset 1)
    let st ← (if enable ≠ 0 then hookOpt onSym (callPhy on) else hookOpt offSym (callPhy off))
    if st = espOk then
      setState (store (flag enable))
      pure st
    else pure st

def onSetCca : Handler Unit :=
  onSetSwitch Rpc.setCca.reqStruct Rpc.setCca.resp .phyEnableCca .phyDisableCca .phyEnableCca
    .phyDisableCca fun b p => { p with ccaEnabled := b }

def onGetCcaCounters : Handler Unit :=
  unpackReq phyRpcHdr fun op => do
    if ← resolved .phyGetCcaCnt then
      callPhy .phyGetCcaCnt
      let busy ← Cmd.ask (·.env.ccaCnt)
      sendRespWithBody Rpc.getCcaCounters.resp op espOk (u32Bytes busy ++ u32Bytes 0)
    else sendSimpleResp Rpc.getCcaCounters.resp op espErrNotSupported

def onResetCcaCounters : Handler Unit :=
  answering phyRpcHdr Rpc.resetCcaCount.resp <|
    hookOpt .phySetCcaCnt (callPhy (.phySetCcaCnt 0))

def onSetLowRate : Handler Unit :=
  onSetSwitch Rpc.setLowRate.reqStruct Rpc.setLowRate.resp .phyEnableLowRate .phyDisableLowRate
    .phyEnableLowRate .phyDisableLowRate fun b p => { p with lowRateEnabled := b }

def onSetBandwidth : Handler Unit :=
  answering Rpc.setBandwidth.reqStruct Rpc.setBandwidth.resp do
    if ← resolved .phyBbBssCbw40 then
      let bwMhz ← readU8 (Rpc.setBandwidth.reqStruct.offset 1)
      if bwMhz = 40 then
        callPhy (.phyBbBssCbw40 1)
        pure espOk
      else if bwMhz = 20 then
        callPhy (.phyBbBssCbw40 0)
        pure espOk
      else pure espErrInvalidArg
    else pure espErrNotSupported

def int8Min : Int8 := -128

/-- The measured RSSI, `INT8_MIN` where neither symbol resolved. -/
def measureRssi : Handler Int8 := do
  if ← resolved .phyGetSigrssi then Int32.toInt8 <$> getPhy .phyGetSigrssi .phyGetSigrssi
  else if ← resolved .phyGetRssi then Int32.toInt8 <$> getPhy .phyGetRssi .phyGetRssi
  else pure int8Min

def onGetPhyRssi : Handler Unit :=
  unpackReq phyRpcHdr fun op => do
    let rssi ← measureRssi
    sendRespWithBody Rpc.getPhyRssi.resp op (if rssi = int8Min then espErrNotSupported else espOk)
      [rssi.toUInt8]

def onSetCountryPermissive : Handler Unit :=
  answering phyRpcHdr Rpc.setCountryPerm.resp <| callDrv (.espWifiSetCountry permissiveCountry)

/-- `"esp-hosted-open slave 0.1"` in the zero-filled `fw_version[32]`. -/
def fwVersion : List UInt8 :=
  ("esp-hosted-open slave 0.1".toList.map fun c => UInt8.ofNat c.toNat) ++ List.replicate 7 0

def infoBody (p : PhyState) : List UInt8 :=
  [p.channel, p.txPowerDbm.toUInt8, p.phy11pArmed, p.ccaEnabled, p.lowRateEnabled, p.agcMaxGain,
    0, 0] ++ fwVersion

def onGetInfo : Handler Unit :=
  unpackReq phyRpcHdr fun op => do
    let p ← Cmd.get SlaveState.phy
    sendRespWithBody Rpc.getInfo.resp op espOk (infoBody p)

def onSetFreq : Handler Unit :=
  answering Rpc.setFreq.reqStruct Rpc.setFreq.resp <|
    hookOpt .phySetFreq do
      let freqMhz ← readU32 (Rpc.setFreq.reqStruct.offset 1)
      callPhy (.phySetFreq freqMhz.toInt32)

/-- Hand the byte to whichever of two symbols resolved (`on_set_band`, `on_set_bt_tx_gain`). -/
def onSetEither (t : Packed) (respId : UInt32) (sym sym' : Sym) (call call' : Int32 → PhyCall) :
    Handler Unit :=
  answering t respId do
    if ← resolved sym then
      let v ← readU8 (t.offset 1)
      callPhy (call v.toUInt32.toInt32)
      pure espOk
    else hookOpt sym' do
      let v ← readU8 (t.offset 1)
      callPhy (call' v.toUInt32.toInt32)

def onSetBand : Handler Unit :=
  onSetEither Rpc.setBand.reqStruct Rpc.setBand.resp .phyBandChange .phyBandSel .phyBandChange
    .phyBandSel

def onSetChanFilt : Handler Unit :=
  answering Rpc.setChanFilt.reqStruct Rpc.setChanFilt.resp <|
    hookOpt .phyChanFiltSet do
      let filter ← readU32 (Rpc.setChanFilt.reqStruct.offset 1)
      callPhy (.phyChanFiltSet filter)

/-- `HOOK_OPT(sym, sym(r->byte))`. -/
def onSetByte (t : Packed) (respId : UInt32) (sym : Sym) (call : Int32 → PhyCall) : Handler Unit :=
  answering t respId <|
    hookOpt sym do
      let v ← readU8 (t.offset 1)
      callPhy (call v.toUInt32.toInt32)

def onSetChan14Mic : Handler Unit :=
  onSetByte Rpc.setChan14Mic.reqStruct Rpc.setChan14Mic.resp .phyChan14MicCfgNew .phyChan14MicCfgNew

def onSetRate : Handler Unit :=
  onSetByte Rpc.setRate.reqStruct Rpc.setRate.resp .phySetRate .phySetRate

def onSetMostTpw : Handler Unit :=
  answering Rpc.setMostTpw.reqStruct Rpc.setMostTpw.resp <|
    hookOpt .phySetMostTpw do
      let tpw ← readI8 (Rpc.setMostTpw.reqStruct.offset 1)
      callPhy (.phySetMostTpw tpw.toInt32)

/-- Answer one measured byte, cut to `int8_t`. -/
def onGetByte (respId : UInt32) (sym : Sym) (call : PhyCall) : Handler Unit :=
  unpackReq phyRpcHdr fun op => do
    if ← resolved sym then
      let v ← Int32.toInt8 <$> getPhy call sym
      sendRespWithBody respId op espOk [v.toUInt8]
    else sendSimpleResp respId op espErrNotSupported

def onGetMostTpw : Handler Unit := onGetByte Rpc.getMostTpw.resp .phyGetMostTpw .phyGetMostTpw

def onResetRxGainTable : Handler Unit :=
  answering phyRpcHdr Rpc.resetRxGainTbl.resp <|
    hookOpt .phySetRxGainTable (callPhy (.phySetRxGainTable 0))

def onGetNoiseFloor : Handler Unit :=
  onGetByte Rpc.getNoiseFloor.resp .phyGetNoiseFloor .phyGetNoiseFloor

def onGetTemperature : Handler Unit := onGetByte Rpc.getTemperature.resp .phyXpdTsens .phyXpdTsens

def onSetCsiDump : Handler Unit :=
  onSetByte Rpc.setCsiDump.reqStruct Rpc.setCsiDump.resp .phyCsidumpForceLltfCfg
    .phyCsidumpForceLltfCfg

def onSetLoopback : Handler Unit :=
  onSetByte Rpc.setLoopback.reqStruct Rpc.setLoopback.resp .phySetLoopbackGain .phySetLoopbackGain

def onSetBtTxGain : Handler Unit :=
  onSetEither Rpc.setBtTxGain.reqStruct Rpc.setBtTxGain.resp .phyBtSetTxGainNew .phyBtTxGainSet
    .phyBtSetTxGainNew .phyBtTxGainSet

def onSetBtFilter : Handler Unit :=
  answering Rpc.setBtFilter.reqStruct Rpc.setBtFilter.resp <|
    hookOpt .phyBtFilterReg do
      let regValue ← readU32 (Rpc.setBtFilter.reqStruct.offset 1)
      callPhy (.phyBtFilterReg regValue)

end EspHostedOpen
