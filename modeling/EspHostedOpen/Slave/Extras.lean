import EspHostedOpen.Slave.Driver

/-!
# Raw TX, promiscuous mode, CSI, FTM and Wi-Fi knobs (`phy_rpc_extras.c`)

The eight request handlers of the file. The event producers behind them run in other tasks.
-/

namespace EspHostedOpen

open ByteCodec

/-- The early answer `ESP_ERR_INVALID_SIZE` is the status of the branch that sends it. -/
def onTx80211 : Handler Unit :=
  answering Rpc.tx80211.reqStruct Rpc.tx80211.resp do
    let frameLen ← readU16 (Rpc.tx80211.reqStruct.offset 4)
    let len ← dataLen
    if Rpc.tx80211.reqStruct.sizeof + frameLen.toNat > len then pure espErrInvalidSize
    else
      let wifiIf ← readU8 (Rpc.tx80211.reqStruct.offset 1)
      let enSeqNr ← readU8 (Rpc.tx80211.reqStruct.offset 2)
      let frame ← readBytes Rpc.tx80211.reqStruct.sizeof frameLen.toNat
      callDrv (.espWifi80211Tx (ifaceOf wifiIf) frame frameLen (enSeqNr ≠ 0))

def onSetPromisc : Handler Unit :=
  answering Rpc.setPromisc.reqStruct Rpc.setPromisc.resp do
    let enable ← readU8 (Rpc.setPromisc.reqStruct.offset 1)
    let rawQ ← Cmd.get SlaveState.rawQ
    if enable ≠ 0 ∧ rawQ = false then
      let created ← callOs .xQueueCreateRaw
      Cmd.modify fun s => { s with rawQ := created }
      let _ ← callOs .xTaskCreateRawForward
      let _ ← callDrv .espWifiSetPromiscuousRxCb
      callDrv (.espWifiSetPromiscuous (enable ≠ 0))
    else callDrv (.espWifiSetPromiscuous (enable ≠ 0))

def onSetPromiscFilter : Handler Unit :=
  answering Rpc.setPromiscFilter.reqStruct Rpc.setPromiscFilter.resp do
    let filterMask ← readU32 (Rpc.setPromiscFilter.reqStruct.offset 1)
    callDrv (.espWifiSetPromiscuousFilter filterMask)

def onSetProtocol : Handler Unit :=
  answering Rpc.setProtocol.reqStruct Rpc.setProtocol.resp do
    let wifiIf ← readU8 (Rpc.setProtocol.reqStruct.offset 2)
    let protocolMask ← readU8 (Rpc.setProtocol.reqStruct.offset 1)
    callDrv (.espWifiSetProtocol (ifaceOf wifiIf) protocolMask)

def onSetMac : Handler Unit :=
  answering Rpc.setMac.reqStruct Rpc.setMac.resp do
    let wifiIf ← readU8 (Rpc.setMac.reqStruct.offset 1)
    let mac ← readBytes (Rpc.setMac.reqStruct.offset 2) 6
    callDrv (.espWifiSetMac (ifaceOf wifiIf) mac)

def onSetCsiEnable : Handler Unit :=
  answering Rpc.setCsiEnable.reqStruct Rpc.setCsiEnable.resp do
    let enable ← readU8 (Rpc.setCsiEnable.reqStruct.offset 1)
    if enable ≠ 0 then
      let err ← callDrv .espWifiSetCsiRxCb
      if err = espOk then callDrv (.espWifiSetCsi true) else pure err
    else callDrv (.espWifiSetCsi false)

/-- Register the FTM event handler once. -/
def ensureFtmHandler : Handler Unit := do
  if ← Cmd.get SlaveState.ftmHandlerRegistered then pure ()
  else
    let _ ← callDrv .espEventHandlerRegisterFtm
    Cmd.modify fun s => { s with ftmHandlerRegistered := true }

def onFtmInitiate : Handler Unit :=
  answering Rpc.ftmInitiate.reqStruct Rpc.ftmInitiate.resp do
    ensureFtmHandler
    let framesCount ← readU8 (Rpc.ftmInitiate.reqStruct.offset 2)
    let burstPeriod ← readU8 (Rpc.ftmInitiate.reqStruct.offset 3)
    let channel ← readU8 (Rpc.ftmInitiate.reqStruct.offset 4)
    let peerMac ← readBytes (Rpc.ftmInitiate.reqStruct.offset 1) 6
    callDrv (.espWifiFtmInitiateSession
      { respMac := peerMac, frmCount := framesCount, burstPeriod := burstPeriod,
        channel := channel })

/-- The mask is only logged. -/
def onSetEventMask : Handler Unit :=
  answering Rpc.setEventMask.reqStruct Rpc.setEventMask.resp do
    let _ ← readU64 (Rpc.setEventMask.reqStruct.offset 1)
    pure espOk

end EspHostedOpen
