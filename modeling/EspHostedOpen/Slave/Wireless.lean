import EspHostedOpen.Slave.Driver

/-!
# ESP-NOW and 802.15.4 request handlers (`phy_rpc_wireless.c`)
-/

namespace EspHostedOpen

open ByteCodec

/-! ## ESP-NOW -/

def onEspnowInit : Handler Unit :=
  answering phyRpcHdr Rpc.espnowInit.resp do
    let err ← callDrv .espNowInit
    if err = espOk then
      let _ ← callDrv .espNowRegisterRecvCb
      let _ ← callDrv .espNowRegisterSendCb
      pure err
    else pure err

def onEspnowDeinit : Handler Unit :=
  answering phyRpcHdr Rpc.espnowDeinit.resp <| callDrv .espNowDeinit

def onEspnowSetPmk : Handler Unit :=
  answering Rpc.espnowSetPmk.reqStruct Rpc.espnowSetPmk.resp do
    let pmk ← readBytes (Rpc.espnowSetPmk.reqStruct.offset 1) 16
    callDrv (.espNowSetPmk pmk)

def onEspnowAddPeer : Handler Unit :=
  answering Rpc.espnowAddPeer.reqStruct Rpc.espnowAddPeer.resp do
    let peerMac ← readBytes (Rpc.espnowAddPeer.reqStruct.offset 1) 6
    let lmk ← readBytes (Rpc.espnowAddPeer.reqStruct.offset 2) 16
    let channel ← readU8 (Rpc.espnowAddPeer.reqStruct.offset 3)
    let wifiIf ← readU8 (Rpc.espnowAddPeer.reqStruct.offset 4)
    let encrypt ← readU8 (Rpc.espnowAddPeer.reqStruct.offset 5)
    callDrv (.espNowAddPeer
      { peerAddr := peerMac, lmk := lmk, channel := channel, ifidx := ifaceOf wifiIf,
        encrypt := encrypt ≠ 0 })

def onEspnowDelPeer : Handler Unit :=
  answering Rpc.espnowDelPeer.reqStruct Rpc.espnowDelPeer.resp do
    let peerMac ← readBytes (Rpc.espnowDelPeer.reqStruct.offset 1) 6
    callDrv (.espNowDelPeer peerMac)

def onEspnowSend : Handler Unit :=
  answering Rpc.espnowSend.reqStruct Rpc.espnowSend.resp do
    let len' ← readU16 (Rpc.espnowSend.reqStruct.offset 2)
    let len ← dataLen
    if Rpc.espnowSend.reqStruct.sizeof + len'.toNat > len then pure espErrInvalidSize
    else
      let peerMac ← readBytes (Rpc.espnowSend.reqStruct.offset 1) 6
      let data ← readBytes Rpc.espnowSend.reqStruct.sizeof len'.toNat
      callDrv (.espNowSend peerMac data len')

/-! ## 802.15.4 -/

/-- Call the weak IDF function, or answer that it is missing. -/
def drvOrNs (sym : Sym) (call : DrvCall) : Handler EspErr := do
  if ← resolved sym then callDrv call else pure espErrNotSupported

def onI154Enable : Handler Unit :=
  answering Rpc.ieee154Enable.reqStruct Rpc.ieee154Enable.resp do
    let enable ← readU8 (Rpc.ieee154Enable.reqStruct.offset 1)
    if enable ≠ 0 then drvOrNs .espIeee802154Enable .espIeee802154Enable
    else drvOrNs .espIeee802154Disable .espIeee802154Disable

def onI154SetChan : Handler Unit :=
  answering Rpc.ieee154SetChan.reqStruct Rpc.ieee154SetChan.resp do
    if ← resolved .espIeee802154SetChannel then
      let channel ← readU8 (Rpc.ieee154SetChan.reqStruct.offset 1)
      if channel < 11 ∨ channel > 26 then pure espErrInvalidArg
      else callDrv (.espIeee802154SetChannel channel)
    else pure espErrNotSupported

def onI154SetPanid : Handler Unit :=
  answering Rpc.ieee154SetPanid.reqStruct Rpc.ieee154SetPanid.resp do
    if ← resolved .espIeee802154SetPanid then
      let panId ← readU16 (Rpc.ieee154SetPanid.reqStruct.offset 1)
      callDrv (.espIeee802154SetPanid panId)
    else pure espErrNotSupported

def onI154SetPromisc : Handler Unit :=
  answering Rpc.ieee154SetPromisc.reqStruct Rpc.ieee154SetPromisc.resp do
    if ← resolved .espIeee802154SetPromiscuous then
      let enable ← readU8 (Rpc.ieee154SetPromisc.reqStruct.offset 1)
      callDrv (.espIeee802154SetPromiscuous (enable ≠ 0))
    else pure espErrNotSupported

/-- The transmit buffer is the frame behind its PHR, the length byte. -/
def onI154TxRaw : Handler Unit :=
  answering Rpc.ieee154TxRaw.reqStruct Rpc.ieee154TxRaw.resp do
    let frameLen ← readU16 (Rpc.ieee154TxRaw.reqStruct.offset 3)
    let len ← dataLen
    if Rpc.ieee154TxRaw.reqStruct.sizeof + frameLen.toNat > len then pure espErrInvalidSize
    else if ← resolved .espIeee802154Transmit then
      if frameLen > 127 then pure espErrInvalidSize
      else
        let frame ← readBytes Rpc.ieee154TxRaw.reqStruct.sizeof frameLen.toNat
        let cca ← readU8 (Rpc.ieee154TxRaw.reqStruct.offset 1)
        callDrv (.espIeee802154Transmit (frameLen.toUInt8 :: frame) (cca ≠ 0))
    else pure espErrNotSupported

end EspHostedOpen
