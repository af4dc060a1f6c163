import EspHostedOpen.Lib.Overlay
import EspHostedOpen.Proto.Events

/-!
# The producers of asynchronous events (`phy_rpc_extras.c`, `phy_rpc_wireless.c`)

Driver callbacks that build an event and pass it to `esp_hosted_send_custom_data`: a producer is
modelled by the id and the bytes it passes on, `none` where it passes nothing on. Each `malloc` is
an argument. A structure built in allocated memory is filled through its overlay, so that an
assignment outside the allocation would show.

A promiscuous frame goes through `s_raw_q` to `raw_forward_task` in a structure of its own,
`raw_evt_t`.
-/

namespace EspHostedOpen

open ByteCodec

/-- A MAC address. -/
abbrev Mac := Vector UInt8 6

/-! ## Promiscuous frames -/

/-- `wifi_promiscuous_pkt_type_t`. -/
inductive WifiPktType
  | mgmt | ctrl | data | misc
  deriving DecidableEq, Repr

/-- `wifi_promiscuous_pkt_t`: what the callback reads of `rx_ctrl`, and the memory at `payload`. -/
structure WifiPromiscuousPkt where
  rssi : Int8
  channel : UInt8
  rate : UInt8
  timestamp : UInt32
  sigLen : Nat
  payload : List UInt8
  inside : sigLen ≤ payload.length

/-- The received frame. -/
def WifiPromiscuousPkt.frame (p : WifiPromiscuousPkt) : List UInt8 := p.payload.take p.sigLen

/-- `raw_evt_t` up to `frame`: rssi_dbm, channel, rate, is_qos, frame_len, padding, timestamp_us. -/
def rawEvt : Packed := [1, 1, 1, 1, 2, 2, 4]

/-- `e->is_qos`: the top bit of the first byte, which is read whatever `sig_len` says. -/
def isQos (p : WifiPromiscuousPkt) (type : WifiPktType) : UInt8 :=
  if type = .data ∧ p.payload.headD 0 &&& 0x80 ≠ 0 then 1 else 0

/-- The assignments of `promisc_cb` to its `raw_evt_t`. -/
def rawEvtStores (p : WifiPromiscuousPkt) (type : WifiPktType) : List Store :=
  [(rawEvt.offset 0, [p.rssi.toUInt8]), (rawEvt.offset 1, [p.channel]), (rawEvt.offset 2, [p.rate]),
    (rawEvt.offset 3, [isQos p type]), (rawEvt.offset 4, leBytes 2 p.sigLen),
    (rawEvt.offset 6, leBytes 4 p.timestamp.toNat), (rawEvt.sizeof, p.frame)]

/-- `promisc_cb`: the `raw_evt_t` that enters `s_raw_q`. `rawQ` says whether the queue exists and
`queued` whether it took the pointer. -/
def promiscCb (rawQ queued : Bool) (malloc : Malloc) (p : WifiPromiscuousPkt) (type : WifiPktType) :
    Option (List UInt8) :=
  if rawQ = false then none
  else if type = .misc then none
  else if p.sigLen > 1600 then none
  else
    match allocStores malloc (rawEvt.sizeof + p.sigLen) (rawEvtStores p type) with
    | none => none
    | some e => if queued then some e else none

/-- The assignments of `raw_forward_task`, from the members of the queued structure. -/
def rawFrameStores (e : List UInt8) (frameLen : Nat) : List Store :=
  let t := Evt.rawFrame.struct
  [(t.offset 0, slice (rawEvt.offset 0) 1 e), (t.offset 1, slice (rawEvt.offset 1) 1 e),
    (t.offset 2, slice (rawEvt.offset 2) 1 e), (t.offset 3, slice (rawEvt.offset 3) 1 e),
    (t.offset 4, slice (rawEvt.offset 4) 2 e), (t.offset 5, [0, 0]),
    (t.offset 6, slice (rawEvt.offset 6) 4 e), (t.sizeof, slice rawEvt.sizeof frameLen e)]

/-- One turn of `raw_forward_task`. -/
def rawForwardTask (malloc : Malloc) (e : List UInt8) : Option (UInt32 × List UInt8) :=
  let frameLen := leNat (slice (rawEvt.offset 4) 2 e)
  let total := Evt.rawFrame.struct.sizeof + frameLen
  (allocStores malloc total (rawFrameStores e frameLen)).map (Evt.rawFrame.msgId, ·)

/-! ## CSI -/

/-- `wifi_csi_info_t`: what the callback reads. -/
structure WifiCsiInfo where
  rssi : Int8
  channel : UInt8
  timestamp : UInt32
  mac : Mac
  len : UInt16
  buf : Option (List UInt8)
  inside : ∀ b ∈ buf, len.toNat ≤ b.length

/-- The capture, empty without a buffer. -/
def WifiCsiInfo.capture (info : WifiCsiInfo) : List UInt8 := (info.buf.getD []).take info.len.toNat

def csiStores (info : WifiCsiInfo) : List Store :=
  let t := Evt.csi.struct
  [(t.offset 0, [info.rssi.toUInt8]), (t.offset 1, [info.channel]), (t.offset 2, info.mac.toList),
    (t.offset 3, leBytes 2 info.len.toNat), (t.offset 4, [0, 0]),
    (t.offset 5, leBytes 4 info.timestamp.toNat), (t.sizeof, info.capture)]

/-- `csi_cb`. -/
def csiCb (malloc : Malloc) (info : Option WifiCsiInfo) : Option (UInt32 × List UInt8) :=
  match info with
  | none => none
  | some info =>
    if info.buf = none ∨ info.len.toNat = 0 then none
    else (allocStores malloc (Evt.csi.struct.sizeof + info.len.toNat) (csiStores info)).map
      (Evt.csi.msgId, ·)

/-! ## FTM -/

/-- `wifi_event_ftm_report_t`: what the handler reads. -/
structure WifiEventFtmReport where
  peerMac : Mac
  status : UInt32
  rttRaw : UInt32
  rttEst : UInt32
  distEst : UInt32

/-- `on_ftm_event`: the event is a local structure whose reserved byte its initializer leaves at
zero. -/
def onFtmEvent (r : WifiEventFtmReport) : UInt32 × List UInt8 :=
  (Evt.ftmReport.msgId, r.peerMac.toList ++ [r.status.toUInt8, 0] ++ leBytes 4 r.rttRaw.toNat ++
    leBytes 4 r.rttEst.toNat ++ leBytes 4 r.distEst.toNat)

/-! ## ESP-NOW -/

/-- `esp_now_recv_info_t`; `rxCtrl` is the RSSI and the channel behind `rx_ctrl`. -/
structure EspNowRecvInfo where
  srcAddr : Mac
  desAddr : Mac
  rxCtrl : Option (Int8 × UInt8)

def EspNowRecvInfo.rssi (info : EspNowRecvInfo) : Int8 := (info.rxCtrl.map Prod.fst).getD 0
def EspNowRecvInfo.channel (info : EspNowRecvInfo) : UInt8 := (info.rxCtrl.map Prod.snd).getD 0

def espnowRxStores (info : EspNowRecvInfo) (data : List UInt8) : List Store :=
  let t := Evt.espnowRx.struct
  [(t.offset 0, info.srcAddr.toList), (t.offset 1, info.desAddr.toList),
    (t.offset 2, [info.rssi.toUInt8]), (t.offset 3, [info.channel]),
    (t.offset 4, leBytes 2 data.length), (t.sizeof, data)]

/-- `espnow_rx_cb`. -/
def espnowRxCb (malloc : Malloc) (info : EspNowRecvInfo) (data : List UInt8) :
    Option (UInt32 × List UInt8) :=
  if data.length = 0 ∨ data.length > 250 then none
  else
    let total := Evt.espnowRx.struct.sizeof + data.length
    (allocStores malloc total (espnowRxStores info data)).map (Evt.espnowRx.msgId, ·)

/-- `wifi_tx_info_t`: the addresses, each behind a pointer. -/
structure WifiTxInfo where
  desAddr : Option Mac
  srcAddr : Option Mac

/-- `esp_now_send_status_t`. -/
inductive EspNowSendStatus
  | success | fail
  deriving DecidableEq, Repr

/-- `espnow_tx_cb`: the event is a local structure, zeroed first. The address is the *source*. -/
def espnowTxCb (info : Option WifiTxInfo) (status : EspNowSendStatus) : UInt32 × List UInt8 :=
  let peerMac := match info.bind WifiTxInfo.srcAddr with
    | some mac => mac.toList
    | none => List.replicate 6 0
  let statusByte : UInt8 := if status = .success then 0 else 1
  (Evt.espnowTxStatus.msgId, peerMac ++ [statusByte, 0])

/-! ## 802.15.4 -/

/-- A received frame: the PHR and the memory behind it. -/
structure Ieee802154Frame where
  phr : UInt8
  rest : List UInt8
  inside : phr.toNat ≤ 127 → phr.toNat ≤ rest.length

/-- As many bytes as the PHR says. -/
def Ieee802154Frame.body (f : Ieee802154Frame) : List UInt8 := f.rest.take f.phr.toNat

/-- The structure is zeroed, then its length and the frame are assigned. -/
def ieee154RxStores (f : Ieee802154Frame) : List Store :=
  let t := Evt.ieee154Rx.struct
  [(0, List.replicate t.sizeof 0), (t.offset 4, leBytes 2 f.phr.toNat), (t.sizeof, f.body)]

/-- `esp_ieee802154_receive_done`. -/
def espIeee802154ReceiveDone (malloc : Malloc) (frame : Option Ieee802154Frame) :
    Option (UInt32 × List UInt8) :=
  match frame with
  | none => none
  | some f =>
    if f.phr.toNat < 2 ∨ f.phr.toNat > 127 then none
    else
      let total := Evt.ieee154Rx.struct.sizeof + f.phr.toNat
      (allocStores malloc total (ieee154RxStores f)).map (Evt.ieee154Rx.msgId, ·)

end EspHostedOpen
