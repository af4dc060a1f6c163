import EspHostedOpen.Lib.Bitmap
import EspHostedOpen.Slave.Handlers

/-!
# GET_CAPS

`getCaps` is the bitmap `on_get_caps` computes: its own `MARK`s and those of the two sibling
modules. `capBit_getCaps` reads it back: the bit of a request is set exactly when `advertised` says
so, one symbol (or none) for each request.
-/

namespace EspHostedOpen

open ByteCodec

/-- The low byte of a message id, the index into the bitmap. -/
def capIndex (msgId : UInt32) : Nat := (msgId &&& 0xFF).toNat

/-- `MARK`. -/
def mark (reqId : UInt32) (present : Bool) (caps : List UInt8) : List UInt8 :=
  if capIndex reqId < phyRpcCapsBytes * 8 ∧ present then Bitmap.setBit (capIndex reqId) caps
  else caps

/-- The bit of a request id in a capability bitmap. -/
def capBit (caps : List UInt8) (reqId : UInt32) : Bool := Bitmap.testBit (capIndex reqId) caps

/-- Run `MARK` down a list of requests and presence conditions. -/
def markAll (marks : List (Rpc × Bool)) (caps : List UInt8) : List UInt8 :=
  marks.foldl (fun caps m => mark m.1.req m.2 caps) caps

/-- The `MARK`s of `on_get_caps` itself, in order. -/
def handlersMarks (res : Sym → Bool) : List (Rpc × Bool) :=
  [(.setChannel, true), (.setPhy11p, true), (.setTxPower, true), (.setCountryPerm, true),
    (.getInfo, true), (.getCaps, true),
    (.setRxGain, res .phyForceRxGain), (.setAgcMaxGain, res .phyAgcMaxGainSet),
    (.resetRxGainTbl, res .phySetRxGainTable), (.setCca, res .phyDisableCca),
    (.getCcaCounters, res .phyGetCcaCnt), (.resetCcaCount, res .phySetCcaCnt),
    (.setLowRate, res .phyDisableLowRate), (.setBandwidth, res .phyBbBssCbw40),
    (.getPhyRssi, res .phyGetSigrssi || res .phyGetRssi), (.setFreq, res .phySetFreq),
    (.setBand, res .phyBandChange || res .phyBandSel), (.setChanFilt, res .phyChanFiltSet),
    (.setChan14Mic, res .phyChan14MicCfgNew), (.setRate, res .phySetRate),
    (.setMostTpw, res .phySetMostTpw), (.getMostTpw, res .phyGetMostTpw),
    (.getNoiseFloor, res .phyGetNoiseFloor), (.getTemperature, res .phyXpdTsens),
    (.setCsiDump, res .phyCsidumpForceLltfCfg), (.setLoopback, res .phySetLoopbackGain),
    (.setBtTxGain, res .phyBtSetTxGainNew || res .phyBtTxGainSet),
    (.setBtFilter, res .phyBtFilterReg)]

def extrasMarks : List (Rpc × Bool) :=
  [(.tx80211, true), (.setPromisc, true), (.setPromiscFilter, true), (.setProtocol, true),
    (.setMac, true), (.setCsiEnable, true), (.ftmInitiate, true), (.setEventMask, true)]

def phyRpcExtrasFillCaps (caps : List UInt8) : List UInt8 := markAll extrasMarks caps

def espnowMarks : List (Rpc × Bool) :=
  [(.espnowInit, true), (.espnowDeinit, true), (.espnowAddPeer, true), (.espnowDelPeer, true),
    (.espnowSend, true), (.espnowSetPmk, true)]

def ieee154Marks (present : Bool) : List (Rpc × Bool) :=
  [(.ieee154Enable, present), (.ieee154SetChan, present), (.ieee154SetPanid, present),
    (.ieee154SetPromisc, present), (.ieee154TxRaw, present)]

def phyRpcWirelessFillCaps (res : Sym → Bool) (caps : List UInt8) : List UInt8 :=
  let caps := markAll espnowMarks caps
  if res .espIeee802154Enable then markAll (ieee154Marks true) caps else caps

/-- The `caps` array `on_get_caps` sends. -/
def getCaps (res : Sym → Bool) : List UInt8 :=
  phyRpcWirelessFillCaps res <| phyRpcExtrasFillCaps <|
    markAll (handlersMarks res) (List.replicate phyRpcCapsBytes 0)

def onGetCaps : Handler Unit :=
  unpackReq phyRpcHdr fun op => do
    let res ← Cmd.ask (·.env.resolved)
    sendRespWithBody Rpc.getCaps.resp op espOk (getCaps res)

/-! ## What the bitmap says -/

/-- The requests in the order they are marked. -/
def markOrder : List Rpc :=
  [.setChannel, .setPhy11p, .setTxPower, .setCountryPerm, .getInfo, .getCaps, .setRxGain,
    .setAgcMaxGain, .resetRxGainTbl, .setCca, .getCcaCounters, .resetCcaCount, .setLowRate,
    .setBandwidth, .getPhyRssi, .setFreq, .setBand, .setChanFilt, .setChan14Mic, .setRate,
    .setMostTpw, .getMostTpw, .getNoiseFloor, .getTemperature, .setCsiDump, .setLoopback,
    .setBtTxGain, .setBtFilter,
    .tx80211, .setPromisc, .setPromiscFilter, .setProtocol, .setMac, .setCsiEnable, .ftmInitiate,
    .setEventMask,
    .espnowInit, .espnowDeinit, .espnowAddPeer, .espnowDelPeer, .espnowSend, .espnowSetPmk,
    .ieee154Enable, .ieee154SetChan, .ieee154SetPanid, .ieee154SetPromisc, .ieee154TxRaw]

/-- The presence condition of each request's bit. -/
def advertised (res : Sym → Bool) : Rpc → Bool
  | .setRxGain => res .phyForceRxGain
  | .setAgcMaxGain => res .phyAgcMaxGainSet
  | .resetRxGainTbl => res .phySetRxGainTable
  | .setCca => res .phyDisableCca
  | .getCcaCounters => res .phyGetCcaCnt
  | .resetCcaCount => res .phySetCcaCnt
  | .setLowRate => res .phyDisableLowRate
  | .setBandwidth => res .phyBbBssCbw40
  | .getPhyRssi => res .phyGetSigrssi || res .phyGetRssi
  | .setFreq => res .phySetFreq
  | .setBand => res .phyBandChange || res .phyBandSel
  | .setChanFilt => res .phyChanFiltSet
  | .setChan14Mic => res .phyChan14MicCfgNew
  | .setRate => res .phySetRate
  | .setMostTpw => res .phySetMostTpw
  | .getMostTpw => res .phyGetMostTpw
  | .getNoiseFloor => res .phyGetNoiseFloor
  | .getTemperature => res .phyXpdTsens
  | .setCsiDump => res .phyCsidumpForceLltfCfg
  | .setLoopback => res .phySetLoopbackGain
  | .setBtTxGain => res .phyBtSetTxGainNew || res .phyBtTxGainSet
  | .setBtFilter => res .phyBtFilterReg
  | .ieee154Enable | .ieee154SetChan | .ieee154SetPanid | .ieee154SetPromisc | .ieee154TxRaw =>
    res .espIeee802154Enable
  | _ => true

theorem mem_markOrder (r : Rpc) : r ∈ markOrder := by
  cases r <;> decide

theorem capIndex_inj {r r' : Rpc} (h : capIndex r.req = capIndex r'.req) : r = r' :=
  List.inj_on_of_nodup_map (f := fun r : Rpc => capIndex r.req) (l := markOrder) (by decide)
    (mem_markOrder r) (mem_markOrder r') h

theorem Rpc.req_injective : Function.Injective Rpc.req :=
  fun _ _ h => capIndex_inj (congrArg capIndex h)

theorem capIndex_lt (r : Rpc) : capIndex r.req < phyRpcCapsBytes * 8 := by
  cases r <;> decide

@[simp] theorem length_mark (reqId : UInt32) (p : Bool) (caps : List UInt8) :
    (mark reqId p caps).length = caps.length := by
  unfold mark
  split
  · exact Bitmap.length_setBit _ _
  · rfl

@[simp] theorem length_markAll (marks : List (Rpc × Bool)) (caps : List UInt8) :
    (markAll marks caps).length = caps.length := by
  induction marks generalizing caps with
  | nil => rfl
  | cons m marks ih =>
    rw [markAll, List.foldl_cons, ← markAll, ih, length_mark]

/-- Marking adds the bits of the present requests of the list. -/
theorem capBit_markAll (r : Rpc) (marks : List (Rpc × Bool)) {caps : List UInt8}
    (hlen : caps.length = phyRpcCapsBytes) :
    capBit (markAll marks caps) r.req = true ↔ (r, true) ∈ marks ∨ capBit caps r.req = true := by
  induction marks generalizing caps with
  | nil => simp [markAll]
  | cons m marks ih =>
    obtain ⟨r', p⟩ := m
    rw [markAll, List.foldl_cons, ← markAll, ih (by rw [length_mark, hlen]), List.mem_cons]
    have hroom : capIndex r'.req / 8 < caps.length := by
      rw [hlen]
      have := capIndex_lt r'
      unfold phyRpcCapsBytes at *
      omega
    have hbit : capBit (mark r'.req p caps) r.req = true ↔
        (r, true) = (r', p) ∨ capBit caps r.req = true := by
      unfold mark capBit
      cases p with
      | false => simp
      | true =>
        rw [if_pos ⟨capIndex_lt r', rfl⟩, Bitmap.testBit_setBit hroom, Bool.or_eq_true,
          decide_eq_true_iff]
        have hinj : capIndex r'.req = capIndex r.req ↔ (r, true) = (r', true) :=
          ⟨fun h => by rw [capIndex_inj h], fun h => by rw [(Prod.mk.inj h).1]⟩
        rw [hinj]
    rw [hbit]
    tauto

theorem markAll_append (marks marks' : List (Rpc × Bool)) (caps : List UInt8) :
    markAll (marks ++ marks') caps = markAll marks' (markAll marks caps) := List.foldl_append

/-- The guard around the 802.15.4 marks is the presence condition of each of them. -/
theorem ieee154_guard (present : Bool) (caps : List UInt8) :
    (if present then markAll (ieee154Marks true) caps else caps) =
      markAll (ieee154Marks present) caps := by
  cases present with
  | true => rfl
  | false => simp [markAll, ieee154Marks, mark]

/-- The marks of all three modules, each request with its presence condition. -/
theorem getCaps_eq_markAll (res : Sym → Bool) :
    getCaps res = markAll (markOrder.map fun r => (r, advertised res r))
      (List.replicate phyRpcCapsBytes 0) := by
  have horder : markOrder.map (fun r => (r, advertised res r)) =
      handlersMarks res ++
        (extrasMarks ++ (espnowMarks ++ ieee154Marks (res .espIeee802154Enable))) :=
    rfl
  rw [horder, markAll_append, markAll_append, markAll_append, ← ieee154_guard]
  rfl

/-- **The bitmap**: a request's bit is its presence condition. -/
theorem capBit_getCaps (res : Sym → Bool) (r : Rpc) :
    capBit (getCaps res) r.req = advertised res r := by
  rw [Bool.eq_iff_iff, getCaps_eq_markAll,
    capBit_markAll r _ (by rw [List.length_replicate]), capBit, Bitmap.testBit_replicate]
  simp only [Bool.false_eq_true, or_false, List.mem_map, Prod.mk.injEq]
  constructor
  · rintro ⟨r', -, rfl, h⟩
    exact h
  · intro h
    exact ⟨r, mem_markOrder r, rfl, h⟩

theorem length_getCaps (res : Sym → Bool) : (getCaps res).length = phyRpcCapsBytes := by
  rw [getCaps_eq_markAll, length_markAll, List.length_replicate]

end EspHostedOpen
