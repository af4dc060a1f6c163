import EspHostedOpen.Proto.Messages

/-!
# The per-call wrappers of the host (`phy_rpc.c`)

A wrapper checks its arguments, builds the request body and hands it to `do_call`. It is modelled by
what it passes on: `.ok` of the arguments of `do_call`, or the error it returns before. A pointer
that is checked against `NULL` is an `Option`, an array of fixed size a `Vector`, and `malloc` an
argument where the wrapper allocates.
-/

namespace EspHostedOpen

open ByteCodec

/-- The arguments of `do_call`, the output buffer by its capacity. -/
structure Call where
  reqMsgId : UInt32
  respMsgId : UInt32
  reqBody : List UInt8
  respBodyCap : Nat
  deriving DecidableEq, Repr

/-- A request that expects no body back. -/
def plainCall (rpc : Rpc) (body : List UInt8) : Except EspErr Call :=
  .ok { reqMsgId := rpc.req, respMsgId := rpc.resp, reqBody := body, respBodyCap := 0 }

/-- `ONE_BYTE_REQ`. -/
def oneByteReq (rpc : Rpc) (value : UInt8) : Except EspErr Call := plainCall rpc [value]

/-- `enable ? 1 : 0`. -/
def boolByte (b : Bool) : UInt8 := if b then 1 else 0

/-! ## PHY setters -/

def espHostedOpenSetChannel (ieeeChannel : UInt8) := oneByteReq .setChannel ieeeChannel
def espHostedOpenSetPhy11p (enable : Bool) := oneByteReq .setPhy11p (boolByte enable)
def espHostedOpenSetTxPower (dbm : Int8) := oneByteReq .setTxPower dbm.toUInt8
def espHostedOpenSetRxGain (gainIndex : UInt8) := oneByteReq .setRxGain gainIndex
def espHostedOpenSetAgcMaxGain (maxGain : UInt8) := oneByteReq .setAgcMaxGain maxGain
def espHostedOpenSetCca (enable : Bool) := oneByteReq .setCca (boolByte enable)
def espHostedOpenSetLowRate (enable : Bool) := oneByteReq .setLowRate (boolByte enable)
def espHostedOpenSetBandwidth (bwMhz : UInt8) := oneByteReq .setBandwidth bwMhz
def espHostedOpenResetCcaCounters := plainCall .resetCcaCount []
def espHostedOpenSetCountryPermissive := plainCall .setCountryPerm []
def espHostedOpenSetFreq (freqMhz : UInt32) := plainCall .setFreq (leBytes 4 freqMhz.toNat)
def espHostedOpenSetBand (band : UInt8) := oneByteReq .setBand band
def espHostedOpenSetChanFilt (mask : UInt32) := plainCall .setChanFilt (leBytes 4 mask.toNat)
def espHostedOpenSetChan14Micro (enable : Bool) := oneByteReq .setChan14Mic (boolByte enable)
def espHostedOpenSetRate (rateIdx : UInt8) := oneByteReq .setRate rateIdx
def espHostedOpenSetMostTpw (tpw : Int8) := oneByteReq .setMostTpw tpw.toUInt8
def espHostedOpenResetRxGainTable := plainCall .resetRxGainTbl []
def espHostedOpenSetCsiDump (enable : Bool) := oneByteReq .setCsiDump (boolByte enable)
def espHostedOpenSetLoopback (gain : UInt8) := oneByteReq .setLoopback gain
def espHostedOpenSetBtTxGain (gain : UInt8) := oneByteReq .setBtTxGain gain
def espHostedOpenSetBtFilter (regValue : UInt32) := plainCall .setBtFilter
    (leBytes 4 regValue.toNat)

/-! ## Raw TX, promiscuous mode, protocol, MAC, CSI, FTM -/

/-- `body` and `full`, both built with the header of 8 bytes and both allocated. -/
def espHostedOpenTx80211 (mallocBody mallocFull : Bool) (wifiIf : UInt8)
    (frame : Option (List UInt8)) (enSeqNr : Bool) : Except EspErr Call :=
  match frame with
  | none => .error espErrInvalidArg
  | some frame =>
    let len := frame.length
    if len = 0 ∨ len > 1500 then .error espErrInvalidArg
    else if !mallocBody || !mallocFull then .error espErrNoMem
    else plainCall .tx80211
      ([wifiIf, boolByte enSeqNr, 0, 0, UInt8.ofNat len, UInt8.ofNat (len >>> 8), 0, 0] ++ frame)

def espHostedOpenSetPromisc (enable : Bool) := oneByteReq .setPromisc (boolByte enable)

def espHostedOpenSetPromiscFilter (filterMask : UInt32) :=
  plainCall .setPromiscFilter (leBytes 4 filterMask.toNat)

def espHostedOpenSetProtocol (wifiIf protocolMask : UInt8) :=
  plainCall .setProtocol [protocolMask, wifiIf, 0, 0]

def espHostedOpenSetMac (wifiIf : UInt8) (mac : Option (Vector UInt8 6)) : Except EspErr Call :=
  match mac with
  | none => .error espErrInvalidArg
  | some mac => plainCall .setMac ([wifiIf] ++ mac.toList ++ [0])

def espHostedOpenSetCsiEnable (enable : Bool) := oneByteReq .setCsiEnable (boolByte enable)

def espHostedOpenFtmInitiate (peerMac : Option (Vector UInt8 6))
    (framesCount burstPeriod100ms channel : UInt8) : Except EspErr Call :=
  match peerMac with
  | none => .error espErrInvalidArg
  | some mac =>
    plainCall .ftmInitiate (mac.toList ++ [framesCount, burstPeriod100ms, channel] ++ [0, 0, 0])

def espHostedOpenSetEventMask (mask : UInt64) := plainCall .setEventMask (leBytes 8 mask.toNat)

/-! ## ESP-NOW -/

def espHostedOpenEspnowInit := plainCall .espnowInit []
def espHostedOpenEspnowDeinit := plainCall .espnowDeinit []

def espHostedOpenEspnowSetPmk (pmk : Option (Vector UInt8 16)) : Except EspErr Call :=
  match pmk with
  | none => .error espErrInvalidArg
  | some pmk => plainCall .espnowSetPmk pmk.toList

def espHostedOpenEspnowAddPeer (peerMac : Option (Vector UInt8 6)) (lmk : Option (Vector UInt8 16))
    (channel wifiIf : UInt8) (encrypt : Bool) : Except EspErr Call :=
  match peerMac with
  | none => .error espErrInvalidArg
  | some mac =>
    let lmk := match lmk with
      | some lmk => lmk.toList
      | none => List.replicate 16 0
    plainCall .espnowAddPeer (mac.toList ++ lmk ++ [channel, wifiIf, boolByte encrypt, 0])

def espHostedOpenEspnowDelPeer (peerMac : Option (Vector UInt8 6)) : Except EspErr Call :=
  match peerMac with
  | none => .error espErrInvalidArg
  | some mac => plainCall .espnowDelPeer mac.toList

def espHostedOpenEspnowSend (malloc : Bool) (peerMac : Option (Vector UInt8 6))
    (data : Option (List UInt8)) : Except EspErr Call :=
  match peerMac, data with
  | some mac, some data =>
    let len := data.length
    if len = 0 ∨ len > 250 then .error espErrInvalidArg
    else if !malloc then .error espErrNoMem
    else plainCall .espnowSend
      (mac.toList ++ [UInt8.ofNat len, UInt8.ofNat (len >>> 8)] ++ data)
  | _, _ => .error espErrInvalidArg

/-! ## 802.15.4 -/

def espHostedOpenIeee154Enable (enable : Bool) := oneByteReq .ieee154Enable (boolByte enable)
def espHostedOpenIeee154SetChannel (channel : UInt8) := oneByteReq .ieee154SetChan channel
def espHostedOpenIeee154SetPanId (panId : UInt16) :=
  plainCall .ieee154SetPanid (leBytes 2 panId.toNat)
def espHostedOpenIeee154SetPromiscuous (enable : Bool) :=
  oneByteReq .ieee154SetPromisc (boolByte enable)

def espHostedOpenIeee154TxRaw (malloc : Bool) (frame : Option (List UInt8)) (cca : Bool) :
    Except EspErr Call :=
  match frame with
  | none => .error espErrInvalidArg
  | some frame =>
    let len := frame.length
    if len = 0 ∨ len > 127 then .error espErrInvalidArg
    else if !malloc then .error espErrNoMem
    else plainCall .ieee154TxRaw
      ([boolByte cca, 0, UInt8.ofNat len, UInt8.ofNat (len >>> 8)] ++ frame)

/-! ## On the wire -/

/-- The message `do_call` sends: `phy_rpc_hdr_t` and the body. -/
def requestBytes (opId : UInt32) (c : Call) : List UInt8 := leBytes 4 opId.toNat ++ c.reqBody

/-- The two length bytes are the length. -/
theorem leNat_lengthBytes {n : Nat} (hn : n < 65536) :
    leNat [UInt8.ofNat n, UInt8.ofNat (n >>> 8)] = n := by
  simp only [leNat_cons, leNat_nil, UInt8.toNat_ofNat', Nat.shiftRight_eq_div_pow]
  omega

/-- What follows the header lies in the body. -/
theorem slice_requestBytes (opId : UInt32) (c : Call) (off n : Nat) :
    slice (4 + off) n (requestBytes opId c) = slice off n c.reqBody := by
  have hlen : (leBytes 4 opId.toNat).length = 4 := length_leBytes 4 _
  rw [requestBytes, slice_append_right _ _ (by omega), hlen, Nat.add_sub_cancel_left]

theorem length_requestBytes (opId : UInt32) (c : Call) :
    (requestBytes opId c).length = 4 + c.reqBody.length := by
  rw [requestBytes, List.length_append, length_leBytes]

end EspHostedOpen
