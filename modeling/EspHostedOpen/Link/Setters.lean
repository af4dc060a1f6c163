import EspHostedOpen.Host.Wrappers
import EspHostedOpen.Slave.Settings

/-!
# Setters from host to driver

The encoders of the host build bodies out of anonymous structures and byte stores, the handlers
overlay the structures of the shared header. For every setter with arguments and for the 802.15.4
transmission:

* `request_wellFormed` — the message is as long as the structure the slave overlays, and as the tail
  it claims;
* `decode_request` — what the slave decodes is what the caller asked for;
* `request_calls` — with `calls_handler`, the driver gets it.
-/

namespace EspHostedOpen

open ByteCodec

/-- A call of one of the host's setters, with its arguments (`esp_hosted_open.h`). -/
inductive HostCall
  | setChannel (ieeeChannel : UInt8)
  | setPhy11p (enable : Bool)
  | setTxPower (dbm : Int8)
  | setRxGain (gainIndex : UInt8)
  | setAgcMaxGain (maxGain : UInt8)
  | setCca (enable : Bool)
  | setLowRate (enable : Bool)
  | setBandwidth (bwMhz : UInt8)
  | setFreq (freqMhz : UInt32)
  | setBand (band : UInt8)
  | setChanFilt (mask : UInt32)
  | setChan14Micro (enable : Bool)
  | setRate (rateIdx : UInt8)
  | setMostTpw (tpw : Int8)
  | setCsiDump (enable : Bool)
  | setLoopback (gain : UInt8)
  | setBtTxGain (gain : UInt8)
  | setBtFilter (regValue : UInt32)
  | setPromisc (enable : Bool)
  | setPromiscFilter (filterMask : UInt32)
  | setProtocol (wifiIf : WifiIf) (protocolMask : UInt8)
  | setMac (wifiIf : WifiIf) (mac : Option (Vector UInt8 6))
  | setCsiEnable (enable : Bool)
  | ftmInitiate (peerMac : Option (Vector UInt8 6)) (framesCount burstPeriod channel : UInt8)
  | setEventMask (mask : UInt64)
  | espnowSetPmk (pmk : Option (Vector UInt8 16))
  | espnowAddPeer (peerMac : Option (Vector UInt8 6)) (lmk : Option (Vector UInt8 16))
      (channel : UInt8) (wifiIf : WifiIf) (encrypt : Bool)
  | espnowDelPeer (peerMac : Option (Vector UInt8 6))
  | ieee154Enable (enable : Bool)
  | ieee154SetChannel (channel : UInt8)
  | ieee154SetPanId (panId : UInt16)
  | ieee154SetPromiscuous (enable : Bool)
  | ieee154TxRaw (frame : Option (List UInt8)) (cca : Bool)

namespace HostCall

/-- The request a setter sends. -/
def rpc : HostCall → Rpc
  | setChannel .. => .setChannel
  | setPhy11p .. => .setPhy11p
  | setTxPower .. => .setTxPower
  | setRxGain .. => .setRxGain
  | setAgcMaxGain .. => .setAgcMaxGain
  | setCca .. => .setCca
  | setLowRate .. => .setLowRate
  | setBandwidth .. => .setBandwidth
  | setFreq .. => .setFreq
  | setBand .. => .setBand
  | setChanFilt .. => .setChanFilt
  | setChan14Micro .. => .setChan14Mic
  | setRate .. => .setRate
  | setMostTpw .. => .setMostTpw
  | setCsiDump .. => .setCsiDump
  | setLoopback .. => .setLoopback
  | setBtTxGain .. => .setBtTxGain
  | setBtFilter .. => .setBtFilter
  | setPromisc .. => .setPromisc
  | setPromiscFilter .. => .setPromiscFilter
  | setProtocol .. => .setProtocol
  | setMac .. => .setMac
  | setCsiEnable .. => .setCsiEnable
  | ftmInitiate .. => .ftmInitiate
  | setEventMask .. => .setEventMask
  | espnowSetPmk .. => .espnowSetPmk
  | espnowAddPeer .. => .espnowAddPeer
  | espnowDelPeer .. => .espnowDelPeer
  | ieee154Enable .. => .ieee154Enable
  | ieee154SetChannel .. => .ieee154SetChan
  | ieee154SetPanId .. => .ieee154SetPanid
  | ieee154SetPromiscuous .. => .ieee154SetPromisc
  | ieee154TxRaw .. => .ieee154TxRaw

/-- The wrapper; `malloc` matters where it allocates. -/
def request (malloc : Bool) : HostCall → Except EspErr Call
  | setChannel ch => espHostedOpenSetChannel ch
  | setPhy11p en => espHostedOpenSetPhy11p en
  | setTxPower dbm => espHostedOpenSetTxPower dbm
  | setRxGain g => espHostedOpenSetRxGain g
  | setAgcMaxGain g => espHostedOpenSetAgcMaxGain g
  | setCca en => espHostedOpenSetCca en
  | setLowRate en => espHostedOpenSetLowRate en
  | setBandwidth bw => espHostedOpenSetBandwidth bw
  | setFreq mhz => espHostedOpenSetFreq mhz
  | setBand b => espHostedOpenSetBand b
  | setChanFilt m => espHostedOpenSetChanFilt m
  | setChan14Micro en => espHostedOpenSetChan14Micro en
  | setRate rate => espHostedOpenSetRate rate
  | setMostTpw tpw => espHostedOpenSetMostTpw tpw
  | setCsiDump en => espHostedOpenSetCsiDump en
  | setLoopback g => espHostedOpenSetLoopback g
  | setBtTxGain g => espHostedOpenSetBtTxGain g
  | setBtFilter v => espHostedOpenSetBtFilter v
  | setPromisc en => espHostedOpenSetPromisc en
  | setPromiscFilter m => espHostedOpenSetPromiscFilter m
  | setProtocol i m => espHostedOpenSetProtocol i.code m
  | setMac i mac => espHostedOpenSetMac i.code mac
  | setCsiEnable en => espHostedOpenSetCsiEnable en
  | ftmInitiate mac n burst ch => espHostedOpenFtmInitiate mac n burst ch
  | setEventMask m => espHostedOpenSetEventMask m
  | espnowSetPmk pmk => espHostedOpenEspnowSetPmk pmk
  | espnowAddPeer mac lmk ch i enc => espHostedOpenEspnowAddPeer mac lmk ch i.code enc
  | espnowDelPeer mac => espHostedOpenEspnowDelPeer mac
  | ieee154Enable en => espHostedOpenIeee154Enable en
  | ieee154SetChannel ch => espHostedOpenIeee154SetChannel ch
  | ieee154SetPanId pan => espHostedOpenIeee154SetPanId pan
  | ieee154SetPromiscuous en => espHostedOpenIeee154SetPromiscuous en
  | ieee154TxRaw frame cca => espHostedOpenIeee154TxRaw malloc frame cca

/-- The bytes behind a pointer that may be `NULL`. -/
def bytesOf {n : Nat} (v : Option (Vector UInt8 n)) : List UInt8 := (v.map (·.toList)).getD []

/-- The key of a peer: sixteen zeros where the caller gives none. -/
def lmkBytes (lmk : Option (Vector UInt8 16)) : List UInt8 :=
  (lmk.map (·.toList)).getD (List.replicate 16 0)

/-- What the caller asked for. -/
def setting : HostCall → Setting
  | setChannel ch => .setChannel ch
  | setPhy11p en => .setPhy11p en
  | setTxPower dbm => .setTxPower dbm
  | setRxGain g => .setRxGain g
  | setAgcMaxGain g => .setAgcMaxGain g
  | setCca en => .setCca en
  | setLowRate en => .setLowRate en
  | setBandwidth bw => .setBandwidth bw
  | setFreq mhz => .setFreq mhz
  | setBand b => .setBand b
  | setChanFilt m => .setChanFilt m
  | setChan14Micro en => .setChan14Mic (boolByte en)
  | setRate rate => .setRate rate
  | setMostTpw tpw => .setMostTpw tpw
  | setCsiDump en => .setCsiDump (boolByte en)
  | setLoopback g => .setLoopback g
  | setBtTxGain g => .setBtTxGain g
  | setBtFilter v => .setBtFilter v
  | setPromisc en => .setPromisc en
  | setPromiscFilter m => .setPromiscFilter m
  | setProtocol i m => .setProtocol i m
  | setMac i mac => .setMac i (bytesOf mac)
  | setCsiEnable en => .setCsiEnable en
  | ftmInitiate mac n burst ch => .ftmInitiate
      { respMac := bytesOf mac, frmCount := n, burstPeriod := burst, channel := ch }
  | setEventMask m => .setEventMask m
  | espnowSetPmk pmk => .espnowSetPmk (bytesOf pmk)
  | espnowAddPeer mac lmk ch i enc => .espnowAddPeer
      { peerAddr := bytesOf mac, lmk := lmkBytes lmk,
        channel := ch, ifidx := i, encrypt := enc }
  | espnowDelPeer mac => .espnowDelPeer (bytesOf mac)
  | ieee154Enable en => .ieee154Enable en
  | ieee154SetChannel ch => .ieee154SetChan ch
  | ieee154SetPanId pan => .ieee154SetPanid pan
  | ieee154SetPromiscuous en => .ieee154SetPromisc en
  | ieee154TxRaw frame cca => .ieee154TxRaw (frame.getD []) cca

end HostCall

/-! ## The body behind the header -/

section Body

variable {opId : UInt32} {c : Call} {off : Nat}

theorem u8_requestBytes {b : UInt8} (h : slice off 1 c.reqBody = [b]) :
    UInt8.ofNat (leNat (slice (4 + off) 1 (requestBytes opId c))) = b := by
  rw [slice_requestBytes, h, leNat_cons, leNat_nil, Nat.mul_zero, Nat.add_zero, UInt8.ofNat_toNat]

theorem flag_requestBytes {en : Bool} (h : slice off 1 c.reqBody = [boolByte en]) :
    decide (UInt8.ofNat (leNat (slice (4 + off) 1 (requestBytes opId c))) ≠ 0) = en := by
  rw [u8_requestBytes h]
  cases en <;> rfl

theorem i8_requestBytes {v : Int8} (h : slice off 1 c.reqBody = [v.toUInt8]) :
    (UInt8.ofNat (leNat (slice (4 + off) 1 (requestBytes opId c)))).toInt8 = v := by
  rw [u8_requestBytes h, Int8.toInt8_toUInt8]

theorem u16_requestBytes {v : UInt16} (h : slice off 2 c.reqBody = leBytes 2 v.toNat) :
    UInt16.ofNat (leNat (slice (4 + off) 2 (requestBytes opId c))) = v := by
  rw [slice_requestBytes, h, leNat_leBytes_of_lt v.toNat_lt, UInt16.ofNat_toNat]

theorem u32_requestBytes {v : UInt32} (h : slice off 4 c.reqBody = leBytes 4 v.toNat) :
    UInt32.ofNat (leNat (slice (4 + off) 4 (requestBytes opId c))) = v := by
  rw [slice_requestBytes, h, leNat_leBytes_of_lt v.toNat_lt, UInt32.ofNat_toNat]

theorem u64_requestBytes {v : UInt64} (h : slice off 8 c.reqBody = leBytes 8 v.toNat) :
    UInt64.ofNat (leNat (slice (4 + off) 8 (requestBytes opId c))) = v := by
  rw [slice_requestBytes, h, leNat_leBytes_of_lt v.toNat_lt, UInt64.ofNat_toNat]

theorem slice_leBytes (w n : Nat) : slice 0 w (leBytes w n) = leBytes w n :=
  slice_all (length_leBytes w n)

theorem iface_requestBytes {i : WifiIf} (h : slice off 1 c.reqBody = [i.code]) :
    ifaceOf (UInt8.ofNat (leNat (slice (4 + off) 1 (requestBytes opId c)))) = i := by
  rw [u8_requestBytes h, ifaceOf_code]

/-- An accepted frame stands behind four bytes that hold its length. -/
theorem ieee154TxRaw_body {malloc : Bool} {frame : Option (List UInt8)} {cca : Bool}
    (h : espHostedOpenIeee154TxRaw malloc frame cca = .ok c) :
    ∃ f, frame = some f ∧ f.length ≤ 127 ∧
      c = { reqMsgId := Rpc.ieee154TxRaw.req, respMsgId := Rpc.ieee154TxRaw.resp,
            reqBody := [boolByte cca, 0, UInt8.ofNat f.length, UInt8.ofNat (f.length >>> 8)] ++ f,
            respBodyCap := 0 } := by
  cases frame with
  | none =>
    cases h
  | some f =>
    simp only [espHostedOpenIeee154TxRaw] at h
    split at h
    · cases h
    · rename_i hlen
      split at h
      · cases h
      · cases h
        exact ⟨f, rfl, by omega, rfl⟩

theorem length_lmkBytes (lmk : Option (Vector UInt8 16)) : (HostCall.lmkBytes lmk).length = 16 := by
  cases lmk with
  | none => exact List.length_replicate
  | some lmk => exact lmk.length_toList

theorem espnowAddPeer_body {peerMac : Option (Vector UInt8 6)} {lmk : Option (Vector UInt8 16)}
    {channel wifiIf : UInt8} {encrypt : Bool}
    (h : espHostedOpenEspnowAddPeer peerMac lmk channel wifiIf encrypt = .ok c) :
    ∃ mac, peerMac = some mac ∧
      c = { reqMsgId := Rpc.espnowAddPeer.req, respMsgId := Rpc.espnowAddPeer.resp,
            reqBody := mac.toList ++ HostCall.lmkBytes lmk ++
              [channel, wifiIf, boolByte encrypt, 0],
            respBodyCap := 0 } := by
  cases peerMac with
  | none => cases h
  | some mac =>
    refine ⟨mac, rfl, ?_⟩
    cases lmk <;> cases h <;> rfl

end Body

/-! ## Agreement -/

section Agree

variable {malloc : Bool} {c : HostCall} {call : Call}

theorem request_reqMsgId (h : c.request malloc = .ok call) : call.reqMsgId = c.rpc.req := by
  cases c with
  | setMac i mac => cases mac <;> cases h; rfl
  | ftmInitiate mac n burst ch => cases mac <;> cases h; rfl
  | espnowSetPmk pmk => cases pmk <;> cases h; rfl
  | espnowAddPeer mac lmk ch i enc => cases mac <;> cases h; rfl
  | espnowDelPeer mac => cases mac <;> cases h; rfl
  | ieee154TxRaw frame cca =>
    obtain ⟨f, -, -, rfl⟩ := ieee154TxRaw_body h
    rfl
  | _ => cases h; rfl

/-- **Long enough**: the slave's length checks pass. -/
theorem request_wellFormed (h : c.request malloc = .ok call) (opId : UInt32) :
    WellFormedReq c.rpc (requestBytes opId call) := by
  rw [WellFormedReq, length_requestBytes]
  cases c with
  | setMac i mac =>
    cases mac <;> cases h
    rename_i mac
    have hmac : mac.toList.length = 6 := mac.length_toList
    simp only [List.length_append, hmac]
    exact Nat.le_refl 12
  | ftmInitiate mac n burst ch =>
    cases mac <;> cases h
    rename_i mac
    have hmac : mac.toList.length = 6 := mac.length_toList
    simp only [List.length_append, hmac]
    exact Nat.le_refl 16
  | espnowSetPmk pmk =>
    cases pmk <;> cases h
    rename_i pmk
    have hpmk : pmk.toList.length = 16 := pmk.length_toList
    simp only [hpmk]
    exact Nat.le_refl 20
  | espnowAddPeer mac lmk ch i enc =>
    obtain ⟨mac, -, rfl⟩ := espnowAddPeer_body h
    have hmac : mac.toList.length = 6 := mac.length_toList
    simp only [List.length_append, hmac, length_lmkBytes]
    exact Nat.le_refl 30
  | espnowDelPeer mac =>
    cases mac <;> cases h
    rename_i mac
    have hmac : mac.toList.length = 6 := mac.length_toList
    simp only [hmac]
    exact Nat.le_refl 10
  | ieee154TxRaw frame cca =>
    obtain ⟨f, -, hlen, rfl⟩ := ieee154TxRaw_body h
    have htail : tailLength .ieee154TxRaw (requestBytes opId
        { reqMsgId := Rpc.ieee154TxRaw.req, respMsgId := Rpc.ieee154TxRaw.resp,
          reqBody := [boolByte cca, 0, UInt8.ofNat f.length, UInt8.ofNat (f.length >>> 8)] ++ f,
          respBodyCap := 0 }) = f.length := by
      show leNat (slice (4 + 2) 2 _) = f.length
      rw [slice_requestBytes]
      exact leNat_lengthBytes (by omega)
    have hsize : Rpc.ieee154TxRaw.reqStruct.sizeof = 8 := rfl
    have hbody : ∀ a b d e : UInt8, ([a, b, d, e] ++ f).length = 4 + f.length := by
      intro a b d e
      rw [List.length_append]
      rfl
    rw [HostCall.rpc, htail, hsize, hbody]
    omega
  | _ => cases h; exact Nat.le_refl _

/-- A member that is an array lies in the body as the caller's array. -/
theorem bytes_requestBytes {opId : UInt32} {off n : Nat} {l : List UInt8}
    (h : slice off n call.reqBody = l) : slice (4 + off) n (requestBytes opId call) = l := by
  rw [slice_requestBytes, h]

/-- **Agreement**: the slave decodes what the caller asked for. -/
theorem decode_request (h : c.request malloc = .ok call) (opId : UInt32) :
    decodeSetting c.rpc (requestBytes opId call) = some c.setting := by
  cases c with
  | setChannel ch =>
    cases h
    exact congrArg (some ∘ Setting.setChannel) (@u8_requestBytes opId _ 0 ch rfl)
  | setPhy11p en =>
    cases h
    exact congrArg (some ∘ Setting.setPhy11p) (@flag_requestBytes opId _ 0 en rfl)
  | setTxPower dbm =>
    cases h
    exact congrArg (some ∘ Setting.setTxPower) (@i8_requestBytes opId _ 0 dbm rfl)
  | setRxGain g =>
    cases h
    exact congrArg (some ∘ Setting.setRxGain) (@u8_requestBytes opId _ 0 g rfl)
  | setAgcMaxGain g =>
    cases h
    exact congrArg (some ∘ Setting.setAgcMaxGain) (@u8_requestBytes opId _ 0 g rfl)
  | setCca en =>
    cases h
    exact congrArg (some ∘ Setting.setCca) (@flag_requestBytes opId _ 0 en rfl)
  | setLowRate en =>
    cases h
    exact congrArg (some ∘ Setting.setLowRate) (@flag_requestBytes opId _ 0 en rfl)
  | setBandwidth bw =>
    cases h
    exact congrArg (some ∘ Setting.setBandwidth) (@u8_requestBytes opId _ 0 bw rfl)
  | setFreq mhz =>
    cases h
    exact congrArg (some ∘ Setting.setFreq) (@u32_requestBytes opId _ 0 mhz (slice_leBytes 4 _))
  | setBand b =>
    cases h
    exact congrArg (some ∘ Setting.setBand) (@u8_requestBytes opId _ 0 b rfl)
  | setChanFilt m =>
    cases h
    exact congrArg (some ∘ Setting.setChanFilt) (@u32_requestBytes opId _ 0 m (slice_leBytes 4 _))
  | setChan14Micro en =>
    cases h
    exact congrArg (some ∘ Setting.setChan14Mic) (@u8_requestBytes opId _ 0 (boolByte en) rfl)
  | setRate rate =>
    cases h
    exact congrArg (some ∘ Setting.setRate) (@u8_requestBytes opId _ 0 rate rfl)
  | setMostTpw tpw =>
    cases h
    exact congrArg (some ∘ Setting.setMostTpw) (@i8_requestBytes opId _ 0 tpw rfl)
  | setCsiDump en =>
    cases h
    exact congrArg (some ∘ Setting.setCsiDump) (@u8_requestBytes opId _ 0 (boolByte en) rfl)
  | setLoopback g =>
    cases h
    exact congrArg (some ∘ Setting.setLoopback) (@u8_requestBytes opId _ 0 g rfl)
  | setBtTxGain g =>
    cases h
    exact congrArg (some ∘ Setting.setBtTxGain) (@u8_requestBytes opId _ 0 g rfl)
  | setBtFilter v =>
    cases h
    exact congrArg (some ∘ Setting.setBtFilter) (@u32_requestBytes opId _ 0 v (slice_leBytes 4 _))
  | setPromisc en =>
    cases h
    exact congrArg (some ∘ Setting.setPromisc) (@flag_requestBytes opId _ 0 en rfl)
  | setPromiscFilter m =>
    cases h
    exact congrArg (some ∘ Setting.setPromiscFilter)
      (@u32_requestBytes opId _ 0 m (slice_leBytes 4 _))
  | setProtocol i m =>
    cases h
    exact congrArg some (congrArg₂ Setting.setProtocol (@iface_requestBytes opId _ 1 i rfl)
      (@u8_requestBytes opId _ 0 m rfl))
  | setMac i mac =>
    cases mac <;> cases h
    rename_i mac
    have hmac : mac.toList.length = 6 := mac.length_toList
    have hbytes : slice 1 6 ([i.code] ++ mac.toList ++ [0]) = mac.toList := by
      rw [List.append_assoc, slice_append_right _ _ (by exact Nat.le_refl 1)]
      exact slice_prefix _ hmac
    exact congrArg some (congrArg₂ Setting.setMac (@iface_requestBytes opId _ 0 i rfl)
      (@bytes_requestBytes _ opId 1 6 _ hbytes))
  | setCsiEnable en =>
    cases h
    exact congrArg (some ∘ Setting.setCsiEnable) (@flag_requestBytes opId _ 0 en rfl)
  | ftmInitiate mac n burst ch =>
    cases mac <;> cases h
    rename_i mac
    have hmac : mac.toList.length = 6 := mac.length_toList
    -- the members behind the address
    have htail : ∀ k, slice (6 + k) 1 (mac.toList ++ [n, burst, ch] ++ [0, 0, 0]) =
        slice k 1 [n, burst, ch, 0, 0, 0] := by
      intro k
      rw [List.append_assoc, slice_append_right _ _ (by omega), hmac, Nat.add_sub_cancel_left]
      rfl
    have hmacBytes : slice 0 6 (mac.toList ++ [n, burst, ch] ++ [0, 0, 0]) = mac.toList := by
      rw [List.append_assoc, slice_prefix _ hmac]
    exact congrArg some (congrArg Setting.ftmInitiate (FtmInitiatorCfg.mk.injEq .. ▸
      ⟨@bytes_requestBytes _ opId 0 6 _ hmacBytes, @u8_requestBytes opId _ 6 n (htail 0),
        @u8_requestBytes opId _ 7 burst (htail 1), @u8_requestBytes opId _ 8 ch (htail 2)⟩))
  | setEventMask m =>
    cases h
    exact congrArg (some ∘ Setting.setEventMask) (@u64_requestBytes opId _ 0 m (slice_leBytes 8 _))
  | espnowSetPmk pmk =>
    cases pmk <;> cases h
    rename_i pmk
    have hkey : slice 0 16 pmk.toList = pmk.toList := slice_all pmk.length_toList
    exact congrArg (some ∘ Setting.espnowSetPmk) (@bytes_requestBytes _ opId 0 16 _ hkey)
  | espnowAddPeer mac lmk ch i enc =>
    obtain ⟨mac, rfl, rfl⟩ := espnowAddPeer_body h
    have hmac : mac.toList.length = 6 := mac.length_toList
    have hpair : (mac.toList ++ HostCall.lmkBytes lmk).length = 22 := by
      rw [List.length_append, hmac, length_lmkBytes]
    have hmacBytes : slice 0 6 (mac.toList ++ HostCall.lmkBytes lmk ++
        [ch, i.code, boolByte enc, 0]) = mac.toList := by
      rw [List.append_assoc, slice_prefix _ hmac]
    have hkeyBytes : slice 6 16 (mac.toList ++ HostCall.lmkBytes lmk ++
        [ch, i.code, boolByte enc, 0]) = HostCall.lmkBytes lmk := by
      rw [List.append_assoc, slice_append_right _ _ (by omega), hmac]
      exact slice_prefix _ (length_lmkBytes lmk)
    -- the members behind the two arrays
    have htail : ∀ k, slice (22 + k) 1 (mac.toList ++ HostCall.lmkBytes lmk ++
        [ch, i.code, boolByte enc, 0]) = slice k 1 [ch, i.code, boolByte enc, 0] := by
      intro k
      rw [slice_append_right _ _ (by omega), hpair, Nat.add_sub_cancel_left]
    exact congrArg some (congrArg Setting.espnowAddPeer (EspNowPeerInfo.mk.injEq .. ▸
      ⟨@bytes_requestBytes _ opId 0 6 _ hmacBytes, @bytes_requestBytes _ opId 6 16 _ hkeyBytes,
        @u8_requestBytes opId _ 22 ch (htail 0), @iface_requestBytes opId _ 23 i (htail 1),
        @flag_requestBytes opId _ 24 enc (htail 2)⟩))
  | espnowDelPeer mac =>
    cases mac <;> cases h
    rename_i mac
    have hmac : slice 0 6 mac.toList = mac.toList := slice_all mac.length_toList
    exact congrArg (some ∘ Setting.espnowDelPeer) (@bytes_requestBytes _ opId 0 6 _ hmac)
  | ieee154Enable en =>
    cases h
    exact congrArg (some ∘ Setting.ieee154Enable) (@flag_requestBytes opId _ 0 en rfl)
  | ieee154SetChannel ch =>
    cases h
    exact congrArg (some ∘ Setting.ieee154SetChan) (@u8_requestBytes opId _ 0 ch rfl)
  | ieee154SetPanId pan =>
    cases h
    exact congrArg (some ∘ Setting.ieee154SetPanid)
      (@u16_requestBytes opId _ 0 pan (slice_leBytes 2 _))
  | ieee154SetPromiscuous en =>
    cases h
    exact congrArg (some ∘ Setting.ieee154SetPromisc) (@flag_requestBytes opId _ 0 en rfl)
  | ieee154TxRaw frame cca =>
    obtain ⟨f, rfl, hlen, rfl⟩ := ieee154TxRaw_body h
    refine congrArg some (congrArg₂ Setting.ieee154TxRaw ?_ (@flag_requestBytes opId _ 0 cca rfl))
    have hn : leNat (slice (4 + 2) 2 (requestBytes opId
        { reqMsgId := Rpc.ieee154TxRaw.req, respMsgId := Rpc.ieee154TxRaw.resp,
          reqBody := [boolByte cca, 0, UInt8.ofNat f.length, UInt8.ofNat (f.length >>> 8)] ++ f,
          respBodyCap := 0 })) = f.length := by
      rw [slice_requestBytes]
      exact leNat_lengthBytes (by omega)
    show slice (4 + 4) (leNat (slice (4 + 2) 2 _)) _ = f
    rw [hn, slice_requestBytes, slice_append_right _ _ (by exact Nat.le_refl 4)]
    exact slice_all rfl

end Agree

/-! ## What the driver gets -/

/-- The calls a setter leads to. The power goes to the driver in quarters of a dBm, within 8..84. -/
def HostCall.calls (env : Env) (s : SlaveState) : HostCall → List Event
  | .setTxPower dbm =>
    [drvEvent env (.espWifiSetMaxTxPower (Int8.ofInt (max 8 (min 84 (4 * dbm.toInt)))))]
  | c => c.setting.calls env s

/-- The powers whose quadruple is an `int8_t`. -/
def HostCall.InRange : HostCall → Prop
  | .setTxPower dbm => -32 ≤ dbm.toInt ∧ dbm.toInt ≤ 31
  | _ => True

theorem ofInt_clamped (x : Int) :
    (Int8.ofInt (max 8 (min 84 x))).toInt = max 8 (min 84 x) := by
  have hsize : ((Int8.size : Nat) : Int) = 256 := rfl
  rw [Int8.toInt_ofInt]
  exact Int.bmod_eq_of_le (by omega) (by omega)

theorem HostCall.calls_setting {c : HostCall} (h : c.InRange) (env : Env) (s : SlaveState) :
    c.setting.calls env s = c.calls env s := by
  cases c with
  | setTxPower dbm =>
    have hq : txPowerQuarters dbm = Int8.ofInt (max 8 (min 84 (4 * dbm.toInt))) := by
      apply Int8.toInt_inj.1
      rw [ofInt_clamped, txPowerQuarters_toInt h.1 h.2]
    rw [HostCall.setting, Setting.calls, HostCall.calls, hq]
  | _ => rfl

/-- **Encoders and decoders agree**: an accepted call of a setter is a request of the right length
that decodes to the caller's values, and its handler makes exactly the calls they stand for. -/
theorem request_calls {malloc : Bool} {c : HostCall} {call : Call}
    (h : c.request malloc = .ok call) (hrange : c.InRange) (opId : UInt32) (env : Env)
    (s : SlaveState) :
    call.reqMsgId = c.rpc.req ∧
      WellFormedReq c.rpc (requestBytes opId call) ∧
      decodeSetting c.rpc (requestBytes opId call) = some c.setting ∧
      calls (c.rpc.handler ⟨env, requestBytes opId call⟩ s).events = c.calls env s := by
  have hwf := request_wellFormed h opId
  have hdec := decode_request h opId
  refine ⟨request_reqMsgId h, hwf, hdec, ?_⟩
  rw [← HostCall.calls_setting hrange]
  exact @calls_handler _ ⟨env, requestBytes opId call⟩ _ s hwf hdec

theorem setTxPower_calls_twenty :
    ∃ call, (HostCall.setTxPower 20).request true = .ok call ∧
      calls (Rpc.setTxPower.handler ⟨bareChip, requestBytes 1 call⟩ {}).events =
        [drvEvent bareChip (.espWifiSetMaxTxPower 80)] :=
  ⟨_, rfl, (@request_calls true (.setTxPower 20) _ rfl ⟨by decide, by decide⟩ 1 bareChip {}).2.2.2⟩

/-- `esp_hosted_open_set_tx_power(10)` reaches the driver as 40. -/
theorem setTxPower_not_verbatim :
    ∃ call, (HostCall.setTxPower 10).request true = .ok call ∧
      calls (Rpc.setTxPower.handler ⟨bareChip, requestBytes 1 call⟩ {}).events =
        [drvEvent bareChip (.espWifiSetMaxTxPower 40)] ∧
      calls (Rpc.setTxPower.handler ⟨bareChip, requestBytes 1 call⟩ {}).events ≠
        [drvEvent bareChip (.espWifiSetMaxTxPower 10)] := by
  refine ⟨_, rfl, ?_, ?_⟩ <;> decide

end EspHostedOpen
