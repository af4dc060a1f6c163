import Mathlib.Algebra.Order.Ring.Nat
import EspHostedOpen.Lib.BitFields

/-!
# The station configuration on the wire (`slave_wifi_std.c`, `slave_control.h`)

`copy_wifi_sta_cfg_to_rpc_struct` builds the message that a host reads back, `req_wifi_set_config`
applies the one that it sends. Some thirty members go by hand in each direction, most of them as
bits of two words.

`v` is the version of IDF; which members there are depends on it.
-/

namespace EspHostedOpen.StaConfig

/-! ## Versions and bit positions (`slave_wifi_config.h`, `esp_hosted_bitmasks.h`) -/

def espIdfVersionVal (major minor patch : Nat) : Nat := major * 2 ^ 16 + minor * 2 ^ 8 + patch

/-- `H_PRESENT_IN_ESP_IDF_5_4_0`. -/
def hPresent540 (v : Nat) : Bool := decide (espIdfVersionVal 5 4 0 ≤ v)

/-- `H_PRESENT_IN_ESP_IDF_5_5_0`, and `H_WIFI_NEW_RESERVED_FIELD_NAMES`. -/
def hPresent550 (v : Nat) : Bool := decide (espIdfVersionVal 5 5 0 ≤ v)

/-- `H_SET_BIT`. -/
def hSetBit (pos : Nat) (val : BitVec 32) : BitVec 32 := val ||| 1#32 <<< pos

/-- `H_GET_BIT`. -/
def hGetBit (pos : Nat) (val : BitVec 32) : Bool := val &&& 1#32 <<< pos != 0

/-! `WIFI_STA_CONFIG_1_*` and `WIFI_STA_CONFIG_2_*`. -/

namespace Config1

abbrev rmEnabled : Nat := 0
abbrev btmEnabled : Nat := 1
abbrev mboEnabled : Nat := 2
abbrev ftEnabled : Nat := 3
abbrev oweEnabled : Nat := 4
abbrev transitionDisable : Nat := 5

end Config1

namespace Config2

abbrev heDcmSet : Nat := 0
abbrev heDcmMaxConstellationTx : Nat := 1        -- two bits wide, like the next one
abbrev heDcmMaxConstellationRx : Nat := 3
abbrev heMcs9Enabled : Nat := 5
abbrev heSuBeamformeeDisabled : Nat := 6
abbrev heTrigSuBmformingFeedbackDisabled : Nat := 7
abbrev heTrigMuBmformingPartialFeedbackDisabled : Nat := 8
abbrev heTrigCqiFeedbackDisabled : Nat := 9
abbrev vhtSuBeamformeeDisabled : Nat := 10       -- from 5.5.0 on, like the next two
abbrev vhtMuBeamformeeDisabled : Nat := 11
abbrev vhtMcs8Enabled : Nat := 12

end Config2

/-- `WIFI_STA_CONFIG_1_MAX_USED_BIT`. -/
def maxUsedBit1 : Nat := 6

def reservedBitmask1 : BitVec 32 := 0xFFFFFFC0

/-- `WIFI_STA_CONFIG_2_MAX_USED_BIT`. -/
def maxUsedBit2 (v : Nat) : Nat := if hPresent550 v then 13 else 10

def reservedBitmask2 (v : Nat) : BitVec 32 := if hPresent550 v then 0xFFFFE000 else 0xFFFFFC00

/-- The width of `reserved2`, which was `he_reserved`. -/
def reserved2Width (v : Nat) : Nat := if hPresent550 v then 19 else 22

/-! ## Data -/

/-- `uint8_t[n]`. -/
abbrev Bytes (n : Nat) := { bs : List UInt8 // bs.length = n }

def zeros (n : Nat) : Bytes n := ⟨List.replicate n 0, List.length_replicate⟩

/-- `wifi_sta_config_t`. -/
structure WifiStaConfigT (v : Nat) where
  ssid : Bytes 32 := zeros 32
  password : Bytes 64 := zeros 64
  scanMethod : UInt32 := 0
  bssidSet : Bool := false
  bssid : Bytes 6 := zeros 6
  channel : UInt8 := 0
  listenInterval : UInt16 := 0
  sortMethod : UInt32 := 0
  thresholdRssi : Int8 := 0
  thresholdAuthmode : UInt32 := 0
  thresholdRssi5gAdjustment : UInt8 := 0         -- from 5.4.0 on
  pmfCapable : Bool := false
  pmfRequired : Bool := false
  rmEnabled : Bool := false
  btmEnabled : Bool := false
  mboEnabled : Bool := false
  ftEnabled : Bool := false
  oweEnabled : Bool := false
  transitionDisable : Bool := false
  reserved1 : BitVec 26 := 0
  saePweH2e : UInt32 := 0
  saePkMode : UInt32 := 0
  failureRetryCnt : UInt8 := 0
  heDcmSet : Bool := false
  heDcmMaxConstellationTx : BitVec 2 := 0
  heDcmMaxConstellationRx : BitVec 2 := 0
  heMcs9Enabled : Bool := false
  heSuBeamformeeDisabled : Bool := false
  heTrigSuBmformingFeedbackDisabled : Bool := false
  heTrigMuBmformingPartialFeedbackDisabled : Bool := false
  heTrigCqiFeedbackDisabled : Bool := false
  vhtSuBeamformeeDisabled : Bool := false        -- from 5.5.0 on, like the next two
  vhtMuBeamformeeDisabled : Bool := false
  vhtMcs8Enabled : Bool := false
  reserved2 : BitVec (reserved2Width v) := 0
  saeH2eIdentifier : Bytes 32 := zeros 32
  deriving DecidableEq

structure WifiScanThreshold where
  rssi : Int32 := 0
  authmode : Int32 := 0
  rssi5gAdjustment : UInt32 := 0
  deriving DecidableEq

structure WifiPmfConfig where
  capable : Bool := false
  required : Bool := false
  deriving DecidableEq

/-- `WifiStaConfig`, the message. -/
structure WifiStaConfig where
  ssid : List UInt8 := []
  password : List UInt8 := []
  scanMethod : Int32 := 0
  bssidSet : Bool := false
  bssid : List UInt8 := []
  channel : UInt32 := 0
  listenInterval : UInt32 := 0
  sortMethod : Int32 := 0
  threshold : Option WifiScanThreshold := none
  pmfCfg : Option WifiPmfConfig := none
  bitmask : BitVec 32 := 0
  saePweH2e : Int32 := 0
  failureRetryCnt : UInt32 := 0
  heBitmask : BitVec 32 := 0
  saeH2eIdentifier : List UInt8 := []
  saePkMode : UInt32 := 0
  deriving DecidableEq

/-! ## Building the message -/

def strlen (s : List UInt8) : Nat := (s.takeWhile (· != 0)).length

def strndup (s : List UInt8) (n : Nat) : List UInt8 := (s.take n).takeWhile (· != 0) ++ [0]

/-- `RPC_RESP_COPY_STR` and `NTFY_COPY_STR`; `src` is the memory from the string on. -/
def respCopyStr (src : List UInt8) (maxLen : Nat) : List UInt8 :=
  (strndup src maxLen).take (min maxLen (strlen src + 1))

/-- The members that are bits of `bitmask`. -/
def encodeBitmask {v : Nat} (sta : WifiStaConfigT v) : BitVec 32 :=
  let m := 0
  let m := if sta.rmEnabled then hSetBit Config1.rmEnabled m else m
  let m := if sta.btmEnabled then hSetBit Config1.btmEnabled m else m
  let m := if sta.mboEnabled then hSetBit Config1.mboEnabled m else m
  let m := if sta.ftEnabled then hSetBit Config1.ftEnabled m else m
  let m := if sta.oweEnabled then hSetBit Config1.oweEnabled m else m
  let m := if sta.transitionDisable then hSetBit Config1.transitionDisable m else m
  m ||| sta.reserved1.setWidth 32 <<< maxUsedBit1

/-- A member of two bits. -/
def setTwoBits (pos : Nat) (x : BitVec 2) (m : BitVec 32) : BitVec 32 :=
  if x &&& 0x03 ≠ 0 then m ||| (x &&& 0x03).setWidth 32 <<< pos else m

/-- The members that are bits of `he_bitmask`. -/
def encodeHeBitmask {v : Nat} (sta : WifiStaConfigT v) : BitVec 32 :=
  let m := 0
  let m := if sta.heDcmSet then hSetBit Config2.heDcmSet m else m
  let m := setTwoBits Config2.heDcmMaxConstellationTx sta.heDcmMaxConstellationTx m
  let m := setTwoBits Config2.heDcmMaxConstellationRx sta.heDcmMaxConstellationRx m
  let m := if sta.heMcs9Enabled then hSetBit Config2.heMcs9Enabled m else m
  let m := if sta.heSuBeamformeeDisabled then hSetBit Config2.heSuBeamformeeDisabled m else m
  let m := if sta.heTrigSuBmformingFeedbackDisabled then hSetBit
    Config2.heTrigSuBmformingFeedbackDisabled m
    else m
  let m := if sta.heTrigMuBmformingPartialFeedbackDisabled then
      hSetBit Config2.heTrigMuBmformingPartialFeedbackDisabled m
    else m
  let m := if sta.heTrigCqiFeedbackDisabled then hSetBit Config2.heTrigCqiFeedbackDisabled m else m
  let m := if hPresent550 v then
      let m := if sta.vhtSuBeamformeeDisabled then hSetBit Config2.vhtSuBeamformeeDisabled m else m
      let m := if sta.vhtMuBeamformeeDisabled then hSetBit Config2.vhtMuBeamformeeDisabled m else m
      if sta.vhtMcs8Enabled then hSetBit Config2.vhtMcs8Enabled m else m
    else m
  m ||| sta.reserved2.setWidth 32 <<< maxUsedBit2 v

/-- `rpc_payload_type_t`. -/
inductive RpcPayloadType
  | respWifiGetConfig | eventSuppDppGetConfig | eventWifiDppGetConfig
  deriving DecidableEq, Repr

/-- What is allocated for the message. -/
inductive Element
  | sta | ssid | password | bssid | threshold | pmfCfg
  deriving DecidableEq, Repr

def elements : List Element := [.sta, .ssid, .password, .bssid, .threshold, .pmfCfg]

/-- `copy_wifi_sta_cfg_to_rpc_struct`: the message, where one is built. `dpp` is
`H_WIFI_DPP_SUPPORT`, and `behind` the memory that follows the password. -/
def copyWifiStaCfgToRpcStruct {v : Nat} (dpp : Bool) (alloc : Element → Bool) (behind : List UInt8)
    (type : RpcPayloadType) (sta : WifiStaConfigT v) : Option WifiStaConfig :=
  if type = .eventWifiDppGetConfig ∧ dpp = false then none
  else if elements.all alloc then
    some {
      ssid := respCopyStr (sta.ssid.val ++ sta.password.val ++ behind) 32
      password := respCopyStr (sta.password.val ++ behind) 64
      bssid := sta.bssid.val
      scanMethod := sta.scanMethod.toInt32
      bssidSet := sta.bssidSet
      channel := sta.channel.toUInt32
      listenInterval := sta.listenInterval.toUInt32
      sortMethod := sta.sortMethod.toInt32
      threshold := some {
        rssi := sta.thresholdRssi.toInt32
        authmode := sta.thresholdAuthmode.toInt32
        rssi5gAdjustment := if hPresent540 v then sta.thresholdRssi5gAdjustment.toUInt32 else 0 }
      pmfCfg := some { capable := sta.pmfCapable, required := sta.pmfRequired }
      bitmask := encodeBitmask sta
      saePweH2e := sta.saePweH2e.toInt32
      saePkMode := sta.saePkMode
      failureRetryCnt := sta.failureRetryCnt.toUInt32
      heBitmask := encodeHeBitmask sta }
  else none

/-! ## Applying one -/

/-- `RPC_REQ_COPY_BYTES`, and `RPC_REQ_COPY_STR`, into a member that is zero. -/
def reqCopyBytes (n : Nat) (src : List UInt8) : Bytes n :=
  ⟨src.take n ++ List.replicate (n - min n src.length) 0, by
    rw [List.length_append, List.length_take, List.length_replicate]
    omega⟩

/-- `WIFI_STA_CONFIG_1_GET_RESERVED_VAL`. -/
def getReservedVal1 (num : BitVec 32) : BitVec 26 :=
    ((num &&& reservedBitmask1) >>> maxUsedBit1).setWidth 26

/-- `WIFI_STA_CONFIG_2_GET_RESERVED_VAL`. -/
def getReservedVal2 (v : Nat) (num : BitVec 32) : BitVec (reserved2Width v) :=
  ((num &&& reservedBitmask2 v) >>> maxUsedBit2 v).setWidth (reserved2Width v)

def getTwoBits (pos : Nat) (num : BitVec 32) : BitVec 2 := (num >>> pos &&& 0x03).setWidth 2

/-- The configuration that `req_wifi_set_config` passes on for `WIFI_IF_STA`. -/
def reqWifiSetConfig (v : Nat) (sta : WifiStaConfig) : WifiStaConfigT v where
  ssid := reqCopyBytes 32 sta.ssid
  password := reqCopyBytes 64 sta.password
  scanMethod := sta.scanMethod.toUInt32
  bssidSet := sta.bssidSet
  bssid := if sta.bssidSet then reqCopyBytes 6 sta.bssid else zeros 6
  channel := sta.channel.toUInt8
  listenInterval := sta.listenInterval.toUInt16
  sortMethod := sta.sortMethod.toUInt32
  thresholdRssi := (sta.threshold.map fun t => t.rssi.toInt8).getD 0
  thresholdAuthmode := (sta.threshold.map fun t => t.authmode.toUInt32).getD 0
  thresholdRssi5gAdjustment :=
    if hPresent540 v then (sta.threshold.map fun t => t.rssi5gAdjustment.toUInt8).getD 0 else 0
  pmfCapable := (sta.pmfCfg.map fun p => p.capable).getD false
  pmfRequired := (sta.pmfCfg.map fun p => p.required).getD false
  rmEnabled := hGetBit Config1.rmEnabled sta.bitmask
  btmEnabled := hGetBit Config1.btmEnabled sta.bitmask
  mboEnabled := hGetBit Config1.mboEnabled sta.bitmask
  ftEnabled := hGetBit Config1.ftEnabled sta.bitmask
  oweEnabled := hGetBit Config1.oweEnabled sta.bitmask
  transitionDisable := hGetBit Config1.transitionDisable sta.bitmask
  reserved1 := getReservedVal1 sta.bitmask
  saePweH2e := sta.saePweH2e.toUInt32
  saePkMode := sta.saePkMode
  failureRetryCnt := sta.failureRetryCnt.toUInt8
  heDcmSet := hGetBit Config2.heDcmSet sta.heBitmask
  heDcmMaxConstellationTx := getTwoBits Config2.heDcmMaxConstellationTx sta.heBitmask
  heDcmMaxConstellationRx := getTwoBits Config2.heDcmMaxConstellationRx sta.heBitmask
  heMcs9Enabled := hGetBit Config2.heMcs9Enabled sta.heBitmask
  heSuBeamformeeDisabled := hGetBit Config2.heSuBeamformeeDisabled sta.heBitmask
  heTrigSuBmformingFeedbackDisabled :=
    hGetBit Config2.heTrigSuBmformingFeedbackDisabled sta.heBitmask
  heTrigMuBmformingPartialFeedbackDisabled :=
    hGetBit Config2.heTrigMuBmformingPartialFeedbackDisabled sta.heBitmask
  heTrigCqiFeedbackDisabled := hGetBit Config2.heTrigCqiFeedbackDisabled sta.heBitmask
  vhtSuBeamformeeDisabled := hPresent550 v && hGetBit Config2.vhtSuBeamformeeDisabled sta.heBitmask
  vhtMuBeamformeeDisabled := hPresent550 v && hGetBit Config2.vhtMuBeamformeeDisabled sta.heBitmask
  vhtMcs8Enabled := hPresent550 v && hGetBit Config2.vhtMcs8Enabled sta.heBitmask
  reserved2 := getReservedVal2 v sta.heBitmask
  saeH2eIdentifier := reqCopyBytes 32 sta.saeH2eIdentifier

/-! ## Strings -/

/-- A string in an array: no byte of it is zero, and zeros fill the rest. -/
def Terminated {n : Nat} (bs : Bytes n) : Prop :=
  ∃ text : List UInt8, (∀ b ∈ text, b ≠ 0) ∧ text.length ≤ n ∧ bs.val =
    text ++ List.replicate (n - text.length) 0

theorem takeWhile_text {text : List UInt8} (h : ∀ b ∈ text, b ≠ 0) (rest : List UInt8) :
    (text ++ rest).takeWhile (· != 0) = text ++ rest.takeWhile (· != 0) := by
  refine List.takeWhile_append_of_pos fun b hb => ?_
  rw [bne_iff_ne]
  exact h b hb

/-- What is sent of a string: its text, and the zero if there is room for it. -/
theorem respCopyStr_terminated {n : Nat} {bs : Bytes n} {text : List UInt8}
    (htext : ∀ b ∈ text, b ≠ 0)
    (hbs : bs.val = text ++ List.replicate (n - text.length) 0) (behind : List UInt8) :
    respCopyStr (bs.val ++ behind) n = (text ++ [0]).take n := by
  have hdup : strndup (bs.val ++ behind) n = text ++ [0] := by
    have hzeros : (List.replicate (n - text.length) (0 : UInt8)).takeWhile (· != 0) = [] := by
      cases n - text.length with
      | zero => rfl
      | succ k => rfl
    rw [strndup, List.take_left' bs.property, hbs, takeWhile_text htext, hzeros, List.append_nil]
  have hlen : (text ++ [(0 : UInt8)]).length ≤ strlen (bs.val ++ behind) + 1 := by
    rw [strlen, hbs, List.append_assoc, takeWhile_text htext, List.length_append,
      List.length_append, List.length_singleton]
    omega
  -- the length of the copy cuts nothing off that `strndup` has left
  rw [respCopyStr, hdup, ← List.take_take, List.take_of_length_le hlen]

/-- **A string goes there and back**, also one that fills its array and has no zero behind it. -/
theorem reqCopyBytes_respCopyStr {n : Nat} {bs : Bytes n} (h : Terminated bs)
    (behind : List UInt8) :
    reqCopyBytes n (respCopyStr (bs.val ++ behind) n) = bs := by
  obtain ⟨text, htext, hlen, hbs⟩ := h
  rw [respCopyStr_terminated htext hbs]
  apply Subtype.ext
  dsimp only [reqCopyBytes]
  rw [List.take_take, Nat.min_self, List.length_take, hbs]
  rcases hlen.lt_or_eq with hshort | hfull
  · have hall : (text ++ [(0 : UInt8)]).length ≤ n := by
      rw [List.length_append, List.length_singleton]
      exact hshort
    have hzeros : n - text.length = n - (text ++ [(0 : UInt8)]).length + 1 := by
      rw [List.length_append, List.length_singleton]
      omega
    rw [List.take_of_length_le hall, Nat.min_eq_right hall, Nat.min_eq_right hall, hzeros,
      List.replicate_succ, List.append_assoc, List.singleton_append]
  · rw [List.take_left' hfull, hfull, List.length_append, hfull, List.length_singleton,
      Nat.min_eq_left (Nat.le_succ n), Nat.min_self]

/-! ## Bits -/

open BitFields

theorem hGetBit_eq (pos : Nat) (val : BitVec 32) : hGetBit pos val = val.getLsbD pos := by
  have htwo : 1#32 <<< pos = BitVec.twoPow 32 pos := rfl
  rw [hGetBit, htwo, BitVec.and_twoPow]
  cases hbit : val.getLsbD pos with
  | false => rfl
  | true =>
    have hpos : pos < 32 := BitVec.lt_of_getLsbD hbit
    have hne : BitVec.twoPow 32 pos ≠ 0 := by
      intro hzero
      have hone := congrArg (fun x => x.getLsbD pos) hzero
      simp [hpos] at hone
    simpa using hne

/-- A conditional `H_SET_BIT` puts one bit. -/
theorem place_ofBool (b : Bool) (pos : Nat) (m : BitVec 32) :
    (if b then hSetBit pos m else m) = place pos (BitVec.ofBool b) m := by
  cases b with
  | true => rfl
  | false => simp [place]

theorem setTwoBits_eq (pos : Nat) (x : BitVec 2) (m : BitVec 32) :
    setTwoBits pos x m = place pos x m := by
  have hmask : x &&& 0x03 = x := BitVec.and_allOnes
  rw [setTwoBits, hmask]
  split
  · rfl
  · rename_i hzero
    rw [Decidable.of_not_not hzero]
    simp [place]

theorem getTwoBits_eq (pos : Nat) (num : BitVec 32) :
    getTwoBits pos num = num.extractLsb' pos 2 := by
  have hmask : (0x03 : BitVec 32).setWidth 2 = BitVec.allOnes 2 := rfl
  rw [getTwoBits, BitVec.setWidth_and, hmask, BitVec.and_allOnes,
    BitVec.setWidth_ushiftRight_eq_extractLsb]

theorem getReservedVal1_eq (num : BitVec 32) :
    getReservedVal1 num = num.extractLsb' maxUsedBit1 26 := by
  have hmask : (reservedBitmask1 >>> maxUsedBit1).setWidth 26 = BitVec.allOnes 26 := rfl
  rw [getReservedVal1, BitVec.ushiftRight_and_distrib, BitVec.setWidth_and, hmask,
    BitVec.and_allOnes, BitVec.setWidth_ushiftRight_eq_extractLsb]

theorem getReservedVal2_eq (v : Nat) (num : BitVec 32) :
    getReservedVal2 v num = num.extractLsb' (maxUsedBit2 v) (reserved2Width v) := by
  have hmask : (reservedBitmask2 v >>> maxUsedBit2 v).setWidth (reserved2Width v) =
      BitVec.allOnes (reserved2Width v) := by
    unfold reservedBitmask2 maxUsedBit2 reserved2Width
    cases hPresent550 v <;> rfl
  rw [getReservedVal2, BitVec.ushiftRight_and_distrib, BitVec.setWidth_and, hmask,
    BitVec.and_allOnes, BitVec.setWidth_ushiftRight_eq_extractLsb]

/-! ## The two words -/

variable {v : Nat}

/-- `bitmask`, part by part. -/
def bitmaskParts (sta : WifiStaConfigT v) : List Part :=
  [.bit sta.rmEnabled Config1.rmEnabled, .bit sta.btmEnabled Config1.btmEnabled,
   .bit sta.mboEnabled Config1.mboEnabled, .bit sta.ftEnabled Config1.ftEnabled,
   .bit sta.oweEnabled Config1.oweEnabled, .bit sta.transitionDisable Config1.transitionDisable,
   ⟨maxUsedBit1, 26, sta.reserved1⟩]

theorem encodeBitmask_eq (sta : WifiStaConfigT v) : encodeBitmask sta = pack
    (bitmaskParts sta) := by
  unfold encodeBitmask
  simp only [place_ofBool]
  rfl

theorem bitmaskParts_layout (sta : WifiStaConfigT v) : Layout 32 (bitmaskParts sta) :=
  .of_spans [(0, 1), (1, 1), (2, 1), (3, 1), (4, 1), (5, 1), (6, 26)] rfl (by decide) (by decide)

/-- The bits of `he_bitmask` that there are from 5.5.0 on. -/
def vhtParts (sta : WifiStaConfigT v) : List Part :=
  [.bit sta.vhtSuBeamformeeDisabled Config2.vhtSuBeamformeeDisabled,
   .bit sta.vhtMuBeamformeeDisabled Config2.vhtMuBeamformeeDisabled,
   .bit sta.vhtMcs8Enabled Config2.vhtMcs8Enabled]

/-- `he_bitmask`, part by part. -/
def heBitmaskParts (sta : WifiStaConfigT v) : List Part :=
  [.bit sta.heDcmSet Config2.heDcmSet,
    ⟨Config2.heDcmMaxConstellationTx, 2, sta.heDcmMaxConstellationTx⟩,
   ⟨Config2.heDcmMaxConstellationRx, 2, sta.heDcmMaxConstellationRx⟩,
   .bit sta.heMcs9Enabled Config2.heMcs9Enabled,
   .bit sta.heSuBeamformeeDisabled Config2.heSuBeamformeeDisabled,
   .bit sta.heTrigSuBmformingFeedbackDisabled Config2.heTrigSuBmformingFeedbackDisabled,
   .bit sta.heTrigMuBmformingPartialFeedbackDisabled
     Config2.heTrigMuBmformingPartialFeedbackDisabled,
   .bit sta.heTrigCqiFeedbackDisabled Config2.heTrigCqiFeedbackDisabled] ++
  (if hPresent550 v then vhtParts sta else []) ++
  [⟨maxUsedBit2 v, reserved2Width v, sta.reserved2⟩]

theorem encodeHeBitmask_eq (sta : WifiStaConfigT v) : encodeHeBitmask sta = pack
    (heBitmaskParts sta) := by
  unfold encodeHeBitmask heBitmaskParts
  simp only [place_ofBool, setTwoBits_eq]
  cases hPresent550 v <;> rfl

/-- What 5.5.0 has in addition it takes from the bits that were reserved. -/
theorem heBitmaskParts_layout (sta : WifiStaConfigT v) : Layout 32 (heBitmaskParts sta) := by
  refine .of_spans ([(0, 1), (1, 2), (3, 2), (5, 1), (6, 1), (7, 1), (8, 1), (9, 1)] ++
    (if hPresent550 v then [(10, 1), (11, 1), (12, 1)] else []) ++
      [(maxUsedBit2 v, reserved2Width v)]) ?_ ?_ ?_
  · unfold heBitmaskParts
    cases hPresent550 v <;> rfl
  · unfold maxUsedBit2 reserved2Width
    cases hPresent550 v <;> decide
  · unfold maxUsedBit2 reserved2Width
    cases hPresent550 v <;> decide

/-- A bit of `bitmask` comes back. -/
theorem hGetBit_bitmask {sta : WifiStaConfigT v} {b : Bool} {pos : Nat} (k : Nat)
    (h : (bitmaskParts sta)[k]? = some (.bit b pos)) : hGetBit pos (encodeBitmask sta) = b := by
  rw [hGetBit_eq, encodeBitmask_eq]
  exact (bitmaskParts_layout sta).getLsbD_pack (List.mem_of_getElem? h)

/-- A bit of `he_bitmask` comes back. -/
theorem hGetBit_heBitmask {sta : WifiStaConfigT v} {b : Bool} {pos : Nat} (k : Nat)
    (h : (heBitmaskParts sta)[k]? = some (.bit b pos)) : hGetBit pos (encodeHeBitmask sta) = b := by
  rw [hGetBit_eq, encodeHeBitmask_eq]
  exact (heBitmaskParts_layout sta).getLsbD_pack (List.mem_of_getElem? h)

theorem getTwoBits_heBitmask {sta : WifiStaConfigT v} {x : BitVec 2} {pos : Nat} (k : Nat)
    (h : (heBitmaskParts sta)[k]? = some ⟨pos, 2, x⟩) : getTwoBits pos
    (encodeHeBitmask sta) = x := by
  rw [getTwoBits_eq, encodeHeBitmask_eq]
  exact (heBitmaskParts_layout sta).extract_pack (List.mem_of_getElem? h)

theorem hGetBit_vht {sta : WifiStaConfigT v} {b : Bool} {pos : Nat} (k : Nat)
    (h : (vhtParts sta)[k]? = some (.bit b pos)) :
    (hPresent550 v && hGetBit pos (encodeHeBitmask sta)) = (hPresent550 v && b) := by
  cases hv : hPresent550 v with
  | false => rfl
  | true =>
    have hmem : .bit b pos ∈ heBitmaskParts sta := by
      rw [heBitmaskParts, if_pos hv]
      exact List.mem_append_left _ (List.mem_append_right _ (List.mem_of_getElem? h))
    rw [hGetBit_eq, encodeHeBitmask_eq, (heBitmaskParts_layout sta).getLsbD_pack hmem]

theorem getReservedVal1_bitmask (sta : WifiStaConfigT v) : getReservedVal1
    (encodeBitmask sta) = sta.reserved1 := by
  have hmem : ⟨maxUsedBit1, 26, sta.reserved1⟩ ∈ bitmaskParts sta := by simp [bitmaskParts]
  rw [getReservedVal1_eq, encodeBitmask_eq]
  exact (bitmaskParts_layout sta).extract_pack hmem

theorem getReservedVal2_heBitmask (sta : WifiStaConfigT v) :
    getReservedVal2 v (encodeHeBitmask sta) = sta.reserved2 := by
  have hmem : ⟨maxUsedBit2 v, reserved2Width v, sta.reserved2⟩ ∈
    heBitmaskParts sta := by simp [heBitmaskParts]
  rw [getReservedVal2_eq, encodeHeBitmask_eq]
  exact (heBitmaskParts_layout sta).extract_pack hmem

/-! ## Reading back and applying again -/

/-- A configuration without the members that `req_wifi_set_config` does not decode for it. -/
def decodedFields (sta : WifiStaConfigT v) : WifiStaConfigT v :=
  { sta with
    bssid := if sta.bssidSet then sta.bssid else zeros 6
    thresholdRssi5gAdjustment := if hPresent540 v then sta.thresholdRssi5gAdjustment else 0
    vhtSuBeamformeeDisabled := hPresent550 v && sta.vhtSuBeamformeeDisabled
    vhtMuBeamformeeDisabled := hPresent550 v && sta.vhtMuBeamformeeDisabled
    vhtMcs8Enabled := hPresent550 v && sta.vhtMcs8Enabled }

theorem reqCopyBytes_bssid (bssid : Bytes 6) : reqCopyBytes 6 bssid.val = bssid := by
  apply Subtype.ext
  dsimp only [reqCopyBytes]
  rw [bssid.property, Nat.min_self, List.take_of_length_le bssid.property.le, Nat.sub_self,
    List.replicate_zero, List.append_nil]

/-- **What comes back**: everything but the identifier, which is never sent. -/
theorem reapply_eq {dpp : Bool} {alloc : Element → Bool} {behind : List UInt8}
    {type : RpcPayloadType}
    {sta : WifiStaConfigT v} {m : WifiStaConfig} (hssid : Terminated sta.ssid)
    (hpassword : Terminated sta.password)
    (h : copyWifiStaCfgToRpcStruct dpp alloc behind type sta = some m) :
    reqWifiSetConfig v m = { decodedFields sta with saeH2eIdentifier := zeros 32 } := by
  unfold copyWifiStaCfgToRpcStruct at h
  split at h
  · cases h
  split at h
  swap
  · cases h
  cases h
  simp only [reqWifiSetConfig, decodedFields, WifiStaConfigT.mk.injEq, Option.map_some,
    Option.getD_some,
    getReservedVal1_bitmask, getReservedVal2_heBitmask, reqCopyBytes_bssid, List.append_assoc,
    reqCopyBytes_respCopyStr hssid, reqCopyBytes_respCopyStr hpassword, UInt32.toUInt32_toInt32,
    UInt8.toUInt8_toUInt32, UInt16.toUInt16_toUInt32, Int8.toInt8_toInt32, true_and]
  refine ⟨?_, hGetBit_bitmask 0 rfl, hGetBit_bitmask 1 rfl, hGetBit_bitmask 2 rfl,
    hGetBit_bitmask 3 rfl,
    hGetBit_bitmask 4 rfl, hGetBit_bitmask 5 rfl, hGetBit_heBitmask 0 rfl,
      getTwoBits_heBitmask 1 rfl,
    getTwoBits_heBitmask 2 rfl, hGetBit_heBitmask 3 rfl, hGetBit_heBitmask 4 rfl,
      hGetBit_heBitmask 5 rfl,
    hGetBit_heBitmask 6 rfl, hGetBit_heBitmask 7 rfl, hGetBit_vht 0 rfl, hGetBit_vht 1 rfl,
      hGetBit_vht 2 rfl, ?_⟩
  · cases hPresent540 v with
    | false => rfl
    | true => exact UInt8.toUInt8_toUInt32 _
  · rfl

/-- **Reading back and applying again is the identity exactly where there is no SAE H2E
identifier.** -/
theorem reapply_identity_iff {dpp : Bool} {alloc : Element → Bool} {behind : List UInt8}
    {type : RpcPayloadType}
    {sta : WifiStaConfigT v} {m : WifiStaConfig} (hssid : Terminated sta.ssid)
    (hpassword : Terminated sta.password)
    (h : copyWifiStaCfgToRpcStruct dpp alloc behind type sta = some m) :
    reqWifiSetConfig v m = decodedFields sta ↔ sta.saeH2eIdentifier = zeros 32 := by
  rw [reapply_eq hssid hpassword h]
  constructor
  · intro heq
    exact (congrArg WifiStaConfigT.saeH2eIdentifier heq).symm
  · intro hzero
    rw [← hzero]
    rfl

abbrev idf551 : Nat := espIdfVersionVal 5 5 1

/-- A name that fills its array, no password, and both words used up to their last bit. -/
def fullName : WifiStaConfigT idf551 :=
  { ssid := ⟨List.replicate 32 0x61, List.length_replicate⟩
    rmEnabled := true
    reserved1 := BitVec.allOnes 26
    heDcmMaxConstellationTx := 3
    vhtMcs8Enabled := true
    reserved2 := BitVec.allOnes 19 }

theorem fullName_ssid : Terminated fullName.ssid := by
  refine ⟨List.replicate 32 0x61, ?_, Nat.le_refl 32, rfl⟩
  intro b hb
  rw [List.eq_of_mem_replicate hb]
  decide

theorem zeros_terminated (n : Nat) : Terminated (zeros n) := ⟨[], nofun, Nat.zero_le n, rfl⟩

theorem reapply_identity_fullName :
    ∃ m, copyWifiStaCfgToRpcStruct false (fun _ => true) [] .respWifiGetConfig fullName = some m ∧
      reqWifiSetConfig idf551 m = decodedFields fullName := by
  have hcopy : copyWifiStaCfgToRpcStruct false (fun _ => true) [] .respWifiGetConfig fullName =
    some _ := rfl
  exact ⟨_, hcopy, (reapply_identity_iff fullName_ssid (zeros_terminated 64) hcopy).2 rfl⟩

/-- An identifier of one byte is lost. -/
theorem reapply_loses_identifier :
    ∃ (sta : WifiStaConfigT idf551) (m : WifiStaConfig),
      Terminated sta.ssid ∧ Terminated sta.password ∧
      copyWifiStaCfgToRpcStruct false (fun _ => true) [] .respWifiGetConfig sta = some m ∧
      (reqWifiSetConfig idf551 m).saeH2eIdentifier = zeros 32 ∧ reqWifiSetConfig idf551 m ≠
        decodedFields sta := by
  refine ⟨{ fullName with saeH2eIdentifier := ⟨0x69 :: List.replicate 31 0, rfl⟩ }, _,
    fullName_ssid, zeros_terminated 64, rfl, rfl, ?_⟩
  intro heq
  have hidentifier := congrArg (fun sta => sta.saeH2eIdentifier.val.head?) heq
  exact absurd hidentifier (by decide)

/-- A message is built whatever the configuration is. -/
theorem copyWifiStaCfgToRpcStruct_isSome (dpp : Bool) (alloc : Element → Bool) (behind : List UInt8)
    (type : RpcPayloadType) (sta : WifiStaConfigT v) :
    (copyWifiStaCfgToRpcStruct dpp alloc behind type sta).isSome = true ↔
      (type = .eventWifiDppGetConfig → dpp = true) ∧ elements.all alloc = true := by
  unfold copyWifiStaCfgToRpcStruct
  split
  · rename_i hdpp
    refine iff_of_false Bool.false_ne_true fun h => ?_
    exact Bool.false_ne_true (hdpp.2.symm.trans (h.1 hdpp.1))
  · rename_i hdpp
    have htype : type = .eventWifiDppGetConfig → dpp = true := by
      intro ht
      cases dpp with
      | true => rfl
      | false => exact absurd ⟨ht, rfl⟩ hdpp
    split
    · rename_i halloc
      exact iff_of_true rfl ⟨htype, halloc⟩
    · rename_i halloc
      exact iff_of_false Bool.false_ne_true fun h => halloc h.2

end EspHostedOpen.StaConfig
