import EspHostedOpen.Lib.Command
import EspHostedOpen.Proto.Messages

/-!
# What a request handler of the slave can see and do

A handler reads the delivered bytes, asks whether a weak symbol resolved, calls `libphy.a` and the
IDF, updates the statics of its file and sends messages. All of that is a `Cmd` over an `Input` (the
outcomes the outside world gives and the delivered bytes), the `SlaveState` and a trace of `Event`s,
every single byte read among them.

`Env.err` gives each driver call its `esp_err_t`: no handler makes the same call twice, so every
combination of outcomes of one run is some `Env`.
-/

namespace EspHostedOpen

open ByteCodec

/-- The symbols declared `__attribute__((weak))`. -/
inductive Sym
  | phyForceRxGain | phyRxGainForce | phyDisableAgc | phyEnableAgc | phyAgcMaxGainSet
  | phyDisableCca | phyEnableCca | phySetCcaCnt | phyGetCcaCnt | phyGetRssi | phyGetSigrssi
  | phyDisableLowRate | phyEnableLowRate | phyBbBssCbw40
  | phySetFreq | phyBandChange | phyBandSel | phyChanFiltSet | phyChan14MicCfgNew | phySetRate
  | phySetMostTpw | phyGetMostTpw | phySetRxGainTable | phyGetNoiseFloor | phyXpdTsens
  | phyCsidumpForceLltfCfg | phySetLoopbackGain | phyBtSetTxGainNew | phyBtTxGainSet
  | phyBtFilterReg
  | espIeee802154Enable | espIeee802154Disable | espIeee802154SetChannel | espIeee802154SetPanid
  | espIeee802154SetPromiscuous | espIeee802154Transmit
  deriving DecidableEq, Repr

/-- Calls into `libphy.a`. `phy_11p_set` and `phy_change_channel` are strong symbols. -/
inductive PhyCall
  | phy11pSet (enable reserved : Int32)
  | phyChangeChannel (channel a b htMode : Int32)
  | phyForceRxGain (gain : Int32)
  | phyRxGainForce (en : Int32)
  | phyDisableAgc
  | phyEnableAgc
  | phyAgcMaxGainSet (g : Int32)
  | phyDisableCca
  | phyEnableCca
  | phySetCcaCnt (n : UInt32)
  | phyGetCcaCnt
  | phyGetRssi
  | phyGetSigrssi
  | phyDisableLowRate
  | phyEnableLowRate
  | phyBbBssCbw40 (en : Int32)
  | phySetFreq (freqMhz : Int32)
  | phyBandChange (band : Int32)
  | phyBandSel (band : Int32)
  | phyChanFiltSet (mask : UInt32)
  | phyChan14MicCfgNew (enable : Int32)
  | phySetRate (rate : Int32)
  | phySetMostTpw (tpw : Int32)
  | phyGetMostTpw
  | phySetRxGainTable (idx : Int32)
  | phyGetNoiseFloor
  | phyXpdTsens
  | phyCsidumpForceLltfCfg (enable : Int32)
  | phySetLoopbackGain (gain : Int32)
  | phyBtSetTxGainNew (gain : Int32)
  | phyBtTxGainSet (gain : Int32)
  | phyBtFilterReg (reg : UInt32)
  deriving DecidableEq, Repr

/-- `wifi_interface_t`. -/
inductive WifiIf
  | sta | ap
  deriving DecidableEq, Repr

/-- The enumerator's value. -/
def WifiIf.code : WifiIf → UInt8
  | .sta => 0
  | .ap => 1

/-- `wifi_country_t`. -/
structure WifiCountry where
  cc : String
  schan : UInt8
  nchan : UInt8
  maxTxPower : Int8
  manual : Bool
  deriving DecidableEq, Repr

/-- The country both `on_set_channel` and `slave_phy_apply` set. -/
def permissiveCountry : WifiCountry :=
  { cc := "01", schan := 1, nchan := 200, maxTxPower := 23, manual := true }

/-- `wifi_ftm_initiator_cfg_t`, the members the handler fills. -/
structure FtmInitiatorCfg where
  respMac : List UInt8
  frmCount : UInt8
  burstPeriod : UInt8
  channel : UInt8
  deriving DecidableEq, Repr

/-- `esp_now_peer_info_t`, the members the handler fills. -/
structure EspNowPeerInfo where
  peerAddr : List UInt8
  lmk : List UInt8
  channel : UInt8
  ifidx : WifiIf
  encrypt : Bool
  deriving DecidableEq, Repr

/-- Calls into the IDF that return an `esp_err_t`. A pointer argument is the bytes it points to. -/
inductive DrvCall
  | espWifiSetCountry (country : WifiCountry)
  | espWifiSetChannel (primary : UInt8)
  | espWifiSetMaxTxPower (power : Int8)
  | espWifiSetPsNone
  | espWifi80211Tx (iface : WifiIf) (frame : List UInt8) (len : UInt16) (enSysSeq : Bool)
  | espWifiSetPromiscuousRxCb
  | espWifiSetPromiscuous (en : Bool)
  | espWifiSetPromiscuousFilter (filterMask : UInt32)
  | espWifiSetProtocol (iface : WifiIf) (mask : UInt8)
  | espWifiSetMac (iface : WifiIf) (mac : List UInt8)
  | espWifiSetCsiRxCb
  | espWifiSetCsi (en : Bool)
  | espEventHandlerRegisterFtm
  | espWifiFtmInitiateSession (cfg : FtmInitiatorCfg)
  | espNowInit
  | espNowDeinit
  | espNowRegisterRecvCb
  | espNowRegisterSendCb
  | espNowSetPmk (pmk : List UInt8)
  | espNowAddPeer (peer : EspNowPeerInfo)
  | espNowDelPeer (peerAddr : List UInt8)
  | espNowSend (peerAddr data : List UInt8) (len : UInt16)
  | espIeee802154Enable
  | espIeee802154Disable
  | espIeee802154SetChannel (ch : UInt8)
  | espIeee802154SetPanid (pan : UInt16)
  | espIeee802154SetPromiscuous (en : Bool)
  | espIeee802154Transmit (frame : List UInt8) (cca : Bool)
  deriving DecidableEq, Repr

/-- Calls into FreeRTOS that can fail. -/
inductive OsCall
  | xQueueCreateRaw
  | xTaskCreateRawForward
  deriving DecidableEq, Repr

inductive Event
  | read (i : Nat)
  | phy (c : PhyCall)
  | drv (c : DrvCall) (err : EspErr)
  | os (c : OsCall) (ok : Bool)
  | send (msgId : UInt32) (data : List UInt8)
  deriving DecidableEq, Repr

/-- The outcomes one handler run meets: which symbols resolved, what driver calls return, what the
value-returning symbols measure, whether `malloc` in `send_resp_with_body` succeeds. -/
structure Env where
  resolved : Sym → Bool
  err : DrvCall → EspErr
  os : OsCall → Bool
  ccaCnt : UInt32
  value : Sym → Int32
  malloc : Bool

/-- A chip on which no weak symbol resolved and every call succeeds. -/
def bareChip : Env :=
  { resolved := fun _ => false, err := fun _ => espOk, os := fun _ => true, ccaCnt := 0,
    value := fun _ => 0, malloc := true }

structure Input where
  env : Env
  data : List UInt8

/-- `s_state` of `phy_rpc_handlers.c`. -/
structure PhyState where
  channel : UInt8 := 180
  txPowerDbm : Int8 := 20
  phy11pArmed : UInt8 := 1
  ccaEnabled : UInt8 := 1
  lowRateEnabled : UInt8 := 0
  agcMaxGain : UInt8 := 255
  deriving DecidableEq, Repr

/-- The statics of the overlay: `s_state`, whether `s_raw_q` is set, `s_ftm_handler_registered`. -/
structure SlaveState where
  phy : PhyState := {}
  rawQ : Bool := false
  ftmHandlerRegistered : Bool := false
  deriving DecidableEq, Repr

abbrev Handler := Cmd Input SlaveState Event

/-! ## Projections of a trace -/

def sends (es : List Event) : List (UInt32 × List UInt8) :=
  es.filterMap fun | .send m d => some (m, d) | _ => none

def reads (es : List Event) : List Nat :=
  es.filterMap fun | .read i => some i | _ => none

def phyCalls (es : List Event) : List PhyCall :=
  es.filterMap fun | .phy c => some c | _ => none

def drvCalls (es : List Event) : List DrvCall :=
  es.filterMap fun | .drv c _ => some c | _ => none

section Projections

variable (es es' : List Event) (c : PhyCall) (d : DrvCall) (err : EspErr) (m : UInt32)
  (b : List UInt8)

@[simp] theorem sends_nil : sends [] = [] := rfl
@[simp] theorem sends_append : sends (es ++ es') = sends es ++ sends es' := List.filterMap_append
@[simp] theorem sends_send : sends (.send m b :: es) = (m, b) :: sends es := rfl

@[simp] theorem reads_nil : reads [] = [] := rfl
@[simp] theorem reads_append : reads (es ++ es') = reads es ++ reads es' := List.filterMap_append
@[simp] theorem reads_send : reads (.send m b :: es) = reads es := rfl

@[simp] theorem phyCalls_nil : phyCalls [] = [] := rfl
@[simp] theorem phyCalls_append : phyCalls (es ++ es') = phyCalls es ++ phyCalls es' :=
  List.filterMap_append
@[simp] theorem phyCalls_phy : phyCalls (.phy c :: es) = c :: phyCalls es := rfl
@[simp] theorem phyCalls_drv : phyCalls (.drv d err :: es) = phyCalls es := rfl
@[simp] theorem phyCalls_send : phyCalls (.send m b :: es) = phyCalls es := rfl

@[simp] theorem drvCalls_nil : drvCalls [] = [] := rfl
@[simp] theorem drvCalls_append : drvCalls (es ++ es') = drvCalls es ++ drvCalls es' :=
  List.filterMap_append
@[simp] theorem drvCalls_drv : drvCalls (.drv d err :: es) = d :: drvCalls es := rfl
@[simp] theorem drvCalls_send : drvCalls (.send m b :: es) = drvCalls es := rfl

/-- Reads are neither calls nor messages. -/
theorem filterMap_reads {α : Type} {f : Event → Option α} (h : ∀ i, f (.read i) = none)
    (l : List Nat) : (l.map Event.read).filterMap f = [] := by
  rw [List.filterMap_map, List.filterMap_eq_nil_iff]
  exact fun i _ => h i

@[simp] theorem phyCalls_reads (l : List Nat) : phyCalls (l.map .read) = [] :=
  filterMap_reads (fun _ => rfl) l

@[simp] theorem drvCalls_reads (l : List Nat) : drvCalls (l.map .read) = [] :=
  filterMap_reads (fun _ => rfl) l

end Projections

/-! ## Reading the request -/

/-- The `n` bytes at `off`, each read recorded. -/
def readBytes (off n : Nat) : Handler (List UInt8) := fun r s =>
  ⟨slice off n r.data, s, (List.range' off n).map .read⟩

def readU8 (off : Nat) : Handler UInt8 := (fun bs => UInt8.ofNat (leNat bs)) <$> readBytes off 1
def readI8 (off : Nat) : Handler Int8 := UInt8.toInt8 <$> readU8 off
def readU16 (off : Nat) : Handler UInt16 := (fun bs => UInt16.ofNat (leNat bs)) <$> readBytes off 2
def readU32 (off : Nat) : Handler UInt32 := (fun bs => UInt32.ofNat (leNat bs)) <$> readBytes off 4
def readU64 (off : Nat) : Handler UInt64 := (fun bs => UInt64.ofNat (leNat bs)) <$> readBytes off 8

def dataLen : Handler Nat := Cmd.ask (·.data.length)

def resolved (sym : Sym) : Handler Bool := Cmd.ask (·.env.resolved sym)

/-! ## Calling out -/

def callPhy (c : PhyCall) : Handler Unit := Cmd.emit (.phy c)

def callDrv (c : DrvCall) : Handler EspErr := fun r s =>
  ⟨r.env.err c, s, [.drv c (r.env.err c)]⟩

def callOs (c : OsCall) : Handler Bool := fun r s => ⟨r.env.os c, s, [.os c (r.env.os c)]⟩

/-- Call a value-returning symbol of `libphy.a`. -/
def getPhy (c : PhyCall) (sym : Sym) : Handler Int32 := fun r s =>
  ⟨r.env.value sym, s, [.phy c]⟩

/-- `if (sym) call`. -/
def ifResolved (sym : Sym) (c : PhyCall) : Handler Unit := do
  if ← resolved sym then callPhy c else pure ()

def setState (f : PhyState → PhyState) : Handler Unit :=
  Cmd.modify fun s => { s with phy := f s.phy }

/-! ## Replying -/

def u32Bytes (x : UInt32) : List UInt8 := leBytes 4 x.toNat
def i32Bytes (x : Int32) : List UInt8 := u32Bytes x.toUInt32

def sendSimpleResp (respId opId : UInt32) (status : EspErr) : Handler Unit :=
  Cmd.emit (.send respId (u32Bytes opId ++ i32Bytes status))

def sendRespWithBody (respId opId : UInt32) (status : EspErr) (body : List UInt8) :
    Handler Unit := do
  if ← Cmd.ask (·.env.malloc) then
    Cmd.emit (.send respId (u32Bytes opId ++ i32Bytes status ++ body))
  else sendSimpleResp respId opId espErrNoMem

/-- `UNPACK_REQ`: drop a request shorter than its structure, else go on with its op_id. -/
def unpackReq (t : Packed) (k : UInt32 → Handler Unit) : Handler Unit := do
  if (← dataLen) < t.sizeof then pure ()
  else do
    let op ← readU32 (t.offset 0)
    k op

/-- The shape of a handler that computes a status and answers it with `send_simple_resp`. -/
def answering (t : Packed) (respId : UInt32) (act : Handler EspErr) : Handler Unit :=
  unpackReq t fun op => do
    let st ← act
    sendSimpleResp respId op st

/-- `HOOK_OPT`: call the symbol where it resolved. -/
def hookOpt (sym : Sym) (act : Handler Unit) : Handler EspErr := do
  if ← resolved sym then
    act
    pure espOk
  else pure espErrNotSupported

/-- `(r->wifi_if == 1) ? WIFI_IF_AP : WIFI_IF_STA`. -/
def ifaceOf (wifiIf : UInt8) : WifiIf := if wifiIf = 1 then .ap else .sta

@[simp] theorem ifaceOf_code (i : WifiIf) : ifaceOf i.code = i := by
  cases i <;> rfl

end EspHostedOpen
