import EspHostedOpen.Proto.Events

/-!
# The event handlers of the host (`phy_rpc.c`)

An event is a fixed structure, for five of the seven with a tail whose length is a 16-bit member.
The handler checks that the structure and the tail are there and calls the registered callback.

`onTailed_runs`: it is called exactly then, with a slice inside the bytes delivered.
-/

namespace EspHostedOpen

open ByteCodec

/-- A callback that takes a tail: its context, where the tail lies, and the metadata. -/
structure TailCall (κ μ : Type) where
  ctx : κ
  off : Nat
  len : Nat
  info : μ

/-- The bytes behind the pointer and the length it gets. -/
def TailCall.payload {κ μ : Type} (u : TailCall κ μ) (data : List UInt8) : List UInt8 :=
  slice u.off u.len data

/-! ## Metadata -/

/-- `esp_hosted_open_rx_meta_t`. -/
structure RxMeta where
  rssiDbm : Int8
  channel : UInt8
  srcMac : List UInt8
  timestampUs : UInt32
  deriving DecidableEq, Repr

/-- `esp_hosted_open_raw_meta_t`. -/
structure RawMeta where
  rssiDbm : Int8
  channel : UInt8
  rate : UInt8
  isQos : Bool
  timestampUs : UInt32
  deriving DecidableEq, Repr

/-- The scalar arguments of `esp_hosted_open_csi_cb_t`. -/
structure CsiMeta where
  rssiDbm : Int8
  channel : UInt8
  srcMac : List UInt8
  timestampUs : UInt32
  deriving DecidableEq, Repr

/-- `esp_hosted_open_ftm_report_t`. -/
structure FtmReport where
  peerMac : List UInt8
  status : UInt8
  rttRawPs : Int32
  rttEstPs : Int32
  distEstCm : Int32
  deriving DecidableEq, Repr

/-- `esp_hosted_open_espnow_meta_t`. -/
structure EspnowMeta where
  srcMac : List UInt8
  dstMac : List UInt8
  rssiDbm : Int8
  channel : UInt8
  deriving DecidableEq, Repr

/-- `esp_hosted_open_ieee154_meta_t`. -/
structure Ieee154Meta where
  rssiDbm : Int8
  lqi : UInt8
  channel : UInt8
  timestampUs : UInt32
  deriving DecidableEq, Repr

/-! ## Members of the overlaid structure -/

section Members

variable (t : Packed) (k : Nat) (data : List UInt8)

def memberBytes (n : Nat) : List UInt8 := slice (t.offset k) n data
def memberU8 : UInt8 := UInt8.ofNat (leNat (memberBytes t k data 1))
def memberI8 : Int8 := (memberU8 t k data).toInt8
def memberU16 : Nat := leNat (memberBytes t k data 2)
def memberU32 : UInt32 := UInt32.ofNat (leNat (memberBytes t k data 4))
def memberI32 : Int32 := (memberU32 t k data).toInt32

end Members

/-! ## Handlers -/

section Handlers

variable {κ μ : Type}

/-- An event with a tail: `t` is its structure, member `k` the length, `info` reads the rest. -/
def onTailed (t : Packed) (k : Nat) (info : List UInt8 → μ) (cb : Option κ) (data : List UInt8) :
    Option (TailCall κ μ) :=
  if data.length < t.sizeof then none
  else if t.sizeof + memberU16 t k data > data.length then none
  else cb.map fun ctx => ⟨ctx, t.sizeof, memberU16 t k data, info data⟩

def onEventOcb : Option κ → List UInt8 → Option (TailCall κ RxMeta) :=
  let t := Evt.ocbFrame.struct
  onTailed t 3 fun data =>
    { rssiDbm := memberI8 t 0 data, channel := memberU8 t 1 data
      srcMac := memberBytes t 2 data 6, timestampUs := memberU32 t 4 data }

def onEventRaw : Option κ → List UInt8 → Option (TailCall κ RawMeta) :=
  let t := Evt.rawFrame.struct
  onTailed t 4 fun data =>
    { rssiDbm := memberI8 t 0 data, channel := memberU8 t 1 data, rate := memberU8 t 2 data
      isQos := memberU8 t 3 data ≠ 0, timestampUs := memberU32 t 6 data }

def onEventCsi : Option κ → List UInt8 → Option (TailCall κ CsiMeta) :=
  let t := Evt.csi.struct
  onTailed t 3 fun data =>
    { rssiDbm := memberI8 t 0 data, channel := memberU8 t 1 data
      srcMac := memberBytes t 2 data 6, timestampUs := memberU32 t 5 data }

def onEventFtm (cb : Option κ) (data : List UInt8) : Option (κ × FtmReport) :=
  let t := Evt.ftmReport.struct
  if data.length < t.sizeof then none
  else cb.map fun ctx =>
    (ctx, { peerMac := memberBytes t 0 data 6, status := memberU8 t 1 data
            rttRawPs := memberI32 t 3 data, rttEstPs := memberI32 t 4 data
            distEstCm := memberI32 t 5 data })

def onEventEspnowRx : Option κ → List UInt8 → Option (TailCall κ EspnowMeta) :=
  let t := Evt.espnowRx.struct
  onTailed t 4 fun data =>
    { srcMac := memberBytes t 0 data 6, dstMac := memberBytes t 1 data 6
      rssiDbm := memberI8 t 2 data, channel := memberU8 t 3 data }

/-- The peer's address, and whether the status is 0. -/
def onEventEspnowTx (cb : Option κ) (data : List UInt8) : Option (κ × List UInt8 × Bool) :=
  let t := Evt.espnowTxStatus.struct
  if data.length < t.sizeof then none
  else cb.map fun ctx => (ctx, memberBytes t 0 data 6, memberU8 t 1 data = 0)

def onEventIeee154Rx : Option κ → List UInt8 → Option (TailCall κ Ieee154Meta) :=
  let t := Evt.ieee154Rx.struct
  onTailed t 4 fun data =>
    { rssiDbm := memberI8 t 0 data, lqi := memberU8 t 1 data, channel := memberU8 t 2 data
      timestampUs := memberU32 t 6 data }

end Handlers

/-! ## Dispatch -/

/-- `s_ocb_cb` and the like: the context of the callback, where one is registered. -/
structure EventCallbacks (κ : Type) where
  ocb : Option κ := none
  raw : Option κ := none
  csi : Option κ := none
  ftm : Option κ := none
  espnowRx : Option κ := none
  espnowTx : Option κ := none
  ieee154Rx : Option κ := none

/-- A callback of the application with what it gets: a tail by its bytes. -/
inductive Upcall (κ : Type)
  | ocb (ctx : κ) (payload : List UInt8) (info : RxMeta)
  | raw (ctx : κ) (frame : List UInt8) (info : RawMeta)
  | csi (ctx : κ) (csi : List UInt8) (info : CsiMeta)
  | ftm (ctx : κ) (report : FtmReport)
  | espnowRx (ctx : κ) (data : List UInt8) (info : EspnowMeta)
  | espnowTx (ctx : κ) (peerMac : List UInt8) (success : Bool)
  | ieee154Rx (ctx : κ) (frame : List UInt8) (info : Ieee154Meta)
  deriving DecidableEq, Repr

/-- The handler that `esp_hosted_open_init` registers for an event. -/
def onEvent {κ : Type} (cbs : EventCallbacks κ) (data : List UInt8) : Evt → Option (Upcall κ)
  | .ocbFrame => (onEventOcb cbs.ocb data).map fun u => .ocb u.ctx (u.payload data) u.info
  | .rawFrame => (onEventRaw cbs.raw data).map fun u => .raw u.ctx (u.payload data) u.info
  | .csi => (onEventCsi cbs.csi data).map fun u => .csi u.ctx (u.payload data) u.info
  | .ftmReport => (onEventFtm cbs.ftm data).map fun u => .ftm u.1 u.2
  | .espnowRx =>
    (onEventEspnowRx cbs.espnowRx data).map fun u => .espnowRx u.ctx (u.payload data) u.info
  | .espnowTxStatus => (onEventEspnowTx cbs.espnowTx data).map fun u => .espnowTx u.1 u.2.1 u.2.2
  | .ieee154Rx =>
    (onEventIeee154Rx cbs.ieee154Rx data).map fun u => .ieee154Rx u.ctx (u.payload data) u.info

/-- The event registrations at the end of `esp_hosted_open_init`. -/
def eventRegistrations : List (UInt32 × Evt) :=
  [.ocbFrame, .rawFrame, .csi, .ftmReport, .espnowRx, .espnowTxStatus, .ieee154Rx].map fun e =>
    (e.msgId, e)

/-- The `RPC_ID__Event_CustomRpc` branch of the host's event parser, once all of them are
registered. -/
def rpcParseEvt {κ : Type} (cbs : EventCallbacks κ) (msgId : UInt32) (data : List UInt8) :
    Option (Upcall κ) :=
  (eventRegistrations.find? (·.1 = msgId)).bind fun r => onEvent cbs data r.2

theorem rpcParseEvt_msgId {κ : Type} (cbs : EventCallbacks κ) (e : Evt) (data : List UInt8) :
    rpcParseEvt cbs e.msgId data = onEvent cbs data e := by
  have hfind : eventRegistrations.find? (·.1 = e.msgId) = some (e.msgId, e) := by
    cases e <;> rfl
  rw [rpcParseEvt, hfind]
  rfl

/-! ## What is let through -/

section Guards

variable {κ μ : Type} {t : Packed} {k : Nat} {info : List UInt8 → μ} {data : List UInt8}

/-- The fixed header is there and the declared length fits behind it. -/
def Fits (t : Packed) (k : Nat) (data : List UInt8) : Prop :=
  t.sizeof ≤ data.length ∧ t.sizeof + memberU16 t k data ≤ data.length

theorem onTailed_of_fits (h : Fits t k data) (cb : Option κ) :
    onTailed t k info cb data = cb.map fun ctx =>
      ⟨ctx, t.sizeof, memberU16 t k data, info data⟩ := by
  rw [onTailed, if_neg (Nat.not_lt.2 h.1), if_neg (Nat.not_lt.2 h.2)]

/-- A structure with a tail of the declared length. -/
theorem onTailed_of_length {n : Nat} (hn : memberU16 t k data = n)
    (hlen : data.length = t.sizeof + n)
    (cb : Option κ) : onTailed t k info cb data = cb.map fun ctx =>
      ⟨ctx, t.sizeof, n, info data⟩ := by
  subst hn
  exact onTailed_of_fits ⟨by omega, by omega⟩ cb

/-- A handler for events with a tail, its callback registered: it runs on exactly the strings that
hold the structure `t` and the length that member `k` declares, and what it gets lies inside. -/
def RunsOnFitting (t : Packed) (k : Nat) (handler : Option κ → List UInt8 → Option (TailCall κ μ)) :
    Prop :=
  ∀ ctx data, ((handler (some ctx) data).isSome = true ↔ Fits t k data) ∧
    ∀ u ∈ handler (some ctx) data, u.off + u.len ≤ data.length

theorem onTailed_runs (t : Packed) (k : Nat) (info : List UInt8 → μ) :
    @RunsOnFitting κ μ t k (onTailed t k info) := by
  intro ctx data
  by_cases h : Fits t k data
  · rw [onTailed_of_fits h]
    refine ⟨iff_of_true rfl h, fun u hu => ?_⟩
    cases hu
    exact h.2
  · -- one of the two checks fails
    have hnone : onTailed t k info (some ctx) data = none := by
      unfold onTailed
      split
      · rfl
      · rename_i hhead
        split
        · rfl
        · rename_i htail
          exact absurd ⟨Nat.not_lt.1 hhead, Nat.not_lt.1 htail⟩ h
    rw [hnone]
    exact ⟨iff_of_false Bool.false_ne_true h, by rintro u ⟨⟩⟩

end Guards

end EspHostedOpen
