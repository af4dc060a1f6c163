import EspHostedOpen.Slave.Device
import EspHostedOpen.Slave.Status

/-!
# GET_INFO as a mirror of the radio

`s_state` is a shadow of what the slave last applied to the radio, and `on_get_info` reports it.
`Mirrors` compares the two, setting by setting, for those applied since boot.

Handlers that touch neither are `Inert`. The others store what they apply, with four exceptions:
`slave_phy_apply` retunes without storing, `on_set_freq` and `on_set_most_tpw` store nothing, and
`on_set_tx_power` stores the dBm it was asked for where the radio gets the clamped product. `Stored`
is the condition on a step under which the exception does not show, and `mirrors_of_reach` the
result: in a run whose steps are all `Stored`, every state mirrors the radio.
-/

namespace EspHostedOpen

open ByteCodec Transition

/-! ## The mirror -/

/-- `tuned mhz ch`: the frequency is the centre of the channel. -/
def Tune.IsChannel (tuned : Int32 → UInt8 → Prop) (t : Tune) (ch : UInt8) : Prop :=
  match t with
  | .channel c => c = ch.toUInt32.toInt32
  | .freq mhz => tuned mhz ch

/-- Each setting applied to the radio is the one stored. -/
structure Mirrors (tuned : Int32 → UInt8 → Prop) (p : PhyState) (ra : Radio) : Prop where
  channel : ∀ t, ra.tune = some t → t.IsChannel tuned p.channel
  power : ∀ q, ra.power = some q → 4 * p.txPowerDbm.toInt = q
  phy11p : ∀ v, ra.phy11p = some v → v = p.phy11pArmed.toUInt32.toInt32
  cca : ∀ v, ra.cca = some v → v = p.ccaEnabled
  lowRate : ∀ v, ra.lowRate = some v → v = p.lowRateEnabled
  agcMaxGain : ∀ v, ra.agcMaxGain = some v → v = p.agcMaxGain.toUInt32.toInt32

/-- The members of `phy_rpc_resp_get_info_t` behind the header, up to `agc_max_gain`. -/
def infoOf (m : List UInt8) : PhyState :=
  let u8 off := UInt8.ofNat (leNat (slice off 1 m))
  { channel := u8 8, txPowerDbm := (u8 9).toInt8, phy11pArmed := u8 10, ccaEnabled := u8 11,
    lowRateEnabled := u8 12, agcMaxGain := u8 13 }

/-- Every successful answer to GET_INFO shows the radio as it is. -/
def GetInfoMirrors (tuned : Int32 → UInt8 → Prop) (d : Device) : Prop :=
  ∀ (r : Input) (m : UInt32 × List UInt8), m ∈ sends (onGetInfo r d.statics).events →
    statusOf m.2 = espOk → Mirrors tuned (infoOf m.2) d.radio

/-- What a step has to meet for the mirror to stay true. -/
def Stored (tuned : Int32 → UInt8 → Prop) (channel : UInt8) (d : Device) : DeviceAction → Prop
  -- re-applying arms 11p and tunes to the configured channel whatever is stored
  | .boot env | .wifiReady env =>
    env.err (.espWifiSetCountry permissiveCountry) = espOk →
      d.statics.phy.phy11pArmed = 1 ∧
        (env.err (.espWifiSetChannel 140) = espOk → d.statics.phy.channel = channel)
  | .request rpc env data =>
    rpc.reqStruct.sizeof ≤ data.length →
      match rpc with
      -- outside of this range the product is clamped, or wraps
      | .setTxPower =>
        let dbm := (UInt8.ofNat (leNat (slice 4 1 data))).toInt8
        env.err (.espWifiSetMaxTxPower (txPowerQuarters dbm)) = espOk → 2 ≤ dbm ∧ dbm ≤ 21
      | .setFreq =>
        env.resolved .phySetFreq = true →
          tuned (UInt32.ofNat (leNat (slice 4 4 data))).toInt32 d.statics.phy.channel
      | .setMostTpw =>
        env.resolved .phySetMostTpw = true →
          (UInt8.ofNat (leNat (slice 4 1 data))).toInt8.toInt = 4 * d.statics.phy.txPowerDbm.toInt
      | _ => True

/-! ## Inert code -/

/-- `c` leaves `s_state` and the mirrored settings of the radio alone. -/
def Inert {α : Type} (r : Input) (c : Handler α) : Prop :=
  ∀ s, (c r s).state.phy = s.phy ∧ ∀ ra, radioAfter ra (c r s).events = ra

namespace Inert

variable {α β : Type} {r : Input}

theorem pure (a : α) : Inert r (Pure.pure a : Handler α) := fun _ => ⟨rfl, fun _ => rfl⟩

theorem bind {c : Handler α} {k : α → Handler β} (hc : Inert r c) (hk : ∀ a, Inert r (k a)) :
    Inert r (c >>= k) := by
  intro s
  obtain ⟨hphy, hra⟩ := hc s
  obtain ⟨hphy', hra'⟩ := hk (c r s).val (c r s).state
  refine ⟨hphy'.trans hphy, fun ra => ?_⟩
  rw [Cmd.bind_eval, radioAfter_append, hra, hra']

theorem map {c : Handler α} (f : α → β) (hc : Inert r c) : Inert r (f <$> c) :=
  bind hc fun a => pure (f a)

theorem ite {p : Prop} [Decidable p] {c d : Handler α} (hc : Inert r c) (hd : Inert r d) :
    Inert r (if p then c else d) := by
  split
  · exact hc
  · exact hd

theorem ask (f : Input → α) : Inert r (Cmd.ask f : Handler α) := fun _ => ⟨rfl, fun _ => rfl⟩

theorem get (f : SlaveState → α) : Inert r (Cmd.get f : Handler α) := fun _ => ⟨rfl, fun _ => rfl⟩

theorem modify {f : SlaveState → SlaveState} (h : ∀ s, (f s).phy = s.phy) :
    Inert r (Cmd.modify f : Handler Unit) := fun s => ⟨h s, fun _ => rfl⟩

theorem readBytes (off n : Nat) : Inert r (readBytes off n) := by
  intro s
  refine ⟨rfl, fun ra => ?_⟩
  show radioAfter ra ((List.range' off n).map .read) = ra
  induction List.range' off n with
  | nil => rfl
  | cons i l ih => exact ih

theorem readU8 (off : Nat) : Inert r (readU8 off) := map _ (readBytes off 1)
theorem readI8 (off : Nat) : Inert r (readI8 off) := map _ (readU8 off)
theorem readU16 (off : Nat) : Inert r (readU16 off) := map _ (readBytes off 2)
theorem readU32 (off : Nat) : Inert r (readU32 off) := map _ (readBytes off 4)
theorem readU64 (off : Nat) : Inert r (readU64 off) := map _ (readBytes off 8)

/-- A call that is not one of the mirrored ones. -/
theorem callPhy {c : PhyCall} (h : ∀ ra : Radio, ra.afterPhy c = ra) : Inert r (callPhy c) :=
  fun _ => ⟨rfl, h⟩

theorem getPhy {c : PhyCall} (sym : Sym) (h : ∀ ra : Radio, ra.afterPhy c = ra) :
    Inert r (getPhy c sym) := fun _ => ⟨rfl, h⟩

theorem callDrv {c : DrvCall} (h : ∀ ra : Radio, ra.afterDrv c = ra) : Inert r (callDrv c) := by
  refine fun _ => ⟨rfl, fun ra => ?_⟩
  show (if _ then ra.afterDrv c else ra) = ra
  rw [h, ite_self]

theorem callOs (c : OsCall) : Inert r (callOs c) := fun _ => ⟨rfl, fun _ => rfl⟩

theorem hookOpt {sym : Sym} {act : Handler Unit} (h : Inert r act) : Inert r (hookOpt sym act) :=
  bind (ask _) fun _ => ite (bind h fun _ => pure _) (pure _)

theorem ifResolved (sym : Sym) {c : PhyCall} (h : ∀ ra : Radio, ra.afterPhy c = ra) :
    Inert r (ifResolved sym c) := bind (ask _) fun _ => ite (callPhy h) (pure _)

theorem drvOrNs (sym : Sym) {c : DrvCall} (h : ∀ ra : Radio, ra.afterDrv c = ra) :
    Inert r (drvOrNs sym c) :=
  bind (ask _) fun _ => ite (callDrv h) (pure _)

theorem sendSimpleResp (respId op : UInt32) (st : EspErr) : Inert r (sendSimpleResp respId op st) :=
  fun _ => ⟨rfl, fun _ => rfl⟩

theorem sendRespWithBody (respId op : UInt32) (st : EspErr) (body : List UInt8) :
    Inert r (sendRespWithBody respId op st body) :=
  bind (ask _) fun _ => ite (fun _ => ⟨rfl, fun _ => rfl⟩) (sendSimpleResp _ _ _)

theorem unpackReq {t : Packed} {k : UInt32 → Handler Unit} (h : ∀ op, Inert r (k op)) :
    Inert r (unpackReq t k) := bind (ask _) fun _ => ite (pure ()) (bind (readU32 _) h)

theorem answering {t : Packed} {respId : UInt32} {act : Handler EspErr} (h : Inert r act) :
    Inert r (answering t respId act) :=
  unpackReq fun _ => bind h fun _ => sendSimpleResp _ _ _

end Inert

/-- The requests whose handlers write `s_state` or a mirrored setting. -/
def Rpc.writesMirror : Rpc → Bool
  | .setChannel | .setPhy11p | .setTxPower | .setAgcMaxGain | .setCca | .setLowRate | .setFreq
  | .setMostTpw => true
  | _ => false

/-- **All other handlers are inert.** -/
theorem inert_handler {rpc : Rpc} (h : rpc.writesMirror = false) (r : Input) :
    Inert r rpc.handler := by
  cases rpc with
  | setRxGain =>
    refine .answering (.bind (.readU8 _) fun _ => .ite ?_ ?_)
    · refine .bind (.ifResolved _ fun _ => rfl) fun _ => ?_
      exact .bind (.ifResolved _ fun _ => rfl) fun _ => .pure _
    · refine .bind (.ifResolved _ fun _ => rfl) fun _ =>
        .bind (.ifResolved _ fun _ => rfl) fun _ => ?_
      exact .hookOpt (.callPhy fun _ => rfl)
  | getCcaCounters =>
    refine .unpackReq fun _ => .bind (.ask _) fun _ => .ite ?_ (.sendSimpleResp _ _ _)
    exact .bind (.callPhy fun _ => rfl) fun _ => .bind (.ask _) fun _ => .sendRespWithBody _ _ _ _
  | resetCcaCount => exact .answering (.hookOpt (.callPhy fun _ => rfl))
  | setBandwidth =>
    refine .answering (.bind (.ask _) fun _ => .ite (.bind (.readU8 _) fun _ => ?_) (.pure _))
    refine .ite (.bind (.callPhy fun _ => rfl) fun _ => .pure _) ?_
    exact .ite (.bind (.callPhy fun _ => rfl) fun _ => .pure _) (.pure _)
  | getPhyRssi =>
    refine .unpackReq fun _ => .bind (.bind (.ask _) fun _ => ?_) fun _ => .sendRespWithBody _ _ _ _
    refine .ite (.map _ (.getPhy _ fun _ => rfl)) (.bind (.ask _) fun _ => ?_)
    exact .ite (.map _ (.getPhy _ fun _ => rfl)) (.pure _)
  | setCountryPerm => exact .answering (.callDrv fun _ => rfl)
  | getInfo => exact .unpackReq fun _ => .bind (.get _) fun _ => .sendRespWithBody _ _ _ _
  | getCaps => exact .unpackReq fun _ => .bind (.ask _) fun _ => .sendRespWithBody _ _ _ _
  | setBand =>
    refine .answering (.bind (.ask _) fun _ => .ite (.bind (.readU8 _) fun _ => ?_) ?_)
    · exact .bind (.callPhy fun _ => rfl) fun _ => .pure _
    · exact .hookOpt (.bind (.readU8 _) fun _ => .callPhy fun _ => rfl)
  | setBtTxGain =>
    refine .answering (.bind (.ask _) fun _ => .ite (.bind (.readU8 _) fun _ => ?_) ?_)
    · exact .bind (.callPhy fun _ => rfl) fun _ => .pure _
    · exact .hookOpt (.bind (.readU8 _) fun _ => .callPhy fun _ => rfl)
  | setChanFilt => exact .answering (.hookOpt (.bind (.readU32 _) fun _ => .callPhy fun _ => rfl))
  | setBtFilter => exact .answering (.hookOpt (.bind (.readU32 _) fun _ => .callPhy fun _ => rfl))
  | setChan14Mic => exact .answering (.hookOpt (.bind (.readU8 _) fun _ => .callPhy fun _ => rfl))
  | setRate => exact .answering (.hookOpt (.bind (.readU8 _) fun _ => .callPhy fun _ => rfl))
  | setCsiDump => exact .answering (.hookOpt (.bind (.readU8 _) fun _ => .callPhy fun _ => rfl))
  | setLoopback => exact .answering (.hookOpt (.bind (.readU8 _) fun _ => .callPhy fun _ => rfl))
  | resetRxGainTbl => exact .answering (.hookOpt (.callPhy fun _ => rfl))
  | getMostTpw =>
    refine .unpackReq fun _ => .bind (.ask _) fun _ => .ite ?_ (.sendSimpleResp _ _ _)
    exact .bind (.map _ (.getPhy _ fun _ => rfl)) fun _ => .sendRespWithBody _ _ _ _
  | getNoiseFloor =>
    refine .unpackReq fun _ => .bind (.ask _) fun _ => .ite ?_ (.sendSimpleResp _ _ _)
    exact .bind (.map _ (.getPhy _ fun _ => rfl)) fun _ => .sendRespWithBody _ _ _ _
  | getTemperature =>
    refine .unpackReq fun _ => .bind (.ask _) fun _ => .ite ?_ (.sendSimpleResp _ _ _)
    exact .bind (.map _ (.getPhy _ fun _ => rfl)) fun _ => .sendRespWithBody _ _ _ _
  | tx80211 =>
    refine .answering (.bind (.readU16 _) fun _ => .bind (.ask _) fun _ => .ite (.pure _) ?_)
    refine .bind (.readU8 _) fun _ => .bind (.readU8 _) fun _ => .bind (.readBytes _ _) fun _ => ?_
    exact .callDrv fun _ => rfl
  | setPromisc =>
    refine .answering (.bind (.readU8 _) fun _ => .bind (.get _) fun _ =>
      .ite ?_ (.callDrv fun _ => rfl))
    refine .bind (.callOs _) fun _ => .bind (.modify fun _ => rfl) fun _ =>
      .bind (.callOs _) fun _ => ?_
    exact .bind (.callDrv fun _ => rfl) fun _ => .callDrv fun _ => rfl
  | setPromiscFilter => exact .answering (.bind (.readU32 _) fun _ => .callDrv fun _ => rfl)
  | setProtocol =>
    exact .answering (.bind (.readU8 _) fun _ => .bind (.readU8 _) fun _ => .callDrv fun _ => rfl)
  | setMac =>
    exact .answering (.bind (.readU8 _) fun _ => .bind (.readBytes _ _) fun _ =>
      .callDrv fun _ => rfl)
  | setCsiEnable =>
    refine .answering (.bind (.readU8 _) fun _ => .ite (.bind (.callDrv fun _ => rfl) fun _ => ?_)
      (.callDrv fun _ => rfl))
    exact .ite (.callDrv fun _ => rfl) (.pure _)
  | ftmInitiate =>
    refine .answering (.bind (.bind (.get _) fun _ => .ite (.pure _) ?_) fun _ => ?_)
    · exact .bind (.callDrv fun _ => rfl) fun _ => .modify fun _ => rfl
    · refine .bind (.readU8 _) fun _ => .bind (.readU8 _) fun _ => .bind (.readU8 _) fun _ => ?_
      exact .bind (.readBytes _ _) fun _ => .callDrv fun _ => rfl
  | setEventMask => exact .answering (.bind (.readU64 _) fun _ => .pure _)
  | espnowInit =>
    refine .answering (.bind (.callDrv fun _ => rfl) fun _ => .ite ?_ (.pure _))
    exact .bind (.callDrv fun _ => rfl) fun _ => .bind (.callDrv fun _ => rfl) fun _ => .pure _
  | espnowDeinit => exact .answering (.callDrv fun _ => rfl)
  | espnowSetPmk => exact .answering (.bind (.readBytes _ _) fun _ => .callDrv fun _ => rfl)
  | espnowAddPeer =>
    refine .answering (.bind (.readBytes _ _) fun _ => .bind (.readBytes _ _) fun _ => ?_)
    refine .bind (.readU8 _) fun _ => .bind (.readU8 _) fun _ => .bind (.readU8 _) fun _ => ?_
    exact .callDrv fun _ => rfl
  | espnowDelPeer => exact .answering (.bind (.readBytes _ _) fun _ => .callDrv fun _ => rfl)
  | espnowSend =>
    refine .answering (.bind (.readU16 _) fun _ => .bind (.ask _) fun _ => .ite (.pure _) ?_)
    exact .bind (.readBytes _ _) fun _ => .bind (.readBytes _ _) fun _ => .callDrv fun _ => rfl
  | ieee154Enable =>
    exact .answering
      (.bind (.readU8 _) fun _ => .ite (.drvOrNs _ fun _ => rfl) (.drvOrNs _ fun _ => rfl))
  | ieee154SetChan =>
    refine .answering (.bind (.ask _) fun _ => .ite (.bind (.readU8 _) fun _ => ?_) (.pure _))
    exact .ite (.pure _) (.callDrv fun _ => rfl)
  | ieee154SetPanid =>
    refine .answering (.bind (.ask _) fun _ => .ite (.bind (.readU16 _) fun _ => ?_) (.pure _))
    exact .callDrv fun _ => rfl
  | ieee154SetPromisc =>
    refine .answering (.bind (.ask _) fun _ => .ite (.bind (.readU8 _) fun _ => ?_) (.pure _))
    exact .callDrv fun _ => rfl
  | ieee154TxRaw =>
    refine .answering (.bind (.readU16 _) fun _ => .bind (.ask _) fun _ => .ite (.pure _) ?_)
    refine .bind (.ask _) fun _ => .ite (.ite (.pure _) ?_) (.pure _)
    exact .bind (.readBytes _ _) fun _ => .bind (.readU8 _) fun _ => .callDrv fun _ => rfl
  | _ => cases h

/-! ## Writing both sides -/

namespace Mirrors

variable {tuned : Int32 → UInt8 → Prop} {p : PhyState} {ra : Radio}

theorem nothing_applied : Mirrors tuned p {} := by
  constructor <;> intro _ h <;> cases h

theorem storeChannel (h : Mirrors tuned p ra) (ch : UInt8) :
    Mirrors tuned { p with channel := ch }
      { ra with tune := some (.channel ch.toUInt32.toInt32) } :=
  { h with channel := by rintro _ ⟨⟩; rfl }

theorem retune (h : Mirrors tuned p ra) {t : Tune} (ht : t.IsChannel tuned p.channel) :
    Mirrors tuned p { ra with tune := some t } :=
  { h with channel := by rintro _ ⟨⟩; exact ht }

theorem storePower (h : Mirrors tuned p ra) {dbm : Int8} {q : Int} (hq : 4 * dbm.toInt = q) :
    Mirrors tuned { p with txPowerDbm := dbm } { ra with power := some q } :=
  { h with power := by rintro _ ⟨⟩; exact hq }

theorem repower (h : Mirrors tuned p ra) {q : Int} (hq : 4 * p.txPowerDbm.toInt = q) :
    Mirrors tuned p { ra with power := some q } :=
  { h with power := by rintro _ ⟨⟩; exact hq }

theorem storePhy11p (h : Mirrors tuned p ra) (v : UInt8) :
    Mirrors tuned { p with phy11pArmed := v } { ra with phy11p := some v.toUInt32.toInt32 } :=
  { h with phy11p := by rintro _ ⟨⟩; rfl }

theorem rearm (h : Mirrors tuned p ra) (hp : p.phy11pArmed = 1) :
    Mirrors tuned p { ra with phy11p := some 1 } :=
  { h with phy11p := by rintro _ ⟨⟩; rw [hp]; rfl }

theorem storeCca (h : Mirrors tuned p ra) (v : UInt8) :
    Mirrors tuned { p with ccaEnabled := v } { ra with cca := some v } :=
  { h with cca := by rintro _ ⟨⟩; rfl }

theorem storeLowRate (h : Mirrors tuned p ra) (v : UInt8) :
    Mirrors tuned { p with lowRateEnabled := v } { ra with lowRate := some v } :=
  { h with lowRate := by rintro _ ⟨⟩; rfl }

theorem storeAgcMaxGain (h : Mirrors tuned p ra) (v : UInt8) :
    Mirrors tuned { p with agcMaxGain := v } { ra with agcMaxGain := some v.toUInt32.toInt32 } :=
  { h with agcMaxGain := by rintro _ ⟨⟩; rfl }

end Mirrors

/-- The clamp leaves the product alone in 2..21 dBm. -/
theorem txPowerQuarters_eq {dbm : Int8} (hlo : 2 ≤ dbm) (hhi : dbm ≤ 21) :
    4 * dbm.toInt = (txPowerQuarters dbm).toInt := by
  have hlo' : 2 ≤ dbm.toInt := Int8.le_iff_toInt_le.1 hlo
  have hhi' : dbm.toInt ≤ 21 := Int8.le_iff_toInt_le.1 hhi
  rw [txPowerQuarters_toInt (by omega) (by omega)]
  omega

/-- Run from the statics `s` and the radio `ra`, `c` ends with a true mirror. -/
def Leads (tuned : Int32 → UInt8 → Prop) (r : Input) (s : SlaveState) (ra : Radio) {α : Type}
    (c : Handler α) : Prop := Mirrors tuned (c r s).state.phy (radioAfter ra (c r s).events)

namespace Leads

variable {tuned : Int32 → UInt8 → Prop} {r : Input} {s : SlaveState} {ra : Radio} {α β : Type}

theorem pure {a : α} (h : Mirrors tuned s.phy ra) : Leads tuned r s ra
    (Pure.pure a : Handler α) := h

theorem inert {c : Handler α} (hc : Inert r c) (h : Mirrors tuned s.phy ra) :
    Leads tuned r s ra c := by
  unfold Leads
  rw [(hc s).1, (hc s).2]
  exact h

theorem inert_bind {c : Handler α} {k : α → Handler β} (hc : Inert r c) (hs : (c r s).state = s)
    (hk : Leads tuned r s ra (k (c r s).val)) : Leads tuned r s ra (c >>= k) := by
  unfold Leads
  rw [Cmd.bind_eval, radioAfter_append, (hc s).2, hs]
  exact hk

theorem callPhy_bind {c : PhyCall} {k : Unit → Handler β}
    (hk : Leads tuned r s (ra.afterPhy c) (k ())) : Leads tuned r s ra (callPhy c >>= k) := hk

theorem callDrv_bind {c : DrvCall} {k : EspErr → Handler β}
    (hk : Leads tuned r s (ra.after (.drv c (r.env.err c))) (k (r.env.err c))) :
    Leads tuned r s ra (callDrv c >>= k) := hk

theorem setState_bind {f : PhyState → PhyState} {k : Unit → Handler β}
    (hk : Leads tuned r { s with phy := f s.phy } ra (k ())) :
    Leads tuned r s ra (setState f >>= k) := hk

theorem callPhy {c : PhyCall} (h : Mirrors tuned s.phy (ra.afterPhy c)) :
    Leads tuned r s ra (callPhy c) := h

/-- `HOOK_OPT` runs its action or nothing. -/
theorem hookOpt {sym : Sym} {act : Handler Unit} (h : Mirrors tuned s.phy ra)
    (hact : r.env.resolved sym = true → Leads tuned r s ra act) :
    Leads tuned r s ra (hookOpt sym act) := by
  unfold Leads
  rw [hookOpt_eval]
  split
  · exact hact ‹_›
  · exact h

/-- A request that is too short leaves everything as it was. -/
theorem answering {t : Packed} {respId : UInt32} {act : Handler EspErr} (h : Mirrors tuned s.phy ra)
    (hact : t.sizeof ≤ r.data.length → Leads tuned r s ra act) :
    Leads tuned r s ra (answering t respId act) := by
  unfold Leads
  by_cases hlen : t.sizeof ≤ r.data.length
  · have hread : radioAfter ra ((List.range' 0 4).map .read) = ra :=
      (Inert.readBytes 0 4 (r := r) s).2 ra
    rw [answering_state s hlen, answering_events s hlen, radioAfter_append, hread,
      radioAfter_append]
    exact hact hlen
  · have hshort : r.data.length < t.sizeof := Nat.lt_of_not_le hlen
    simpa [EspHostedOpen.answering, EspHostedOpen.unpackReq, hshort] using h

end Leads

/-! ## The writing handlers -/

section Writers

variable {tuned : Int32 → UInt8 → Prop} {r : Input} {s : SlaveState} {ra : Radio}

theorem leads_onSetChannel (h : Mirrors tuned s.phy ra) : Leads tuned r s ra onSetChannel := by
  refine .answering h fun _ => .callDrv_bind (.callDrv_bind ?_)
  have hcountry : ra.after (.drv (.espWifiSetCountry permissiveCountry)
      (r.env.err (.espWifiSetCountry permissiveCountry))) = ra := ite_self _
  rw [hcountry]
  by_cases hch : r.env.err (.espWifiSetChannel 140) = espOk
  · rw [if_pos hch, hch]
    refine .inert_bind (.readU8 _) rfl (.callPhy_bind (.setState_bind (.pure ?_)))
    exact h.storeChannel _
  · rw [if_neg hch]
    refine .pure ?_
    rw [Radio.after, if_neg hch]
    exact h

theorem leads_onSetPhy11p (h : Mirrors tuned s.phy ra) : Leads tuned r s ra onSetPhy11p := by
  refine .answering h fun _ => .inert_bind (.readU8 _) rfl ?_
  exact .callPhy_bind (.setState_bind (.pure (h.storePhy11p _)))

theorem leads_onSetTxPower (h : Mirrors tuned s.phy ra)
    (hrange : Rpc.setTxPower.reqStruct.sizeof ≤ r.data.length →
      let dbm := (UInt8.ofNat (leNat (slice 4 1 r.data))).toInt8
      r.env.err (.espWifiSetMaxTxPower (txPowerQuarters dbm)) = espOk → 2 ≤ dbm ∧ dbm ≤ 21) :
    Leads tuned r s ra onSetTxPower := by
  refine .answering h fun hlen => .inert_bind (.readI8 _) rfl (.callDrv_bind ?_)
  have hr := hrange hlen
  have harg : (readI8 (Rpc.setTxPower.reqStruct.offset 1) r s).val =
      (UInt8.ofNat (leNat (slice 4 1 r.data))).toInt8 := readI8_val _ _ _
  rw [harg]
  generalize (UInt8.ofNat (leNat (slice 4 1 r.data))).toInt8 = dbm at hr ⊢
  by_cases herr : r.env.err (.espWifiSetMaxTxPower (txPowerQuarters dbm)) = espOk
  · rw [if_pos herr, herr]
    obtain ⟨hlo, hhi⟩ := hr herr
    exact .setState_bind (.pure (h.storePower (txPowerQuarters_eq hlo hhi)))
  · rw [if_neg herr]
    refine .pure ?_
    rw [Radio.after, if_neg herr]
    exact h

theorem leads_onSetAgcMaxGain (h : Mirrors tuned s.phy ra) :
    Leads tuned r s ra onSetAgcMaxGain := by
  refine .answering h fun _ => .hookOpt h fun _ => .inert_bind (.readU8 _) rfl ?_
  exact .callPhy_bind (h.storeAgcMaxGain _)

/-- The switches: what the symbol applied is what is stored behind it. -/
theorem leads_onSetSwitch {t : Packed} {respId : UInt32} {onSym offSym : Sym} {on off : PhyCall}
    {store : UInt8 → PhyState → PhyState} (h : Mirrors tuned s.phy ra)
    (hon : Mirrors tuned (store 1 s.phy) (ra.afterPhy on))
    (hoff : Mirrors tuned (store 0 s.phy) (ra.afterPhy off)) :
    Leads tuned r s ra (onSetSwitch t respId onSym offSym on off store) := by
  refine .answering h fun _ => .inert_bind (.readU8 _) rfl ?_
  generalize (readU8 (t.offset 1) r s).val = en
  by_cases hen : en = 0
  · cases hsym : r.env.resolved offSym with
    | true => simpa [Leads, hen, flag, hookOpt_eval, hsym, radioAfter_append] using hoff
    | false => simpa [Leads, hen, hookOpt_eval, hsym, espOk, espErrNotSupported] using h
  · cases hsym : r.env.resolved onSym with
    | true => simpa [Leads, hen, flag, hookOpt_eval, hsym, radioAfter_append] using hon
    | false => simpa [Leads, hen, hookOpt_eval, hsym, espOk, espErrNotSupported] using h

theorem leads_onSetCca (h : Mirrors tuned s.phy ra) : Leads tuned r s ra onSetCca := by
  unfold onSetCca
  exact leads_onSetSwitch h (h.storeCca 1) (h.storeCca 0)

theorem leads_onSetLowRate (h : Mirrors tuned s.phy ra) : Leads tuned r s ra onSetLowRate := by
  unfold onSetLowRate
  exact leads_onSetSwitch h (h.storeLowRate 1) (h.storeLowRate 0)

theorem leads_onSetFreq (h : Mirrors tuned s.phy ra)
    (htuned : Rpc.setFreq.reqStruct.sizeof ≤ r.data.length → r.env.resolved .phySetFreq = true →
      tuned (UInt32.ofNat (leNat (slice 4 4 r.data))).toInt32 s.phy.channel) :
    Leads tuned r s ra onSetFreq := by
  refine .answering h fun hlen => .hookOpt h fun hsym => .inert_bind (.readU32 _) rfl (.callPhy ?_)
  rw [readU32_val]
  exact h.retune (htuned hlen hsym)

theorem leads_onSetMostTpw (h : Mirrors tuned s.phy ra)
    (htpw : Rpc.setMostTpw.reqStruct.sizeof ≤ r.data.length → r.env.resolved .phySetMostTpw = true →
      (UInt8.ofNat (leNat (slice 4 1 r.data))).toInt8.toInt = 4 * s.phy.txPowerDbm.toInt) :
    Leads tuned r s ra onSetMostTpw := by
  refine .answering h fun hlen => .hookOpt h fun hsym => .inert_bind (.readI8 _) rfl (.callPhy ?_)
  rw [readI8_val]
  refine h.repower ?_
  rw [← htpw hlen hsym]
  exact (Int8.toInt_toInt32 _).symm

theorem leads_slavePhyApply {channel : UInt8} (h : Mirrors tuned s.phy ra)
    (hcond : r.env.err (.espWifiSetCountry permissiveCountry) = espOk →
      s.phy.phy11pArmed = 1 ∧
        (r.env.err (.espWifiSetChannel 140) = espOk → s.phy.channel = channel)) :
    Leads tuned r s ra (slavePhyApply channel) := by
  refine .callDrv_bind ?_
  have hcountry : ra.after (.drv (.espWifiSetCountry permissiveCountry)
      (r.env.err (.espWifiSetCountry permissiveCountry))) = ra := ite_self _
  rw [hcountry]
  by_cases hok : r.env.err (.espWifiSetCountry permissiveCountry) = espOk
  · obtain ⟨harmed, htuned⟩ := hcond hok
    have harm := h.rearm harmed
    rw [if_pos hok]
    refine .callPhy_bind (.callDrv_bind ?_)
    by_cases hch : r.env.err (.espWifiSetChannel 140) = espOk
    · rw [if_pos hch, hch]
      refine .callPhy_bind (.inert (.bind (.callDrv fun _ => rfl) fun _ => .pure _) ?_)
      have hchan : s.phy.channel = channel := htuned hch
      exact harm.retune (t := .channel channel.toUInt32.toInt32) (by rw [hchan]; rfl)
    · rw [if_neg hch]
      refine .pure ?_
      rw [Radio.after, if_neg hch]
      exact harm
  · rw [if_neg hok]
    exact .pure h

end Writers

/-! ## Runs -/

/-- **One step** under its condition keeps the mirror true. -/
theorem mirrors_step {tuned : Int32 → UInt8 → Prop} {channel : UInt8} {d d' : Device}
    {a : DeviceAction} (h : Mirrors tuned d.statics.phy d.radio) (hs : Stored tuned channel d a)
    (hstep : d.step channel a = some d') : Mirrors tuned d'.statics.phy d'.radio := by
  cases a with
  | boot env =>
    have hlead : Leads tuned ⟨env, []⟩ d.statics d.radio (slavePhyApply channel) :=
      leads_slavePhyApply h hs
    simp only [Device.step] at hstep
    split at hstep
    · cases hstep
    · split at hstep
      · cases hstep
        exact hlead
      · cases hstep
        exact .nothing_applied
  | wifiReady env =>
    cases hstep
    exact leads_slavePhyApply h hs
  | request rpc env data =>
    simp only [Device.step] at hstep
    split at hstep
    · cases hstep
      suffices hlead : Leads tuned ⟨env, data⟩ d.statics d.radio rpc.handler from hlead
      cases hw : rpc.writesMirror with
      | false => exact .inert (inert_handler hw _) h
      | true =>
        cases rpc with
        | setChannel => exact leads_onSetChannel h
        | setPhy11p => exact leads_onSetPhy11p h
        | setTxPower => exact leads_onSetTxPower h hs
        | setAgcMaxGain => exact leads_onSetAgcMaxGain h
        | setCca => exact leads_onSetCca h
        | setLowRate => exact leads_onSetLowRate h
        | setFreq => exact leads_onSetFreq h hs
        | setMostTpw => exact leads_onSetMostTpw h hs
        | _ => cases hw
    · cases hstep

/-- **A run** whose steps all meet the condition keeps the mirror true. -/
theorem mirrors_run {tuned : Int32 → UInt8 → Prop} {channel : UInt8} {d : Device}
    (h : Reach (Device.step channel) (Stored tuned channel) {} d) :
    Mirrors tuned d.statics.phy d.radio :=
  h.invariant (I := fun d => Mirrors tuned d.statics.phy d.radio) .nothing_applied mirrors_step

/-! ## What the host sees -/

/-- The report decodes to `s_state`. -/
theorem infoOf_reply (op : UInt32) (st : EspErr) (p : PhyState) :
    infoOf (u32Bytes op ++ i32Bytes st ++ infoBody p) = p := by
  have hbody : ∀ k, slice (8 + k) 1 (u32Bytes op ++ i32Bytes st ++ infoBody p) =
      slice k 1 (infoBody p) := by
    intro k
    have hlen : (u32Bytes op ++ i32Bytes st).length = 8 := by
      simp [u32Bytes, i32Bytes]
    rw [slice_append_right _ _ (by omega), hlen, Nat.add_sub_cancel_left]
  have hu8 : ∀ b : UInt8, UInt8.ofNat (leNat [b]) = b := by
    intro b
    rw [leNat_cons, leNat_nil, Nat.mul_zero, Nat.add_zero, UInt8.ofNat_toNat]
  have h8 := hbody 0
  have h9 := hbody 1
  have h10 := hbody 2
  have h11 := hbody 3
  have h12 := hbody 4
  have h13 := hbody 5
  simp only [Nat.reduceAdd] at h8 h9 h10 h11 h12 h13
  simp only [infoOf, h8, h9, h10, h11, h12, h13]
  simp only [slice, infoBody, List.cons_append, List.drop_succ_cons, List.drop_zero,
    List.take_succ_cons, List.take_zero, hu8]
  simp

/-- An `ESP_OK` answer to GET_INFO reports the stored state. -/
theorem infoOf_onGetInfo {r : Input} {s : SlaveState} {m : UInt32 × List UInt8}
    (hm : m ∈ sends (onGetInfo r s).events) (hok : statusOf m.2 = espOk) : infoOf m.2 = s.phy := by
  by_cases hlen : phyRpcHdr.sizeof ≤ r.data.length
  · have hsends : sends (onGetInfo r s).events =
        sends (sendRespWithBody Rpc.getInfo.resp (opIdOf r.data) espOk
          (infoBody s.phy) r s).events := by
      rw [onGetInfo, unpackReq_events s hlen, sends_append]
      simp [sends]
    rw [hsends] at hm
    cases hmal : r.env.malloc with
    | true =>
      simp [sendRespWithBody, hmal] at hm
      subst hm
      have h := infoOf_reply (opIdOf r.data) espOk s.phy
      simpa using h
    | false =>
      simp [sendRespWithBody, sendSimpleResp, hmal] at hm
      subst hm
      have h := statusOf_reply (opIdOf r.data) espErrNoMem []
      rw [List.append_nil] at h
      rw [h] at hok
      exact absurd hok (by decide)
  · have hshort : r.data.length < phyRpcHdr.sizeof := Nat.lt_of_not_le hlen
    simp [onGetInfo, unpackReq, hshort] at hm

/-- **GET_INFO mirrors the radio** in every state reached by steps that store what they apply. -/
theorem getInfo_mirrors_radio (tuned : Int32 → UInt8 → Prop) (channel : UInt8) {d : Device}
    (h : Reach (Device.step channel) (Stored tuned channel) {} d) : GetInfoMirrors tuned d := by
  intro r m hm hok
  rw [infoOf_onGetInfo hm hok]
  exact mirrors_run h

/-- The device after a boot on channel 180 and SET_TX_POWER 20. -/
def poweredOn180 : Device :=
  (run (Device.step 180) {}
    [.boot bareChip, .request .setTxPower bareChip [1, 0, 0, 0, 20]]).getD {}

theorem getInfo_mirrors_poweredOn180 :
    GetInfoMirrors ItsCentre poweredOn180 ∧ poweredOn180.radio.power = some 80 := by
  have hboot : Reach (Device.step 180) (Stored ItsCentre 180) {} _ :=
    Reach.init.step (a := .boot bareChip) (fun _ => ⟨rfl, fun _ => rfl⟩) rfl
  have hpower : Reach (Device.step 180) (Stored ItsCentre 180) {} poweredOn180 :=
    hboot.step (a := .request .setTxPower bareChip [1, 0, 0, 0, 20]) (fun _ _ => by decide) rfl
  exact ⟨getInfo_mirrors_radio ItsCentre 180 hpower, rfl⟩

/-- SET_TX_POWER 32: the product wraps to -128, the radio gets 8 quarter dBm and GET_INFO says 32
dBm. -/
theorem setTxPower_breaks_mirror :
    ∃ d, run (Device.step 180) {} [.boot bareChip, .request .setTxPower bareChip [1, 0, 0, 0, 32]] =
        some d ∧ d.radio.power = some 8 ∧ ¬GetInfoMirrors ItsCentre d := by
  refine ⟨_, rfl, rfl, fun h => ?_⟩
  have hrep := h ⟨bareChip, [2, 0, 0, 0]⟩ _ (List.mem_singleton.2 rfl) (by decide)
  exact absurd (hrep.power 8 rfl) (by decide)

end EspHostedOpen
