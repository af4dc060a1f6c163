import EspHostedOpen.Slave.Status

/-!
# Refused PHY requests

A setter of `phy_rpc_handlers.c` that answers an error should have changed nothing: no `libphy.a`
call, no Wi-Fi setting, no `s_state`. `RefusedUnchanged` says so about one request;
`refusedUnchanged_iff` gives the exact condition, which only two of the 21 setters can miss.
`on_set_channel` opens the country before it tries the channel, and `on_set_rx_gain` stops the AGC
before it looks for `phy_force_rx_gain`.
-/

namespace EspHostedOpen

open ByteCodec

/-! ## Wi-Fi settings -/

/-- The driver settings the PHY handlers write. -/
structure WifiSettings where
  country : WifiCountry
  channel : UInt8
  maxTxPower : Int8
  deriving DecidableEq

/-- A call that succeeds changes its setting, one that fails changes none. -/
def WifiSettings.after (w : WifiSettings) : Event → WifiSettings
  | .drv (.espWifiSetCountry c) err => if err = espOk then { w with country := c } else w
  | .drv (.espWifiSetChannel ch) err => if err = espOk then { w with channel := ch } else w
  | .drv (.espWifiSetMaxTxPower p) err => if err = espOk then { w with maxTxPower := p } else w
  | _ => w

def settingsAfter (w : WifiSettings) (es : List Event) : WifiSettings :=
    es.foldl WifiSettings.after w

@[simp] theorem settingsAfter_nil (w : WifiSettings) : settingsAfter w [] = w := rfl

@[simp] theorem settingsAfter_cons (w : WifiSettings) (e : Event) (es : List Event) :
    settingsAfter w (e :: es) = settingsAfter (w.after e) es := rfl

theorem settingsAfter_append (w : WifiSettings) (es es' : List Event) :
    settingsAfter w (es ++ es') = settingsAfter (settingsAfter w es) es' := List.foldl_append

/-! ## The property -/

/-- The setters of `phy_rpc_handlers.c`. -/
def Rpc.phySetter : Rpc → Bool
  | .setChannel | .setPhy11p | .setTxPower | .setRxGain | .setAgcMaxGain | .setCca | .resetCcaCount
  | .setLowRate | .setBandwidth | .setCountryPerm | .setFreq | .setBand | .setChanFilt
  | .setChan14Mic | .setRate | .setMostTpw | .resetRxGainTbl | .setCsiDump | .setLoopback
  | .setBtTxGain | .setBtFilter => true
  | _ => false

/-- If the answer is an error, nothing was called, set or remembered. -/
def RefusedUnchanged (rpc : Rpc) (r : Input) (s : SlaveState) (w : WifiSettings) : Prop :=
  ∀ st, replyStatus (rpc.handler r s).events = some st → st ≠ espOk →
    phyCalls (rpc.handler r s).events = [] ∧
      settingsAfter w (rpc.handler r s).events = w ∧ (rpc.handler r s).state.phy = s.phy

/-- No step that can fail stands behind one that changes something. -/
def RefusesFirst (rpc : Rpc) (r : Input) (w : WifiSettings) : Prop :=
  match rpc with
  -- the country stays permissive when the channel is refused
  | .setChannel => r.env.err (.espWifiSetCountry permissiveCountry) = espOk →
      r.env.err (.espWifiSetChannel 140) ≠ espOk → w.country = permissiveCountry
  -- the AGC is off and the gain forced when the gain itself cannot be set
  | .setRxGain => UInt8.ofNat (leNat (slice 4 1 r.data)) ≠ 0xFF →
      r.env.resolved .phyForceRxGain = false →
      r.env.resolved .phyDisableAgc = false ∧ r.env.resolved .phyRxGainForce = false
  | _ => True

/-! ## Actions -/

/-- The same about an action: its value is the status. -/
def Clean (w : WifiSettings) (s : SlaveState) (o : Outcome SlaveState Event EspErr) : Prop :=
  o.val ≠ espOk → phyCalls o.events = [] ∧ settingsAfter w o.events = w ∧ o.state.phy = s.phy

section Actions

variable {r : Input} {s : SlaveState} {w : WifiSettings}

@[simp] theorem settingsAfter_reads (l : List Nat) : settingsAfter w (l.map .read) = w := by
  induction l with
  | nil => rfl
  | cons i l ih => exact ih

/-- The handler adds the read of the op_id and the reply, which change nothing. -/
theorem refusedUnchanged_answering {rpc : Rpc} {act : Handler EspErr}
    (hh : rpc.handler = answering rpc.reqStruct rpc.resp act)
    (hlen : rpc.reqStruct.sizeof ≤ r.data.length) :
    RefusedUnchanged rpc r s w ↔ Clean w s (act r s) := by
  unfold RefusedUnchanged Clean
  rw [hh, replyStatus_answering s hlen, answering_events s hlen, answering_state s hlen]
  have hphy : phyCalls ((List.range' 0 4).map .read ++ ((act r s).events ++
      [.send rpc.resp (u32Bytes (opIdOf r.data) ++ i32Bytes (act r s).val)])) =
      phyCalls (act r s).events := by
    rw [phyCalls_append, phyCalls_reads, List.nil_append, phyCalls_append, phyCalls_send,
      phyCalls_nil, List.append_nil]
  have hset : settingsAfter w ((List.range' 0 4).map .read ++ ((act r s).events ++
      [.send rpc.resp (u32Bytes (opIdOf r.data) ++ i32Bytes (act r s).val)])) =
      settingsAfter w (act r s).events := by
    rw [settingsAfter_append, settingsAfter_reads, settingsAfter_append]
    rfl
  rw [hphy, hset]
  constructor
  · intro h hne
    exact h _ rfl hne
  · intro h st hst hne
    exact h (Option.some_inj.1 hst ▸ hne)

/-- A request that is too short is not answered at all. -/
theorem refusedUnchanged_short {rpc : Rpc} (hshort : r.data.length < rpc.reqStruct.sizeof) :
    RefusedUnchanged rpc r s w := by
  intro st hst
  have hnone : sends (rpc.handler r s).events = [] := by
    have h := (handler_obeys rpc r s).2
    rwa [if_pos hshort] at h
  rw [replyStatus, hnone] at hst
  cases hst

theorem clean_of_ok {o : Outcome SlaveState Event EspErr} (h : o.val = espOk) : Clean w s o :=
  fun hne => absurd h hne

theorem clean_hookOpt (sym : Sym) (act : Handler Unit) : Clean w s (hookOpt sym act r s) := by
  rw [hookOpt_eval]
  split
  · exact clean_of_ok rfl
  · exact fun _ => ⟨rfl, rfl, rfl⟩

/-- Reading an argument first changes nothing. -/
theorem clean_readU8 {off : Nat} {k : UInt8 → Handler EspErr}
    (hk : Clean w s (k (UInt8.ofNat (leNat (slice off 1 r.data))) r s)) :
    Clean w s ((readU8 off >>= k) r s) := by
  intro hne
  rw [Cmd.bind_eval] at hne ⊢
  simp only [readU8_val, readU8_state] at hne ⊢
  obtain ⟨hphy, hset, hstate⟩ := hk hne
  rw [readU8_events, phyCalls_append, phyCalls_reads, settingsAfter_append, settingsAfter_reads]
  exact ⟨hphy, hset, hstate⟩

theorem clean_onSetEither {rpc : Rpc} {sym sym' : Sym} {call call' : Int32 → PhyCall}
    (hh : rpc.handler = onSetEither rpc.reqStruct rpc.resp sym sym' call call')
    (hlen : rpc.reqStruct.sizeof ≤ r.data.length) : RefusedUnchanged rpc r s w := by
  rw [refusedUnchanged_answering hh hlen]
  cases hsym : r.env.resolved sym with
  | true => exact clean_of_ok (by simp [hsym])
  | false =>
    have h := clean_hookOpt (w := w) (s := s) (r := r) sym' (readU8 (rpc.reqStruct.offset 1) >>=
      fun v => callPhy (call' v.toUInt32.toInt32))
    simpa [hsym] using h

theorem clean_onSetSwitch {rpc : Rpc} {onSym offSym : Sym} {on off : PhyCall}
    {store : UInt8 → PhyState → PhyState}
    (hh : rpc.handler = onSetSwitch rpc.reqStruct rpc.resp onSym offSym on off store)
    (hlen : rpc.reqStruct.sizeof ≤ r.data.length) : RefusedUnchanged rpc r s w := by
  rw [refusedUnchanged_answering hh hlen]
  refine clean_readU8 ?_
  generalize UInt8.ofNat (leNat (slice (rpc.reqStruct.offset 1) 1 r.data)) = en
  by_cases hen : en = 0
  · cases hoff : r.env.resolved offSym with
    | true => exact clean_of_ok (by simp [hen, hookOpt_eval, hoff])
    | false => exact fun _ => by simp [hen, hookOpt_eval, hoff, espOk, espErrNotSupported]
  · cases hon : r.env.resolved onSym with
    | true => exact clean_of_ok (by simp [hen, hookOpt_eval, hon])
    | false => exact fun _ => by simp [hen, hookOpt_eval, hon, espOk, espErrNotSupported]

/-- `on_set_channel`: two driver calls, the outcome of the first ignored. -/
theorem clean_onSetChannel (hlen : Rpc.setChannel.reqStruct.sizeof ≤ r.data.length) :
    RefusedUnchanged .setChannel r s w ↔ RefusesFirst .setChannel r w := by
  rw [refusedUnchanged_answering rfl hlen]
  by_cases hch : r.env.err (.espWifiSetChannel 140) = espOk
  · simp [Clean, RefusesFirst, hch]
  · by_cases hco : r.env.err (.espWifiSetCountry permissiveCountry) = espOk
    · have hsame : { w with country := permissiveCountry } = w ↔ w.country = permissiveCountry :=
        ⟨fun h => (congrArg WifiSettings.country h).symm, fun h => by rw [← h]⟩
      simp [Clean, RefusesFirst, WifiSettings.after, hch, hco, hsame]
    · simp [Clean, RefusesFirst, WifiSettings.after, hch, hco]

theorem clean_onSetTxPower (hlen : Rpc.setTxPower.reqStruct.sizeof ≤ r.data.length) :
    RefusedUnchanged .setTxPower r s w := by
  rw [refusedUnchanged_answering rfl hlen]
  simp only [Cmd.bind_eval, readI8_val, readI8_state, callDrv_eval, Cmd.ite_eval]
  generalize (UInt8.ofNat (leNat (slice (Rpc.setTxPower.reqStruct.offset 1) 1 r.data))).toInt8 = dbm
  by_cases herr : r.env.err (.espWifiSetMaxTxPower (txPowerQuarters dbm)) = espOk
  · refine clean_of_ok ?_
    simp only [if_pos herr]
    exact herr
  · intro _
    simp only [if_neg herr, readI8_events, Cmd.pure_eval, phyCalls_append, phyCalls_reads,
      settingsAfter_append, settingsAfter_reads, List.append_nil]
    simp [WifiSettings.after, herr]

theorem clean_onSetRxGain (hlen : Rpc.setRxGain.reqStruct.sizeof ≤ r.data.length) :
    RefusedUnchanged .setRxGain r s w ↔ RefusesFirst .setRxGain r w := by
  have harg : UInt8.ofNat (leNat (slice (Rpc.setRxGain.reqStruct.offset 1) 1 r.data)) =
      UInt8.ofNat (leNat (slice 4 1 r.data)) := rfl
  rw [refusedUnchanged_answering rfl hlen]
  simp only [Clean, RefusesFirst, Cmd.bind_eval, readU8_val, readU8_state, readU8_events, harg,
    Cmd.ite_eval]
  generalize UInt8.ofNat (leNat (slice 4 1 r.data)) = gain
  by_cases hrel : gain = 0xFF
  · simp [hrel]
  · cases hforce : r.env.resolved .phyForceRxGain with
    | true => simp [hrel, hookOpt_eval, hforce]
    | false =>
      simp only [hrel, if_false, ifResolved_eval, hookOpt_eval, hforce,
        Bool.false_eq_true, phyCalls_append, phyCalls_reads, settingsAfter_append,
        settingsAfter_reads, ne_eq, not_false_eq_true, true_implies]
      cases r.env.resolved .phyDisableAgc <;> cases r.env.resolved .phyRxGainForce <;>
        simp [WifiSettings.after, espOk, espErrNotSupported]

theorem clean_onSetBandwidth (hlen : Rpc.setBandwidth.reqStruct.sizeof ≤ r.data.length) :
    RefusedUnchanged .setBandwidth r s w := by
  rw [refusedUnchanged_answering rfl hlen]
  cases hsym : r.env.resolved .phyBbBssCbw40 with
  | false => exact fun _ => by simp [hsym]
  | true =>
    suffices h : Clean w s ((readU8 (Rpc.setBandwidth.reqStruct.offset 1) >>= fun bwMhz =>
        if bwMhz = 40 then do
          callPhy (.phyBbBssCbw40 1)
          pure espOk
        else if bwMhz = 20 then do
          callPhy (.phyBbBssCbw40 0)
          pure espOk
        else pure espErrInvalidArg) r s) by
      simpa [hsym] using h
    refine clean_readU8 ?_
    rw [Cmd.ite_eval, Cmd.ite_eval]
    split
    · exact clean_of_ok rfl
    · split
      · exact clean_of_ok rfl
      · exact fun _ => ⟨rfl, rfl, rfl⟩

theorem clean_onSetCountryPermissive (hlen : Rpc.setCountryPerm.reqStruct.sizeof ≤ r.data.length) :
    RefusedUnchanged .setCountryPerm r s w := by
  rw [refusedUnchanged_answering rfl hlen]
  intro hne
  rw [callDrv_eval] at hne ⊢
  refine ⟨rfl, ?_, rfl⟩
  simp only [settingsAfter_cons, settingsAfter_nil, WifiSettings.after]
  exact if_neg hne

end Actions

/-! ## All setters -/

/-- **Exactly when a refused setter changes nothing.** A request shorter than its structure is not
answered. -/
theorem refusedUnchanged_iff {rpc : Rpc} (hset : rpc.phySetter = true) (r : Input) (s : SlaveState)
    (w : WifiSettings) :
    RefusedUnchanged rpc r s w ↔
      (rpc.reqStruct.sizeof ≤ r.data.length → RefusesFirst rpc r w) := by
  by_cases hlen : rpc.reqStruct.sizeof ≤ r.data.length
  · simp only [hlen, true_implies]
    cases rpc with
    | setChannel => exact clean_onSetChannel hlen
    | setRxGain => exact clean_onSetRxGain hlen
    | setPhy11p =>
      exact iff_of_true ((refusedUnchanged_answering rfl hlen).2 (clean_of_ok rfl)) trivial
    | setTxPower => exact iff_of_true (clean_onSetTxPower hlen) trivial
    | setBandwidth => exact iff_of_true (clean_onSetBandwidth hlen) trivial
    | setCountryPerm => exact iff_of_true (clean_onSetCountryPermissive hlen) trivial
    | setCca => exact iff_of_true (clean_onSetSwitch (rfl : _ = onSetCca) hlen) trivial
    | setLowRate => exact iff_of_true (clean_onSetSwitch (rfl : _ = onSetLowRate) hlen) trivial
    | setBand => exact iff_of_true (clean_onSetEither (rfl : _ = onSetBand) hlen) trivial
    | setBtTxGain => exact iff_of_true (clean_onSetEither (rfl : _ = onSetBtTxGain) hlen) trivial
    | setAgcMaxGain | resetCcaCount | setFreq | setChanFilt | setChan14Mic | setRate | setMostTpw
    | resetRxGainTbl | setCsiDump | setLoopback | setBtFilter =>
      exact iff_of_true ((refusedUnchanged_answering rfl hlen).2 (clean_hookOpt _ _)) trivial
    | _ => cases hset
  · exact iff_of_true (refusedUnchanged_short (Nat.lt_of_not_le hlen)) fun h => absurd h hlen

theorem setFreq_refusedUnchanged_bareChip :
    RefusedUnchanged .setFreq ⟨bareChip, [1, 0, 0, 0, 0x3C, 0x14, 0, 0]⟩ {}
      ⟨permissiveCountry, 1, 80⟩ :=
  (refusedUnchanged_iff rfl ⟨bareChip, [1, 0, 0, 0, 0x3C, 0x14, 0, 0]⟩ {}
    ⟨permissiveCountry, 1, 80⟩).2 fun _ => trivial

/-- A chip whose driver refuses the channel. -/
def channelRefused : Env :=
  { bareChip with err := fun | .espWifiSetChannel _ => espErrInvalidArg | _ => espOk }

/-- SET_CHANNEL answers `ESP_ERR_INVALID_ARG` and leaves the station in the permissive country. -/
theorem setChannel_refused_leaves_country :
    ¬RefusedUnchanged .setChannel ⟨channelRefused, [1, 0, 0, 0, 180]⟩ {}
      ⟨{ cc := "CN", schan := 1, nchan := 13, maxTxPower := 20, manual := false }, 1, 80⟩ := by
  rw [clean_onSetChannel (by decide)]
  show ¬(espOk = espOk → espErrInvalidArg ≠ espOk → (_ : WifiCountry) = permissiveCountry)
  decide

end EspHostedOpen
