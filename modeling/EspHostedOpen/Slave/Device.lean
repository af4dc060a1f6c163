import EspHostedOpen.Lib.Transition
import EspHostedOpen.Slave.Table

/-!
# The slave as a running device (`phy_rpc_overlay.c`)

`slave_phy_apply` and the system it is part of: a `Device` is the statics of the overlay and what
was last applied to the radio. It boots, re-applies the 802.11p set-up on every Wi-Fi-ready event
and runs request handlers in any order. Every step has an `Env` of its own, so each call can succeed
or fail each time.
-/

namespace EspHostedOpen

/-- `slave_phy_apply`. -/
def slavePhyApply (ieeeChan : UInt8) : Handler EspErr := do
  let err ← callDrv (.espWifiSetCountry permissiveCountry)
  if err = espOk then
    callPhy (.phy11pSet 1 0)
    let err ← callDrv (.espWifiSetChannel 140)
    if err = espOk then
      callPhy (.phyChangeChannel ieeeChan.toUInt32.toInt32 1 0 0)
      let _ ← callDrv .espWifiSetPsNone
      pure espOk
    else pure err
  else pure err

/-- The centre frequency `slave_phy_apply` logs for a channel. -/
def ItsCentre (mhz : Int32) (ch : UInt8) : Prop := mhz = 5000 + 5 * ch.toUInt32.toInt32

/-! ## The radio -/

/-- How the synthesizer was last tuned: by channel number or by frequency. -/
inductive Tune
  | channel (ch : Int32)
  | freq (mhz : Int32)
  deriving DecidableEq, Repr

/-- What was last applied to the radio, `none` where nothing was since boot. -/
structure Radio where
  tune : Option Tune := none
  power : Option Int := none
  phy11p : Option Int32 := none
  cca : Option UInt8 := none
  lowRate : Option UInt8 := none
  agcMaxGain : Option Int32 := none
  deriving DecidableEq, Repr

/-- A call into the radio applies its value. TX power is in quarter dBm on both paths. -/
def Radio.afterPhy (ra : Radio) : PhyCall → Radio
  | .phyChangeChannel ch _ _ _ => { ra with tune := some (.channel ch) }
  | .phySetFreq mhz => { ra with tune := some (.freq mhz) }
  | .phySetMostTpw tpw => { ra with power := some tpw.toInt }
  | .phy11pSet en _ => { ra with phy11p := some en }
  | .phyEnableCca => { ra with cca := some 1 }
  | .phyDisableCca => { ra with cca := some 0 }
  | .phyEnableLowRate => { ra with lowRate := some 1 }
  | .phyDisableLowRate => { ra with lowRate := some 0 }
  | .phyAgcMaxGainSet g => { ra with agcMaxGain := some g }
  | _ => ra

/-- What a driver call applies where it succeeds. -/
def Radio.afterDrv (ra : Radio) : DrvCall → Radio
  | .espWifiSetChannel ch => { ra with tune := some (.channel ch.toUInt32.toInt32) }
  | .espWifiSetMaxTxPower q => { ra with power := some q.toInt }
  | _ => ra

def Radio.after (ra : Radio) : Event → Radio
  | .phy c => ra.afterPhy c
  | .drv c err => if err = espOk then ra.afterDrv c else ra
  | _ => ra

@[simp] theorem Radio.after_phy (ra : Radio) (c : PhyCall) : ra.after
    (.phy c) = ra.afterPhy c := rfl

def radioAfter (ra : Radio) (es : List Event) : Radio := es.foldl Radio.after ra

@[simp] theorem radioAfter_nil (ra : Radio) : radioAfter ra [] = ra := rfl

@[simp] theorem radioAfter_cons (ra : Radio) (e : Event) (es : List Event) :
    radioAfter ra (e :: es) = radioAfter (ra.after e) es := rfl

theorem radioAfter_append (ra : Radio) (es es' : List Event) :
    radioAfter ra (es ++ es') = radioAfter (radioAfter ra es) es' := List.foldl_append

/-! ## The device -/

structure Device where
  statics : SlaveState := {}
  radio : Radio := {}
  booted : Bool := false
  deriving DecidableEq, Repr

inductive DeviceAction
  | boot (env : Env)
  | wifiReady (env : Env)
  | request (rpc : Rpc) (env : Env) (data : List UInt8)

/-- What a piece of the slave's code leaves of the device. -/
def Device.exec {α : Type} (d : Device) (c : Handler α) (r : Input) : Device :=
  { d with statics := (c r d.statics).state, radio := radioAfter d.radio (c r d.statics).events }

/-- One step, for the configured channel. `ESP_ERROR_CHECK` restarts a device whose boot fails;
requests are served once boot has registered the handlers. -/
def Device.step (channel : UInt8) (d : Device) : DeviceAction → Option Device
  | .boot env =>
    if d.booted then none
    else if (slavePhyApply channel ⟨env, []⟩ d.statics).val = espOk then
      some { d.exec (slavePhyApply channel) ⟨env, []⟩ with booted := true }
    else some {}
  | .wifiReady env => some (d.exec (slavePhyApply channel) ⟨env, []⟩)
  | .request rpc env data => if d.booted then some (d.exec rpc.handler ⟨env, data⟩) else none

end EspHostedOpen
