import EspHostedOpen.Lib.Transition
import EspHostedOpen.Proto.Messages

/-!
# The init of Wi-Fi, and when it is skipped (`slave_wifi_std.c`)

`__wrap_esp_wifi_init` answers for `esp_wifi_init`. Two statics and a cached configuration stand for
what the driver is doing, and three lists of members are kept by hand: what `req_wifi_init` sets,
what `get_merged_init_config` takes from the host and what `wifi_init_config_changed` compares.

The driver is not part of the source. It answers as it likes; `ESP_OK` from its deinit means that it
is not initialised any more, and from its init that it is.
-/

namespace EspHostedOpen.WifiReinit

open Transition

/-- The members of `wifi_init_config_t` that a host configures. -/
inductive Field
  | staticRxBufNum | dynamicRxBufNum | txBufType | staticTxBufNum | dynamicTxBufNum | rxMgmtBufType
  | rxMgmtBufNum | cacheTxBufNum | csiEnable | ampduRxEnable | ampduTxEnable
  | amsduTxEnable | nvsEnable
  | nanoEnable | rxBaWin | wifiTaskCoreId | beaconMaxLen | mgmtSbufNum | featureCaps
  | staDisconnectedPm
  | espnowMaxEncryptNum | txHetbQueueNum | dumpHesigbEnable | magic
  deriving DecidableEq, Repr

/-- `wifi_init_config_t`, and `WifiInitConfig` of the request. -/
abbrev WifiInitConfig := Field → Int

/-- Assignment to a member; one of them is an `int32_t` in the request and a `bool` in the
driver. -/
def assign : Field → Int → Int
  | .dumpHesigbEnable, v => if v = 0 then 0 else 1
  | _, v => v

/-- The macros of IDF. -/
structure Defaults where
  config : WifiInitConfig                        -- `WIFI_INIT_CONFIG_DEFAULT()`
  enableCacheTxBuffer : Bool                     -- `WIFI_ENABLE_CACHE_TX_BUFFER`
  cacheTxBufferNum : Int                         -- `WIFI_CACHE_TX_BUFFER_NUM`
  featureCaps : Int                              -- `WIFI_FEATURE_CAPS`
  esp32c2 : Bool                                 -- `CONFIG_IDF_TARGET_ESP32C2`

/-- The members that `get_merged_init_config` always takes from the host. -/
def useHostValue : List Field :=
  [.staticRxBufNum, .dynamicRxBufNum, .txBufType, .staticTxBufNum, .dynamicTxBufNum, .rxMgmtBufType,
   .rxMgmtBufNum, .csiEnable, .ampduRxEnable, .ampduTxEnable, .amsduTxEnable, .nvsEnable,
     .nanoEnable, .rxBaWin,
   .wifiTaskCoreId, .beaconMaxLen, .mgmtSbufNum, .staDisconnectedPm, .espnowMaxEncryptNum,
     .txHetbQueueNum,
   .dumpHesigbEnable, .magic]

/-- `get_merged_init_config`. -/
def getMergedInitConfig (d : Defaults) (dst src : WifiInitConfig) : WifiInitConfig := fun f =>
  if f ∈ useHostValue then assign f (src f)
  else if f = .cacheTxBufNum ∨ f = .featureCaps then
    if d.enableCacheTxBuffer then src f
    else if d.featureCaps ≠ src .featureCaps then
      if f = .cacheTxBufNum then d.cacheTxBufferNum else d.featureCaps
    else src f
  else dst f

/-- The members that `req_wifi_init` sets before it merges. -/
def reqFields : List Field :=
  [.staticRxBufNum, .dynamicRxBufNum, .txBufType, .staticTxBufNum, .dynamicTxBufNum,
    .cacheTxBufNum, .csiEnable,
   .ampduRxEnable, .ampduTxEnable, .amsduTxEnable, .nvsEnable, .nanoEnable, .rxBaWin,
     .wifiTaskCoreId,
   .beaconMaxLen, .mgmtSbufNum, .featureCaps, .staDisconnectedPm, .espnowMaxEncryptNum, .magic]

/-- The low-memory setting of the ESP32-C2. -/
def hardcodeC2 (cfg : WifiInitConfig) : WifiInitConfig :=
  if cfg .txBufType = 0 then
    fun f =>
      if f = .txBufType then 1
      else if f = .dynamicTxBufNum ∧ cfg .dynamicTxBufNum = 0 then 16
      else cfg f
  else cfg

/-- The configuration that `req_wifi_init` passes to `esp_wifi_init`. -/
def reqConfig (d : Defaults) (src : WifiInitConfig) : WifiInitConfig :=
  let cfg : WifiInitConfig := fun f => if f ∈ reqFields then assign f (src f) else d.config f
  getMergedInitConfig d (if d.esp32c2 then hardcodeC2 cfg else cfg) src

/-- The members that `wifi_init_config_changed` compares. -/
def comparedFields : List Field :=
  [.staticRxBufNum, .dynamicRxBufNum, .txBufType, .staticTxBufNum, .dynamicTxBufNum,
    .cacheTxBufNum, .csiEnable,
   .ampduRxEnable, .ampduTxEnable, .amsduTxEnable, .nvsEnable, .nanoEnable, .rxBaWin,
     .wifiTaskCoreId,
   .beaconMaxLen, .mgmtSbufNum, .featureCaps, .staDisconnectedPm, .espnowMaxEncryptNum, .magic]

/-- `wifi_init_config_changed`. -/
def wifiInitConfigChanged (new : Option WifiInitConfig) (cached : WifiInitConfig) : Bool :=
  match new with
  | none => true
  | some new => comparedFields.any fun f => new f != cached f

/-! ## State -/

/-- The statics, and the driver with the configuration it runs with. `skipped` is for the statements
only: the configuration of the last call, if it was answered without the real init. -/
structure State where
  wifiInitialized : Bool := false
  cachedWifiInitConfig : Option WifiInitConfig := none
  driver : Option WifiInitConfig := none
  skipped : Option WifiInitConfig := none

/-- What the driver answers; `takes` is whether an init of an initialised driver changes its
configuration. -/
structure Answers where
  deinit : EspErr := espOk
  init : EspErr := espOk
  takes : Bool := false

/-- `esp_wifi_deinit`. -/
def espWifiDeinit (ans : Answers) (s : State) : State :=
    if ans.deinit = espOk then { s with driver := none } else s

/-- `__real_esp_wifi_init`. -/
def realEspWifiInit (config : Option WifiInitConfig) (ans : Answers) (s : State) : EspErr × State :=
  match config with
  | none => (espErrInvalidArg, s)
  | some cfg =>
    if ans.init = espOk then
      (espOk, if s.driver.isSome && !ans.takes then s else { s with driver := some cfg })
    else (ans.init, s)

/-- `__wrap_esp_wifi_init` behind its tests. -/
def wrapReal (config : Option WifiInitConfig) (ans : Answers) (s : State) : EspErr × State :=
  let s := match config with
    | some cfg => { s with cachedWifiInitConfig := some cfg }
    | none => s
  let (ret, s) := realEspWifiInit config ans s
  (ret, if ret = espOk then { s with wifiInitialized := true } else s)

/-- `__wrap_esp_wifi_init`. -/
def wrapEspWifiInit (config : Option WifiInitConfig) (ans : Answers) (s : State) : EspErr × State :=
  if s.wifiInitialized then
    if s.cachedWifiInitConfig.any (wifiInitConfigChanged config) then
      wrapReal config ans { espWifiDeinit ans s with wifiInitialized := false }
    else (espOk, { s with skipped := config })
  else wrapReal config ans s

/-- `calloc` is for the response of a request. -/
inductive Action
  | reqWifiInit (calloc : Bool) (cfg : Option WifiInitConfig) (ans : Answers)
  | reqWifiDeinit (calloc : Bool) (ans : Answers)
  | internal (config : Option WifiInitConfig) (ans : Answers)

/-- The configuration that an action passes to `__wrap_esp_wifi_init`, with the driver's answers. -/
def Action.wrapped (d : Defaults) : Action → Option (Option WifiInitConfig × Answers)
  | .reqWifiInit calloc cfg ans => if calloc then cfg.map fun cfg =>
    (some (reqConfig d cfg), ans) else none
  | .internal config ans => some (config, ans)
  | .reqWifiDeinit .. => none

def step (d : Defaults) (s : State) (a : Action) : Option State :=
  let s := { s with skipped := none }
  match a with
  | .reqWifiDeinit calloc ans =>
    some (if calloc then espWifiDeinit ans { s with wifiInitialized := false } else s)
  | .reqWifiInit .. | .internal .. =>
    match a.wrapped d with
    | some (config, ans) => some (wrapEspWifiInit config ans s).2
    | none => some s

/-! ## What is asked of it -/

/-- **Skipping is sound**: the flag says whether the driver is initialised, and a call answered
without an init asked for what the driver is running with. -/
structure Sound (s : State) : Prop where
  flag : s.wifiInitialized = true ↔ s.driver.isSome = true
  skipped : ∀ c ∈ s.skipped, ∃ r ∈ s.driver, ∀ f, r f = c f

/-- The members that are taken from the host and not compared. -/
def missed : List Field := [.rxMgmtBufType, .rxMgmtBufNum, .txHetbQueueNum, .dumpHesigbEnable]

/-- A deinit succeeds if there is something to deinitialise, and a configuration that differs from
the cached one does so in a member that is compared. -/
def Guard (d : Defaults) (s : State) (a : Action) : Prop :=
  match a with
  | .reqWifiDeinit calloc ans => calloc = true → s.driver.isSome = true → ans.deinit = espOk
  | .reqWifiInit .. | .internal .. =>
    ∀ config ans, a.wrapped d = some (config, ans) → s.wifiInitialized = true →
      ∀ cached ∈ s.cachedWifiInitConfig,
        if wifiInitConfigChanged config cached then ans.deinit = espOk
        else ∀ c ∈ config, ∀ f ∈ missed, c f = cached f

/-! ## It is, under the guard -/

/-- The statics describe the driver. -/
structure Coherent (s : State) : Prop where
  flag : s.wifiInitialized = true ↔ s.driver.isSome = true
  tracks : s.wifiInitialized = true → s.cachedWifiInitConfig = s.driver
  skipped : ∀ c ∈ s.skipped, s.driver = some c

theorem Coherent.sound {s : State} (h : Coherent s) : Sound s where
  flag := h.flag
  skipped c hc := ⟨c, h.skipped c hc, fun _ => rfl⟩

/-- What a step forgets. -/
theorem Coherent.forget {s : State} (h : Coherent s) : Coherent { s with skipped := none } :=
  ⟨h.flag, h.tracks, nofun⟩

/-- Nothing is initialised, and the flag says so. -/
structure Idle (s : State) : Prop where
  flag : s.wifiInitialized = false
  driver : s.driver = none
  skipped : s.skipped = none

theorem Idle.coherent {s : State} (h : Idle s) : Coherent s := by
  constructor
  · rw [h.flag, h.driver]
    rfl
  · intro hflag
    exact absurd (h.flag.symm.trans hflag) Bool.false_ne_true
  · intro c hc
    rw [h.skipped] at hc
    cases hc

/-- The deinit does not look at the flag. -/
theorem espWifiDeinit_flag (ans : Answers) (s : State) (b : Bool) :
    espWifiDeinit ans { s with wifiInitialized := b } =
      { espWifiDeinit ans s with wifiInitialized := b } := by
  unfold espWifiDeinit
  split <;> rfl

/-- A deinit that succeeds where it has to leaves the driver idle. -/
theorem espWifiDeinit_idle {s : State} {ans : Answers} (hskipped : s.skipped = none)
    (hans : s.driver.isSome = true → ans.deinit = espOk) :
    Idle { espWifiDeinit ans s with wifiInitialized := false } := by
  unfold espWifiDeinit
  split
  · exact ⟨rfl, rfl, hskipped⟩
  · rename_i hfail
    cases hdriver : s.driver with
    | none => exact ⟨rfl, hdriver, hskipped⟩
    | some d =>
      rw [hdriver] at hans
      exact absurd (hans rfl) hfail

/-- **The real init from an idle driver**: the cache holds the configuration of the driver as soon
as there is one. -/
theorem wrapReal_coherent {s : State} (h : Idle s) (config : Option WifiInitConfig)
    (ans : Answers) :
    Coherent (wrapReal config ans s).2 := by
  cases config with
  | none => exact h.coherent
  | some cfg =>
    have hdriver : s.driver.isSome = false := by
      rw [h.driver]
      rfl
    by_cases hinit : ans.init = espOk
    · simp only [wrapReal, realEspWifiInit, hinit, hdriver, Bool.false_and, if_true]
      refine ⟨iff_of_true rfl rfl, fun _ => rfl, ?_⟩
      intro c hc
      rw [h.skipped] at hc
      cases hc
    · simp only [wrapReal, realEspWifiInit, hinit, if_false]
      exact Idle.coherent ⟨h.flag, h.driver, h.skipped⟩

/-- Two configurations agree if they agree in the members compared and in the members missed. -/
theorem eq_of_unchanged {new cached : WifiInitConfig}
    (hsame : wifiInitConfigChanged (some new) cached = false)
    (hmissed : ∀ f ∈ missed, new f = cached f) :
    new = cached := by
  have hcompared : ∀ f ∈ comparedFields, new f = cached f := by
    simpa [wifiInitConfigChanged] using hsame
  have hall : ∀ f : Field, f ∈ comparedFields ∨ f ∈ missed := by
    intro f
    cases f <;> decide
  funext f
  rcases hall f with hf | hf
  · exact hcompared f hf
  · exact hmissed f hf

/-- **One call of the wrapper**: under the guard it leaves the statics describing the driver,
whichever way it goes. -/
theorem wrapEspWifiInit_coherent {s : State} {config : Option WifiInitConfig} {ans : Answers}
    (h : Coherent s) (hskipped : s.skipped = none)
    (hguard : s.wifiInitialized = true → ∀ cached ∈ s.cachedWifiInitConfig,
      if wifiInitConfigChanged config cached then ans.deinit = espOk
      else ∀ c ∈ config, ∀ f ∈ missed, c f = cached f) :
    Coherent (wrapEspWifiInit config ans s).2 := by
  unfold wrapEspWifiInit
  cases hflag : s.wifiInitialized with
  | false =>
    have hdriver : s.driver = none := by
      have hnone : ¬s.driver.isSome = true := fun hsome =>
        Bool.false_ne_true (hflag.symm.trans (h.flag.2 hsome))
      simpa using hnone
    exact wrapReal_coherent ⟨hflag, hdriver, hskipped⟩ config ans
  | true =>
    obtain ⟨d, hd⟩ := Option.isSome_iff_exists.1 (h.flag.1 hflag)
    have hcached : s.cachedWifiInitConfig = some d := (h.tracks hflag).trans hd
    have hans := hguard hflag d hcached
    simp only [hcached, Option.any_some, if_true]
    cases hchanged : wifiInitConfigChanged config d with
    | true =>
      -- the deinit does what the wrapper relies on
      rw [hchanged] at hans
      exact wrapReal_coherent (espWifiDeinit_idle hskipped fun _ => hans) config ans
    | false =>
      rw [hchanged] at hans
      simp only [Bool.false_eq_true, if_false] at hans ⊢
      refine ⟨iff_of_true rfl (Option.isSome_iff_exists.2 ⟨d, hd⟩), fun _ => hd.symm, ?_⟩
      intro c hc
      have hc' : config = some c := hc
      rw [hc'] at hchanged
      rw [eq_of_unchanged hchanged (hans c hc')]
      exact hd

theorem coherent_step {d : Defaults} {s s' : State} {a : Action} (h : Coherent s)
    (hguard : Guard d s a)
    (hs : step d s a = some s') : Coherent s' := by
  have hwrapped : ∀ {t : State}, (∀ config ans, a.wrapped d = some (config, ans) →
        s.wifiInitialized = true → ∀ cached ∈ s.cachedWifiInitConfig,
          if wifiInitConfigChanged config cached then ans.deinit = espOk
          else ∀ c ∈ config, ∀ f ∈ missed, c f = cached f) →
      (match a.wrapped d with
        | some (config, ans) => some (wrapEspWifiInit config ans { s with skipped := none }).2
        | none => some { s with skipped := none }) = some t → Coherent t := by
    intro t hg ht
    split at ht
    · rename_i config ans hcall
      cases ht
      exact wrapEspWifiInit_coherent h.forget rfl (hg config ans hcall)
    · cases ht
      exact h.forget
  cases a with
  | reqWifiInit calloc cfg ans => exact hwrapped hguard hs
  | internal config ans => exact hwrapped hguard hs
  | reqWifiDeinit calloc ans =>
    obtain rfl := (Option.some.inj hs).symm
    cases calloc with
    | false => exact h.forget
    | true =>
      have hidle := espWifiDeinit_idle (s := { s with skipped := none }) rfl (hguard rfl)
      rw [← espWifiDeinit_flag] at hidle
      exact hidle.coherent

/-- **Skipping a re-init is sound under the guard**: in every run of requests and internal calls
whose steps all meet it, with any configurations and answers, the flag follows the driver and no
call that skipped the init asked for anything that the driver is not running with. -/
theorem skip_sound (d : Defaults) {s : State} (h : Reach (step d) (Guard d) {} s) : Sound s := by
  have hcoherent : Coherent s := by
    refine h.invariant (Idle.coherent ⟨rfl, rfl, rfl⟩) ?_
    intro s s' a hs hguard hstep
    exact coherent_step hs hguard hstep
  exact hcoherent.sound

/-- An ESP32 with nothing configured. -/
def esp32 : Defaults :=
  { config := fun _ => 0, enableCacheTxBuffer := false, cacheTxBufferNum := 0, featureCaps := 0,
    esp32c2 := false }

/-- A host that sets one member, and a driver that does what it is told. -/
def setOnly (f : Field) (v : Int) : Action := .reqWifiInit true
    (some fun g => if g = f then v else 0) {}

theorem skip_sound_repeated :
    ∃ s, run (step esp32) {} [setOnly .staticRxBufNum 10, setOnly .staticRxBufNum 10] = some s ∧
      s.skipped.isSome = true ∧ Sound s := by
  refine ⟨_, rfl, rfl, skip_sound esp32 (.step (a := setOnly .staticRxBufNum 10)
    (.step (a := setOnly .staticRxBufNum 10) .init ?_ rfl) ?_ rfl)⟩
  · intro config ans _ hflag
    cases hflag
  · intro config ans hcall _ cached hcached
    cases hcall
    cases hcached
    split
    · rfl
    · intro c hc f _
      cases hc
      rfl

/-! ## Where it is not -/

/-- **What `req_wifi_init` sets is lost**: `get_merged_init_config` writes every member again, the
low-memory setting of the ESP32-C2 among them. -/
theorem getMergedInitConfig_dst (d : Defaults) (dst dst' src : WifiInitConfig) :
    getMergedInitConfig d dst src = getMergedInitConfig d dst' src := by
  have hall : ∀ f : Field, f ∈ useHostValue ∨ (f = .cacheTxBufNum ∨ f = .featureCaps) := by
    intro f
    cases f <;> decide
  funext f
  unfold getMergedInitConfig
  rcases hall f with hf | hf
  · rw [if_pos hf, if_pos hf]
  · rw [if_pos hf, if_pos hf]

/-- What the driver is asked for is the host's value, in every member that is always taken from
it. -/
theorem reqConfig_host (d : Defaults) (src : WifiInitConfig) {f : Field} (hf : f ∈ useHostValue) :
    reqConfig d src f = assign f (src f) := by
  unfold reqConfig getMergedInitConfig
  rw [if_pos hf]

/-- The comparison does not see a member that is missed. -/
theorem wifiInitConfigChanged_missed (c : WifiInitConfig) {f : Field} (hf : f ∈ missed) (v : Int) :
    wifiInitConfigChanged (some (Function.update c f v)) c = false := by
  have hdisjoint : ∀ g ∈ comparedFields, g ≠ f := by
    intro g hg hgf
    subst hgf
    revert hf hg
    cases g <;> decide
  have hsame : ∀ g ∈ comparedFields, Function.update c f v g = c g := fun g hg =>
    Function.update_of_ne (hdisjoint g hg) v c
  simpa [wifiInitConfigChanged] using hsame

/-- **A setting is ignored**: whatever the driver runs with, a call that differs in a missed member
is answered `ESP_OK` and the driver keeps the old value. -/
theorem missed_unsound {s : State} {c : WifiInitConfig} (h : Coherent s)
    (hdriver : s.driver = some c)
    {f : Field} (hf : f ∈ missed) {v : Int} (hv : v ≠ c f) (ans : Answers) :
    (wrapEspWifiInit (some (Function.update c f v)) ans s).1 = espOk ∧
      ¬Sound (wrapEspWifiInit (some (Function.update c f v)) ans s).2 := by
  have hflag : s.wifiInitialized = true := h.flag.2 (Option.isSome_iff_exists.2 ⟨c, hdriver⟩)
  have hcached : s.cachedWifiInitConfig = some c := (h.tracks hflag).trans hdriver
  unfold wrapEspWifiInit
  rw [if_pos hflag, hcached, Option.any_some, wifiInitConfigChanged_missed c hf v]
  refine ⟨rfl, fun hsound => ?_⟩
  obtain ⟨r, hr, heq⟩ := hsound.skipped _ rfl
  obtain rfl : c = r := Option.some.inj (hdriver.symm.trans hr)
  have hfield := heq f
  rw [Function.update_self] at hfield
  exact hv hfield.symm

/-- **A deinit that fails** leaves the flag clear and the driver initialised. -/
theorem failed_deinit_unsound {d : Defaults} {s s' : State} {ans : Answers}
    (hdriver : s.driver.isSome = true)
    (hans : ans.deinit ≠ espOk) (hs : step d s (.reqWifiDeinit true ans) = some s') :
    ¬Sound s' := by
  obtain rfl := (Option.some.inj hs).symm
  rw [if_pos rfl, espWifiDeinit, if_neg hans]
  intro hsound
  exact Bool.false_ne_true (hsound.flag.2 hdriver)

/-- Two requests that differ in `rx_mgmt_buf_num`: the second one is skipped, and not sound. -/
theorem rxMgmtBufNum_ignored :
    ∃ s, run (step esp32) {} [setOnly .rxMgmtBufNum 5, setOnly .rxMgmtBufNum 10] = some s ∧
      (s.driver.map fun r => r .rxMgmtBufNum) = some 5 ∧
      (s.skipped.map fun c => c .rxMgmtBufNum) = some 10 ∧ ¬Sound s := by
  refine ⟨_, rfl, rfl, rfl, fun hsound => ?_⟩
  obtain ⟨r, hr, heq⟩ := hsound.skipped _ rfl
  cases hr
  have hfive : (5 : Int) = 10 := heq .rxMgmtBufNum
  exact absurd hfive (by decide)

end EspHostedOpen.WifiReinit
