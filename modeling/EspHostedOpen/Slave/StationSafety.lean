import EspHostedOpen.Slave.Station

/-!
# What the station keeps and what it hides

**Configurations.** The most recently supplied configuration must reach the driver, and none may be
replaced by an older one. The event task reads `new_config_recvd`, applies `new_wifi_config` and
clears the flag in separate steps: `Serialised` says which orders with the RPC task are left out.

**Suppressed events.** `suppress_disconnect` is set at a `CONNECTED` event and used up at a later
`DISCONNECTED` event: `Justified` says what may not happen in between.
-/

namespace EspHostedOpen.Station

open Transition

/-! ## Configurations -/

/-- `c` is `l`, or was supplied before it. -/
def Config.Behind (c l : Config) : Prop := c = l ∨ c.serial < l.serial

theorem Config.Behind.le {c l : Config} (h : c.Behind l) : c.serial ≤ l.serial := by
  rcases h with rfl | hlt
  · exact Nat.le_refl _
  · exact Nat.le_of_lt hlt

theorem Config.Behind.eq_of_le {c l : Config} (h : c.Behind l)
    (hle : l.serial ≤ c.serial) : c = l := by
  rcases h with rfl | hlt
  · rfl
  · omega

/-- The RPC task is inside `esp_hosted_set_sta_config`. -/
def RpcPc.supplying : RpcPc → Bool
  | .setConfig _ | .apply _ | .cache _ | .flag | .unflag => true
  | _ => false

/-- The latest configuration is in the driver, or waits to be applied. -/
def Held (s : State) : Prop :=
  s.latest = s.driver ∨ (s.newConfigRecvd = true ∧ s.newWifiConfig = s.latest)

/-- **Nothing is lost**, once no handler is mid-way. -/
def Kept (s : State) : Prop := s.rpc = .idle → s.event = .idle → Held s

/-- The driver has not been given a configuration past `new_wifi_config` since that was filled. -/
def Unsuperseded (s : State) : Prop :=
  s.rpc = .flag ∨ (s.newConfigRecvd = true ∧ s.rpc ≠ .unflag)

/-- The event task applies `new_wifi_config` only while it has not been superseded, and clears the
flag only for the configuration it has applied. -/
def Serialised (s : State) : Action → Prop
  | .event result =>
    match s.event with
    | .connectedApply | .disconnectedApply => result = espOk → Unsuperseded s
    | .disconnectedUnflag applied => s.newWifiConfig = applied ∨ s.rpc.supplying = true
    | _ => True
  | _ => True

/-- What the RPC task is about to do with the latest configuration. -/
def Phase (s : State) : Prop :=
  match s.rpc with
  | .setConfig cfg | .apply cfg | .cache cfg =>
    cfg = s.latest ∧ s.driver.serial < s.latest.serial ∧ s.newWifiConfig.serial < s.latest.serial
  | .flag => s.newWifiConfig = s.latest
  | .unflag => s.driver = s.latest
  | _ => Held s

theorem phase_iff_held {s : State} (h : s.rpc.supplying = false) : Phase s ↔ Held s := by
  unfold Phase
  split <;> simp_all [RpcPc.supplying]

/-- While the RPC task supplies a configuration, the driver may stay as it is or be given the
cache. -/
theorem Phase.carry {s s' : State} (h : Phase s) (hsupplying : s.rpc.supplying = true)
    (hrpc : s'.rpc = s.rpc)
    (hlatest : s'.latest = s.latest) (hcache : s'.newWifiConfig = s.newWifiConfig)
    (hdriver : s'.driver = s.driver ∨ s'.driver = s.newWifiConfig ∧ s.rpc ≠ .unflag) :
    Phase s' := by
  unfold Phase at h ⊢
  rw [hrpc, hlatest, hcache]
  cases hpc : s.rpc with
  | setConfig cfg | apply cfg | cache cfg =>
    simp only [hpc] at h ⊢
    obtain ⟨hcfg, hbehind, hcached⟩ := h
    rcases hdriver with hsame | ⟨hinstalled, -⟩
    · rw [hsame]
      exact ⟨hcfg, hbehind, hcached⟩
    · rw [hinstalled]
      exact ⟨hcfg, hcached, hcached⟩
  | flag =>
    simp only [hpc] at h ⊢
    exact h
  | unflag =>
    simp only [hpc] at h ⊢
    rcases hdriver with hsame | ⟨-, hne⟩
    · rw [hsame]
      exact h
    · exact absurd hpc hne
  | _ =>
    rw [hpc] at hsupplying
    cases hsupplying

structure Inv (s : State) : Prop where
  driver : s.driver.Behind s.latest
  cache : s.newWifiConfig.Behind s.latest
  order : s.newConfigRecvd = true → s.rpc ≠ .unflag → s.driver.serial ≤ s.newWifiConfig.serial
  applied : ∀ c, s.event = .disconnectedUnflag c → c.serial ≤ s.driver.serial
  phase : Phase s

theorem inv_start (ssid : List UInt8) : Inv (start ssid) where
  driver := .inl rfl
  cache := .inr Nat.zero_lt_one
  order := fun h => absurd h Bool.false_ne_true
  applied := fun _ h => by cases h
  phase := .inl rfl

/-- The invariant holds after the step, and the driver has not gone back. -/
structure Advances (s s' : State) : Prop where
  inv : Inv s'
  mono : s.driver.serial ≤ s'.driver.serial

namespace Inv

variable {s s' : State}

/-- A step of the event task that leaves the configurations and the flag alone. -/
theorem eventFrame (h : Inv s) (hdriver : s'.driver = s.driver)
    (hcache : s'.newWifiConfig = s.newWifiConfig)
    (hflag : s'.newConfigRecvd = s.newConfigRecvd) (hlatest : s'.latest = s.latest)
    (hrpc : s'.rpc = s.rpc)
    (happlied : ∀ c, s'.event ≠ .disconnectedUnflag c) : Advances s s' := by
  refine ⟨⟨?_, ?_, ?_, fun c hc => absurd hc (happlied c), ?_⟩, ?_⟩
  · rw [hdriver, hlatest]
    exact h.driver
  · rw [hcache, hlatest]
    exact h.cache
  · rw [hflag, hrpc, hdriver, hcache]
    exact h.order
  · have hphase := h.phase
    unfold Phase Held at hphase ⊢
    rwa [hrpc, hdriver, hcache, hflag, hlatest]
  · exact Nat.le_of_eq (congrArg Config.serial hdriver.symm)

/-- A step of `req_wifi_connect`. -/
theorem connectFrame (h : Inv s) (hdriver : s'.driver = s.driver)
    (hcache : s'.newWifiConfig = s.newWifiConfig) (hflag : s'.newConfigRecvd = s.newConfigRecvd)
    (hlatest : s'.latest = s.latest) (hevent : s'.event = s.event) (hrpc : s.rpc.supplying = false)
    (hrpc' : s'.rpc.supplying = false) : Advances s s' := by
  have hne : s.rpc ≠ .unflag := fun heq => by rw [heq] at hrpc; cases hrpc
  refine ⟨⟨?_, ?_, ?_, ?_, ?_⟩, ?_⟩
  · rw [hdriver, hlatest]
    exact h.driver
  · rw [hcache, hlatest]
    exact h.cache
  · rw [hflag, hdriver, hcache]
    exact fun hset _ => h.order hset hne
  · rw [hevent, hdriver]
    exact h.applied
  · have hheld := (phase_iff_held hrpc).1 h.phase
    refine (phase_iff_held hrpc').2 ?_
    unfold Held at hheld ⊢
    rwa [hdriver, hcache, hflag, hlatest]
  · exact Nat.le_of_eq (congrArg Config.serial hdriver.symm)

end Inv

/-! ### The RPC task -/

/-- A new configuration is ahead of all others. -/
theorem inv_request {s : State} (h : Inv s) (hidle : s.rpc = .idle) (r : Request) :
    Advances s (request s r) := by
  have hdriver := h.driver.le
  have hcache := h.cache.le
  cases r with
  | setStaConfig ssid =>
    refine ⟨⟨.inr ?_, .inr ?_, ?_, h.applied, rfl, ?_, ?_⟩, Nat.le_refl _⟩
    · exact Nat.lt_succ_of_le hdriver
    · exact Nat.lt_succ_of_le hcache
    · intro hset _
      exact h.order hset (by rw [hidle]; exact fun heq => by cases heq)
    · exact Nat.lt_succ_of_le hdriver
    · exact Nat.lt_succ_of_le hcache
  | connect => exact h.connectFrame rfl rfl rfl rfl rfl (by rw [hidle]; rfl) rfl

/-- **One step of the RPC task** keeps the invariant. -/
theorem inv_rpc {s s' : State} {result : EspErr} (h : Inv s) (hs : rpcStep result s = some s') :
    Advances s s' := by
  have hphase := h.phase
  unfold rpcStep at hs
  cases hrpc : s.rpc with
  | idle =>
    rw [hrpc] at hs
    cases hs
  | setConfig cfg =>
    rw [hrpc] at hs
    cases hs
    simp only [Phase, hrpc] at hphase
    obtain ⟨rfl, hdriver, hcache⟩ := hphase
    refine ⟨⟨h.driver, h.cache, ?_, h.applied, ?_⟩, Nat.le_refl _⟩
    · intro hset _
      exact h.order hset (by rw [hrpc]; exact fun heq => by cases heq)
    · by_cases hconnecting : s.stationConnecting = true
      · rw [if_pos hconnecting]
        exact ⟨rfl, hdriver, hcache⟩
      · rw [if_neg hconnecting]
        exact ⟨rfl, hdriver, hcache⟩
  | apply cfg =>
    rw [hrpc] at hs
    cases hs
    simp only [Phase, hrpc] at hphase
    obtain ⟨rfl, hdriver, hcache⟩ := hphase
    by_cases hok : result = espOk
    · rw [if_pos hok]
      refine ⟨⟨.inl rfl, h.cache, fun _ hne => absurd rfl hne, ?_, rfl⟩, Nat.le_of_lt hdriver⟩
      intro c hc
      exact Nat.le_trans (h.applied c hc) (Nat.le_of_lt hdriver)
    · rw [if_neg hok]
      refine ⟨⟨h.driver, h.cache, ?_, h.applied, rfl, hdriver, hcache⟩, Nat.le_refl _⟩
      intro hset _
      exact h.order hset (by rw [hrpc]; exact fun heq => by cases heq)
  | cache cfg =>
    rw [hrpc] at hs
    cases hs
    simp only [Phase, hrpc] at hphase
    obtain ⟨rfl, hdriver, -⟩ := hphase
    exact ⟨⟨h.driver, .inl rfl, fun _ _ => Nat.le_of_lt hdriver, h.applied, rfl⟩, Nat.le_refl _⟩
  | flag =>
    -- what is in the cache is the latest
    rw [hrpc] at hs
    cases hs
    simp only [Phase, hrpc] at hphase
    refine ⟨⟨h.driver, h.cache, fun _ _ => ?_, h.applied, .inr ⟨rfl, hphase⟩⟩, Nat.le_refl _⟩
    have hle := h.driver.le
    rwa [← hphase] at hle
  | unflag =>
    -- the driver holds the latest
    rw [hrpc] at hs
    cases hs
    simp only [Phase, hrpc] at hphase
    have hheld : s.latest = s.driver := hphase.symm
    exact ⟨⟨h.driver, h.cache, fun hset => absurd hset Bool.false_ne_true, h.applied, .inl hheld⟩,
      Nat.le_refl _⟩
  | _ =>
    -- `req_wifi_connect`
    rw [hrpc] at hs
    cases hs
    have hsupplying : s.rpc.supplying = false := by rw [hrpc]; rfl
    refine h.connectFrame ?_ ?_ ?_ ?_ ?_ hsupplying ?_ <;> (repeat' split) <;> rfl

/-! ### The event task -/

/-- What waits in the cache is not older than what the driver holds. -/
theorem Inv.le_cache {s : State} (h : Inv s) (hfresh : Unsuperseded s) :
    s.driver.serial ≤ s.newWifiConfig.serial := by
  rcases hfresh with hrpc | ⟨hset, hne⟩
  · have hphase := h.phase
    simp only [Phase, hrpc] at hphase
    rw [hphase]
    exact h.driver.le
  · exact h.order hset hne

/-- **Applying the cache** keeps the invariant. -/
theorem Inv.install {s : State} (h : Inv s) (hfresh : Unsuperseded s) {pc : EventPc}
    (hpc : ∀ c, pc = .disconnectedUnflag c → c = s.newWifiConfig) :
    Advances s ({ s with driver := s.newWifiConfig }.setEvent pc) := by
  have hle := h.le_cache hfresh
  refine ⟨⟨h.cache, h.cache, fun _ _ => Nat.le_refl _, ?_, ?_⟩, hle⟩
  · intro c hc
    rw [hpc c hc]
    exact Nat.le_refl _
  · have hphase := h.phase
    have hunflag : s.rpc ≠ .unflag := by
      rcases hfresh with hrpc | ⟨-, hne⟩
      · rw [hrpc]
        exact fun heq => by cases heq
      · exact hne
    by_cases hsupplying : s.rpc.supplying = true
    · exact hphase.carry hsupplying rfl rfl rfl (.inr ⟨rfl, hunflag⟩)
    · have hno := Bool.eq_false_iff.2 hsupplying
      refine (phase_iff_held ?_).2 (.inl ?_)
      · exact hno
      rcases (phase_iff_held hno).1 hphase with hlatest | ⟨-, hcache⟩
      · refine (h.cache.eq_of_le ?_).symm
        rw [hlatest]
        exact hle
      · exact hcache.symm

/-- **Clearing the flag** loses nothing. -/
theorem Inv.clear {s : State} (h : Inv s) {c : Config} (hevent : s.event = .disconnectedUnflag c)
    (hguard : s.newWifiConfig = c ∨ s.rpc.supplying = true) {pc : EventPc}
    (hpc : ∀ c, pc ≠ .disconnectedUnflag c) :
    Advances s ({ s with newConfigRecvd := false }.setEvent pc) := by
  refine ⟨⟨h.driver, h.cache, fun hset => absurd hset Bool.false_ne_true, fun c hc =>
    absurd hc (hpc c), ?_⟩, Nat.le_refl _⟩
  have hphase := h.phase
  by_cases hsupplying : s.rpc.supplying = true
  · exact hphase.carry hsupplying rfl rfl rfl (.inl rfl)
  · have hno := Bool.eq_false_iff.2 hsupplying
    refine (phase_iff_held ?_).2 (.inl ?_)
    · exact hno
    rcases (phase_iff_held hno).1 hphase with hlatest | ⟨-, hcache⟩
    · exact hlatest
    · have happlied := h.applied c hevent
      have hsame : s.newWifiConfig = c := hguard.resolve_right hsupplying
      refine (h.driver.eq_of_le ?_).symm
      rw [← hcache, hsame]
      exact happlied

/-- The end of the `DISCONNECTED` branch leaves the configurations alone. -/
theorem Inv.report {build : Build} {s : State} (h : Inv s) (pending issued : Bool) :
    Advances s (report build s pending issued) := by
  unfold Station.report
  split
  · exact h.eventFrame rfl rfl rfl rfl rfl fun c hc => by cases hc
  · refine h.eventFrame rfl rfl rfl rfl rfl fun c hc => ?_
    dsimp only at hc
    split at hc <;> cases hc

/-- **One step of the event task** keeps the invariant. -/
theorem inv_event {build : Build} {s s' : State} {result : EspErr} (h : Inv s)
    (hguard : Serialised s (.event result)) (hs : eventStep build result s = some s') :
    Advances s s' := by
  unfold eventStep at hs
  cases hevent : s.event with
  | idle =>
    rw [hevent] at hs
    cases hs
  | connectedApply =>
    rw [hevent] at hs
    cases hs
    simp only [Serialised, hevent] at hguard
    by_cases hok : result = espOk
    · rw [if_pos hok]
      exact h.install (hguard hok) fun c hc => by cases hc
    · rw [if_neg hok]
      exact h.eventFrame rfl rfl rfl rfl rfl fun c hc => by cases hc
  | disconnectedApply =>
    rw [hevent] at hs
    cases hs
    simp only [Serialised, hevent] at hguard
    by_cases hok : result = espOk
    · rw [if_pos hok]
      exact h.install (hguard hok) fun c hc => (EventPc.disconnectedUnflag.inj hc).symm
    · rw [if_neg hok]
      exact h.eventFrame rfl rfl rfl rfl rfl fun c hc => by cases hc
  | disconnectedUnflag applied =>
    rw [hevent] at hs
    cases hs
    simp only [Serialised, hevent] at hguard
    exact h.clear hevent hguard fun c hc => by cases hc
  | disconnectedReport pending issued =>
    rw [hevent] at hs
    cases hs
    exact h.report pending issued
  | _ =>
    rw [hevent] at hs
    cases hs
    refine h.eventFrame rfl rfl rfl rfl rfl fun c hc => ?_
    dsimp only [State.setEvent] at hc
    (repeat' split at hc) <;> cases hc

theorem inv_deliver {s : State} (h : Inv s) (e : StaEvent) : Advances s (deliver s e) := by
  cases e <;> exact h.eventFrame rfl rfl rfl rfl rfl fun c hc => by cases hc

/-! ### Runs -/

theorem inv_step {build : Build} {s s' : State} {a : Action} (h : Inv s) (hguard : Serialised s a)
    (hs : step build s a = some s') : Advances s s' := by
  unfold step at hs
  cases a with
  | request r =>
    obtain ⟨hidle, hs⟩ := Option.ite_none_right_eq_some.1 hs
    cases hs
    exact inv_request h hidle r
  | rpc result => exact inv_rpc h hs
  | deliver e =>
    obtain ⟨-, hs⟩ := Option.ite_none_right_eq_some.1 hs
    cases hs
    exact inv_deliver h e
  | event result => exact inv_event h hguard hs

theorem inv_of_reach {build : Build} {ssid : List UInt8} {s : State}
    (h : Reach (step build) Serialised (start ssid) s) : Inv s :=
  h.invariant (inv_start ssid) fun hinv hguard hs => (inv_step hinv hguard hs).inv

/-- **The station's configuration is kept** in every state of a run that meets `Serialised`, and no
step of the run puts an older configuration into the driver. -/
theorem station_config_kept {build : Build} {ssid : List UInt8} {s : State}
    (h : Reach (step build) Serialised (start ssid) s) :
    Kept s ∧ ∀ {a s'}, Serialised s a → step build s a = some s' →
    s.driver.serial ≤ s'.driver.serial := by
  have hinv := inv_of_reach h
  refine ⟨fun hrpc _ => ?_, fun hguard hs => (inv_step hinv hguard hs).mono⟩
  have hsupplying : s.rpc.supplying = false := by rw [hrpc]; rfl
  exact (phase_iff_held hsupplying).1 hinv.phase

/-- The test behind `station_config_kept_cached`. -/
def serialised (s : State) : Action → Bool
  | .event result =>
    match s.event with
    | .connectedApply | .disconnectedApply =>
      result != espOk || (s.rpc == .flag || (s.newConfigRecvd && s.rpc != .unflag))
    | .disconnectedUnflag applied => s.newWifiConfig == applied || s.rpc.supplying
    | _ => true
  | _ => true

theorem serialised_of_test (s : State) (a : Action) (h : serialised s a = true) :
    Serialised s a := by
  cases a with
  | event result =>
    cases hevent : s.event with
    | connectedApply | disconnectedApply =>
      simp only [serialised, hevent] at h
      simp only [Serialised, Unsuperseded, hevent]
      intro hok
      simpa [hok] using h
    | disconnectedUnflag applied =>
      simp only [serialised, hevent] at h
      simp only [Serialised, hevent]
      simpa using h
    | _ =>
      simp only [Serialised, hevent]
  | _ => trivial

instance (s : State) : Decidable (Held s) := inferInstanceAs (Decidable (_ ∨ _ ∧ _))

/-- No option is set. -/
def plainBuild : Build :=
  { autoConnectOnStaDisconnect := false, autoReconnectMaxRetry := 0,
    autoConnectOnStaStart := false }

/-- `req_wifi_connect`. -/
def connectRun : List Action := .request .connect :: List.replicate 4 (.rpc espOk)

/-- `esp_hosted_set_sta_config`. -/
def supplyRun (ssid : List UInt8) : List Action := .request (.setStaConfig ssid) :: List.replicate 3
    (.rpc espOk)

/-- An event, and `n` steps of its handler. -/
def eventRun (e : StaEvent) (n : Nat) : List Action := .deliver e :: List.replicate n (.event espOk)

/-- A configuration that arrives while the station connects is applied when that fails. -/
theorem station_config_kept_cached :
    ∃ s, run (guarded serialised (step plainBuild)) (start [1])
        (connectRun ++ supplyRun [2] ++ eventRun .disconnected 7) = some s ∧
      s.driver = ⟨2, [2]⟩ ∧ Kept s := by
  have hrun : (run (guarded serialised (step plainBuild)) (start [1])
      (connectRun ++ supplyRun [2] ++ eventRun .disconnected 7)).map State.driver =
        some ⟨2, [2]⟩ := by
    decide
  obtain ⟨s, hs, hdriver⟩ := Option.map_eq_some_iff.1 hrun
  exact ⟨s, hs, hdriver, (station_config_kept (reach_of_guarded_run serialised_of_test hs)).1⟩

/-- Both halves fail. The event task clears the flag of a configuration that came after the one it
has applied; and, with `station_connecting` cleared by a `STOP` event, it applies the cache over a
configuration that the driver was given directly. -/
theorem station_config_lost :
    (∃ s, run (step plainBuild) (start [1])
    (connectRun ++ supplyRun [2] ++ eventRun .disconnected 2 ++
          supplyRun [3] ++ List.replicate 5 (.event espOk)) = some s ∧
        s.rpc = .idle ∧ s.event = .idle ∧ ¬Held s) ∧
      ∃ s s', run (step plainBuild) (start [1]) (connectRun ++ supplyRun [2] ++ eventRun .stop 2 ++
          eventRun .disconnected 1 ++ (supplyRun [3]).take 3) = some s ∧
        step plainBuild s (.event espOk) = some s' ∧ s'.driver.serial < s.driver.serial := by
  constructor
  · have hrun :
      (run (step plainBuild) (start [1]) (connectRun ++ supplyRun [2] ++ eventRun .disconnected 2 ++
        supplyRun [3] ++ List.replicate 5 (.event espOk))).map
          (fun s => (s.rpc, s.event, decide (Held s))) = some (.idle, .idle, false) := by
      decide
    obtain ⟨s, hs, hproj⟩ := Option.map_eq_some_iff.1 hrun
    obtain ⟨hrpc, hrest⟩ := Prod.mk.inj hproj
    obtain ⟨hevent, hheld⟩ := Prod.mk.inj hrest
    exact ⟨s, hs, hrpc, hevent, of_decide_eq_false hheld⟩
  · have hrun :
      (run (step plainBuild) (start [1]) (connectRun ++ supplyRun [2] ++ eventRun .stop 2 ++
        eventRun .disconnected 1 ++ (supplyRun [3]).take 3)).map
          (fun s => (s.driver.serial, (step plainBuild s (.event espOk)).map (·.driver.serial))) =
        some (3, some 2) := by
      decide
    obtain ⟨s, hs, hproj⟩ := Option.map_eq_some_iff.1 hrun
    obtain ⟨hbefore, hafter⟩ := Prod.mk.inj hproj
    obtain ⟨s', hs', hserial⟩ := Option.map_eq_some_iff.1 hafter
    exact ⟨s, s', hs, hs', by omega⟩

/-! ## Suppressed events -/

/-- `suppress_disconnect` is set, or about to be, and no `DISCONNECTED` event has been looked at
since. -/
def EventPc.armed (suppress : Bool) : EventPc → Bool
  | .connectedApply | .connectedDisconnect | .connectedSuppress => true
  | .disconnectedApply | .disconnectedUnflag _ | .disconnectedLost _ | .disconnectedConnecting _
  | .disconnectedConnect | .disconnectedReport .. | .autoReconnect => false
  | _ => suppress

def Armed (s : State) : Prop := s.event.armed s.suppressDisconnect = true

/-- While a suppression waits for its event, no configuration is given to the driver directly; and
when the event comes, the driver takes the new configuration and the attempt to connect. -/
def Justified (s : State) : Action → Prop
  | .rpc _ => s.rpc = .unflag → ¬Armed s
  | .event result =>
    match s.event with
    | .disconnectedApply | .disconnectedConnect => s.suppressDisconnect = true → result = espOk
    | _ => True
  | _ => True

/-- What the `DISCONNECTED` branch has done so far, should the event be hidden. -/
def Excused (s : State) : Prop :=
  match s.event with
  | .disconnectedLost pending | .disconnectedConnecting pending =>
    s.suppressDisconnect = true → pending = true
  | .disconnectedReport pending issued => s.suppressDisconnect = true → pending = true ∧
    issued = true
  | .autoReconnect => s.suppressDisconnect = false
  | _ => True

/-- **No disconnect is hidden for nothing.** -/
def HiddenWell (s : State) : Prop :=
  ∀ d ∈ s.disconnects, d.forwarded = false → d.applied = true ∧ d.issued = true

structure Suppression (s : State) : Prop where
  armed : Armed s → s.newConfigRecvd = true
  excused : Excused s
  hidden : HiddenWell s

namespace Suppression

variable {s s' : State}

/-- A step of the RPC task. -/
theorem rpcFrame (h : Suppression s) (hflag : Armed s → s'.newConfigRecvd = true)
    (hsuppress : s'.suppressDisconnect = s.suppressDisconnect) (hevent : s'.event = s.event)
    (hdisconnects : s'.disconnects = s.disconnects) : Suppression s' := by
  refine ⟨?_, ?_, ?_⟩
  · unfold Armed at hflag ⊢
    rwa [hsuppress, hevent]
  · have hexcused := h.excused
    unfold Excused at hexcused ⊢
    rwa [hsuppress, hevent]
  · unfold HiddenWell
    rw [hdisconnects]
    exact h.hidden

/-- A step of the event task that leaves the flags alone. -/
theorem eventFrame (h : Suppression s) (hflag : s'.newConfigRecvd = s.newConfigRecvd)
    (hdisconnects : s'.disconnects = s.disconnects) (harmed : Armed s' → Armed s)
    (hexcused : Excused s') :
    Suppression s' := by
  refine ⟨fun ha => ?_, hexcused, ?_⟩
  · rw [hflag]
    exact h.armed (harmed ha)
  · unfold HiddenWell
    rw [hdisconnects]
    exact h.hidden

end Suppression

theorem suppression_start (ssid : List UInt8) : Suppression (start ssid) where
  armed := fun h => absurd h Bool.false_ne_true
  excused := trivial
  hidden := fun _ hd => by cases hd

theorem suppression_rpc {s s' : State} {result : EspErr} (h : Suppression s)
    (hguard : Justified s (.rpc result)) (hs : rpcStep result s = some s') : Suppression s' := by
  unfold rpcStep at hs
  cases hrpc : s.rpc with
  | idle =>
    rw [hrpc] at hs
    cases hs
  | flag =>
    rw [hrpc] at hs
    cases hs
    exact h.rpcFrame (fun _ => rfl) rfl rfl rfl
  | unflag =>
    rw [hrpc] at hs
    cases hs
    exact h.rpcFrame (fun harmed => absurd harmed (hguard hrpc)) rfl rfl rfl
  | _ =>
    rw [hrpc] at hs
    cases hs
    refine h.rpcFrame (fun harmed => Eq.trans ?_ (h.armed harmed)) ?_ ?_ ?_ <;> (repeat' split) <;>
      rfl

/-- The end of the `DISCONNECTED` branch. -/
theorem Suppression.report {build : Build} {s : State} {pending issued : Bool} (h : Suppression s)
    (hevent : s.event = .disconnectedReport pending issued) :
    Suppression (report build s pending issued) := by
  have hexcused := h.excused
  simp only [Excused, hevent] at hexcused
  have hadd : ∀ d : Handling, (d.forwarded = false → d.applied = true ∧ d.issued = true) →
      ∀ d' ∈ s.disconnects ++ [d], d'.forwarded = false → d'.applied = true ∧ d'.issued = true := by
    intro d hd d' hmem
    rcases List.mem_append.1 hmem with hold | hnew
    · exact h.hidden d' hold
    · rw [List.mem_singleton.1 hnew]
      exact hd
  unfold Station.report
  by_cases hsuppress : s.suppressDisconnect = true
  · rw [if_pos hsuppress]
    refine ⟨fun harmed => absurd harmed Bool.false_ne_true, trivial, hadd _ fun _ => ?_⟩
    exact hexcused hsuppress
  · rw [if_neg hsuppress]
    have hoff := Bool.eq_false_iff.2 hsuppress
    refine ⟨fun harmed => ?_, ?_, hadd _ fun hno => absurd hno.symm Bool.false_ne_true⟩
    · unfold Armed at harmed
      dsimp only [State.forward] at harmed
      rw [hoff] at harmed
      split at harmed <;> cases harmed
    · unfold Excused
      dsimp only [State.forward]
      rw [hoff]
      split <;> simp_all

/-- **One step of the event task.** -/
theorem suppression_event {build : Build} {s s' : State} {result : EspErr} (h : Suppression s)
    (hguard : Justified s (.event result)) (hs : eventStep build result s = some s') :
    Suppression s' := by
  have harmed := h.armed
  have hexcused := h.excused
  unfold eventStep at hs
  cases hevent : s.event with
  | idle =>
    rw [hevent] at hs
    cases hs
  | connected =>
    -- the flag that arms the suppression is set
    rw [hevent] at hs
    cases hs
    by_cases hflag : s.newConfigRecvd = true
    · rw [if_pos hflag]
      exact ⟨fun _ => hflag, trivial, h.hidden⟩
    · rw [if_neg hflag]
      refine h.eventFrame rfl rfl (fun ha => ?_) trivial
      unfold Armed
      rw [hevent]
      exact ha
  | connectedApply | connectedDisconnect | connectedSuppress =>
    rw [hevent] at hs
    cases hs
    refine h.eventFrame rfl rfl (fun _ => ?_) trivial
    unfold Armed
    rw [hevent]
    rfl
  | disconnected =>
    rw [hevent] at hs
    cases hs
    by_cases hflag : s.newConfigRecvd = true
    · rw [if_pos hflag]
      exact h.eventFrame rfl rfl (fun ha => absurd ha Bool.false_ne_true) trivial
    · rw [if_neg hflag]
      refine h.eventFrame rfl rfl (fun ha => absurd ha Bool.false_ne_true) fun hsuppress => ?_
      have hset := harmed (by unfold Armed; rw [hevent]; exact hsuppress)
      exact absurd hset hflag
  | disconnectedApply =>
    rw [hevent] at hs
    cases hs
    simp only [Justified, hevent] at hguard
    by_cases hok : result = espOk
    · rw [if_pos hok]
      exact h.eventFrame rfl rfl (fun ha => absurd ha Bool.false_ne_true) trivial
    · rw [if_neg hok]
      refine h.eventFrame rfl rfl (fun ha => absurd ha Bool.false_ne_true) fun hsuppress => ?_
      exact absurd (hguard hsuppress) hok
  | disconnectedUnflag applied =>
    rw [hevent] at hs
    cases hs
    exact ⟨fun ha => absurd ha Bool.false_ne_true, fun _ => rfl, h.hidden⟩
  | disconnectedLost pending =>
    rw [hevent] at hs
    cases hs
    simp only [Excused, hevent] at hexcused
    exact h.eventFrame rfl rfl (fun ha => absurd ha Bool.false_ne_true) hexcused
  | disconnectedConnecting pending =>
    rw [hevent] at hs
    cases hs
    simp only [Excused, hevent] at hexcused
    cases pending with
    | true => exact h.eventFrame rfl rfl (fun ha => absurd ha Bool.false_ne_true) trivial
    | false =>
      refine h.eventFrame rfl rfl (fun ha => absurd ha Bool.false_ne_true) fun hsuppress => ?_
      exact absurd (hexcused hsuppress) Bool.false_ne_true
  | disconnectedConnect =>
    rw [hevent] at hs
    cases hs
    simp only [Justified, hevent] at hguard
    refine h.eventFrame rfl rfl (fun ha => absurd ha Bool.false_ne_true) fun hsuppress => ⟨rfl, ?_⟩
    exact decide_eq_true (hguard hsuppress)
  | disconnectedReport pending issued =>
    rw [hevent] at hs
    cases hs
    exact h.report hevent
  | autoReconnect =>
    rw [hevent] at hs
    cases hs
    simp only [Excused, hevent] at hexcused
    refine h.eventFrame rfl rfl (fun ha => ?_) trivial
    exact absurd (hexcused.symm.trans ha) Bool.false_ne_true
  | started =>
    rw [hevent] at hs
    cases hs
    have hmove : ∀ pc, pc = .idle ∨ pc = .startedConnecting ∨ pc = .startedForward →
        Suppression (s.setEvent pc) := by
      intro pc hpc
      have harmed' : s.suppressDisconnect = true → Armed s := by
        intro hsuppress
        unfold Armed
        rw [hevent]
        exact hsuppress
      rcases hpc with rfl | rfl | rfl <;> exact h.eventFrame rfl rfl harmed' trivial
    apply hmove
    split
    · exact .inl rfl
    · split
      · exact .inr (.inl rfl)
      · exact .inr (.inr rfl)
  | _ =>
    rw [hevent] at hs
    cases hs
    refine h.eventFrame rfl rfl (fun ha => ?_) trivial
    unfold Armed
    rw [hevent]
    exact ha

theorem suppression_step {build : Build} {s s' : State} {a : Action} (h : Suppression s)
    (hguard : Justified s a) (hs : step build s a = some s') : Suppression s' := by
  unfold step at hs
  cases a with
  | request r =>
    obtain ⟨-, hs⟩ := Option.ite_none_right_eq_some.1 hs
    cases hs
    cases r <;> exact h.rpcFrame h.armed rfl rfl rfl
  | rpc result => exact suppression_rpc h hguard hs
  | deliver e =>
    obtain ⟨hidle, hs⟩ := Option.ite_none_right_eq_some.1 hs
    cases hs
    have harmed : s.suppressDisconnect = true → Armed s := by
      intro hsuppress
      unfold Armed
      rw [hidle]
      exact hsuppress
    cases e <;> exact h.eventFrame rfl rfl harmed trivial
  | event result => exact suppression_event h hguard hs

/-- **No disconnect is hidden for nothing** in a run whose steps all meet `Justified`. -/
theorem hidden_disconnects_justified {build : Build} {ssid : List UInt8} {s : State}
    (h : Reach (step build) Justified (start ssid) s) : HiddenWell s :=
  (h.invariant (suppression_start ssid) fun hinv hguard hs =>
    suppression_step hinv hguard hs).hidden

/-- The test behind `hidden_disconnects_justified_reconnect`. -/
def justified (s : State) : Action → Bool
  | .rpc _ => s.rpc != .unflag || !s.event.armed s.suppressDisconnect
  | .event result =>
    match s.event with
    | .disconnectedApply | .disconnectedConnect => !s.suppressDisconnect || result == espOk
    | _ => true
  | _ => true

theorem justified_of_test (s : State) (a : Action) (h : justified s a = true) : Justified s a := by
  cases a with
  | rpc result =>
    unfold justified at h
    unfold Justified Armed
    intro hrpc
    simpa [hrpc] using h
  | event result =>
    cases hevent : s.event with
    | disconnectedApply | disconnectedConnect =>
      simp only [justified, hevent] at h
      simp only [Justified, hevent]
      intro hsuppress
      simpa [hsuppress] using h
    | _ =>
      simp only [Justified, hevent]
  | _ => trivial

/-- Connected with an outdated configuration: disconnect, hide that, and connect with the new
one. -/
theorem hidden_disconnects_justified_reconnect :
    ∃ s, run (guarded justified (step plainBuild)) (start [1])
        (connectRun ++ supplyRun [2] ++ eventRun .connected 4 ++ eventRun .disconnected 7) =
          some s ∧
      s.disconnects = [⟨false, true, true⟩] ∧ HiddenWell s := by
  have hrun : (run (guarded justified (step plainBuild)) (start [1])
      (connectRun ++ supplyRun [2] ++ eventRun .connected 4 ++ eventRun .disconnected 7)).map
        State.disconnects = some [⟨false, true, true⟩] := by
    decide
  obtain ⟨s, hs, hdisconnects⟩ := Option.map_eq_some_iff.1 hrun
  exact ⟨s, hs, hdisconnects,
    hidden_disconnects_justified (reach_of_guarded_run justified_of_test hs)⟩

/-- A `STOP` event while the suppression waits lets the next configuration through to the driver:
with nothing left to apply, the next disconnect is hidden all the same. Every driver call
succeeds. -/
theorem disconnect_hidden_for_nothing :
    ∃ s, run (step plainBuild) (start [1]) (connectRun ++ supplyRun [2] ++ eventRun .connected 4 ++
        eventRun .stop 2 ++ supplyRun [3] ++ eventRun .disconnected 4) = some s ∧
      s.disconnects = [⟨false, false, false⟩] ∧ ¬HiddenWell s := by
  have hrun :
    (run (step plainBuild) (start [1]) (connectRun ++ supplyRun [2] ++ eventRun .connected 4 ++
      eventRun .stop 2 ++ supplyRun [3] ++ eventRun .disconnected 4)).map State.disconnects =
        some [⟨false, false, false⟩] := by
    decide
  obtain ⟨s, hs, hdisconnects⟩ := Option.map_eq_some_iff.1 hrun
  refine ⟨s, hs, hdisconnects, fun hwell => ?_⟩
  have hmem : (⟨false, false, false⟩ : Handling) ∈ s.disconnects := by
    rw [hdisconnects]
    exact List.mem_singleton.2 rfl
  obtain ⟨hno, -⟩ := hwell _ hmem rfl
  cases hno

/-! ### What the host is told -/

/-- As many `DISCONNECTED` events were sent to the host as were handled as forwarded. -/
def Counted (s : State) : Prop :=
  s.toHost.count .disconnected = s.disconnects.countP Handling.forwarded

theorem Counted.forward {s : State} (h : Counted s) {e : StaEvent} (he : e ≠ .disconnected) :
    Counted (s.forward e) := by
  unfold Counted State.forward at *
  rw [List.count_append, List.count_singleton, if_neg (by simpa using he), h, Nat.add_zero]

theorem counted_report {build : Build} {s : State} {pending issued : Bool} (h : Counted s) :
    Counted (report build s pending issued) := by
  unfold report
  split
  · unfold Counted at *
    simpa using h
  · unfold Counted State.forward at *
    simpa using h

/-- **What is not hidden is told**: in every run, whatever the driver does. -/
theorem counted_of_reach {build : Build} {ssid : List UInt8} {s : State}
    (h : Reach (step build) Free (start ssid) s) : Counted s := by
  have hstart : Counted (start ssid) := rfl
  refine h.invariant hstart fun {s s' a} hcount _ hs => ?_
  unfold step at hs
  cases a with
  | request r =>
    obtain ⟨-, hs⟩ := Option.ite_none_right_eq_some.1 hs
    cases hs
    cases r <;> exact hcount
  | rpc result =>
    unfold rpcStep at hs
    cases hrpc : s.rpc with
    | idle =>
      simp only [hrpc] at hs
      cases hs
    | connectedTest =>
      simp only [hrpc] at hs
      cases hs
      split
      · exact hcount.forward fun he => by cases he
      · exact hcount
    | _ =>
      simp only [hrpc] at hs
      cases hs
      (repeat' split) <;> exact hcount
  | deliver e =>
    obtain ⟨-, hs⟩ := Option.ite_none_right_eq_some.1 hs
    cases hs
    cases e <;> exact hcount
  | event result =>
    unfold eventStep at hs
    cases hevent : s.event with
    | idle =>
      simp only [hevent] at hs
      cases hs
    | disconnectedReport pending issued =>
      simp only [hevent] at hs
      cases hs
      exact counted_report hcount
    | connectedForward | startedForward | stoppedForward =>
      simp only [hevent] at hs
      cases hs
      exact hcount.forward fun he => by cases he
    | _ =>
      simp only [hevent] at hs
      cases hs
      (repeat' split) <;> exact hcount

end EspHostedOpen.Station
