import EspHostedOpen.Slave.Boot

/-!
# Does the boot get through, and does the radio stay alone until Wi-Fi is up?

`app_main` treats a failure of `slave_phy_apply` as fatal, and `on_set_phy_11p` calls into
`libphy.a` without a driver call in front. `Ready` says at which steps that matters; in every run
that meets it, `boot_safe` holds. That `app_main` gets to the registrations is a count: each of its
steps is one fewer left (`boot_remaining`), and the other tasks leave it where it is (`boot_frame`).
-/

namespace EspHostedOpen.Boot

open Transition

/-! ## The condition -/

/-- Between a driver call that has succeeded and the call into `libphy.a` that it stands in front
of. -/
def ApplyPc.window : ApplyPc → Bool
  | .arm | .tune => true
  | _ => false

def BootPc.window : BootPc → Bool
  | .apply pc => pc.window
  | _ => false

def RpcPc.window : RpcPc → Bool
  | .changeChannel _ => true
  | _ => false

def EventPc.window : EventPc → Bool
  | .apply pc => pc.window
  | .idle => false

/-- Some task is about to call into `libphy.a` on the strength of a driver call. -/
def State.tuning (s : State) : Bool := s.boot.window || s.rpc.window || s.event.window

/-- The calls under `ESP_ERROR_CHECK` succeed, with the driver initialised when `app_main` comes to
those of `slave_phy_apply`; the driver is not shut down under a task that is about to call into
`libphy.a`; and `SET_PHY_11P` comes while the driver is initialised. -/
def Ready (s : State) : Action → Prop
  | .boot result =>
    match s.boot with
    | .nvsInit => result = espOk ∨ result = espErrNvsNoFreePages ∨ result = espErrNvsNewVersionFound
    | .nvsErase | .nvsInitAgain | .transport | .staStorage | .staMode | .staPs | .staStart
    | .hostReset
    | .registerEvents | .staInit .real => result = espOk
    | .staInit (.deinit _) => result = espOk → s.tuning = false
    | .apply .country | .apply .channel => s.initialised = true ∧ result = espOk
    | _ => True
  | .rpc result =>
    match s.rpc with
    | .init (.deinit _) | .deinit => result = espOk → s.tuning = false
    | .phy11p _ => s.initialised = true
    | _ => True
  | _ => True

/-! ## The invariant -/

structure Inv (s : State) : Prop where
  alive : s.boot ≠ .aborted
  calls : ∀ c ∈ s.phyCalls, c.2 = true
  tuned : s.tuning = true → s.initialised = true

theorem inv_start : Inv start where
  alive := fun h => by cases h
  calls := fun _ hc => by cases hc
  tuned := fun h => absurd h Bool.false_ne_true

theorem answer_ok {s : State} {result : EspErr} (h : s.answer result = espOk) :
    s.initialised = true := by
  by_contra hno
  rw [State.answer, if_neg hno] at h
  exact absurd h (by decide)

theorem answer_of_initialised {s : State} {result : EspErr} (h : s.initialised = true) :
    s.answer result = result := if_pos h

/-- The window of one task at a time. -/
theorem tuning_iff {s : State} :
    s.tuning = true ↔ s.boot.window = true ∨ s.rpc.window = true ∨ s.event.window = true := by
  simp only [State.tuning, Bool.or_eq_true, or_assoc]

namespace Inv

variable {s : State}

theorem setBoot (h : Inv s) {pc : BootPc} (halive : pc ≠ .aborted)
    (hwindow : pc.window = true → s.initialised = true) : Inv (s.setBoot pc) := by
  refine ⟨halive, h.calls, fun htuning => ?_⟩
  rcases tuning_iff.1 htuning with hb | hr | he
  · exact hwindow hb
  · exact h.tuned (tuning_iff.2 (.inr (.inl hr)))
  · exact h.tuned (tuning_iff.2 (.inr (.inr he)))

theorem setRpc (h : Inv s) {pc : RpcPc} (hwindow : pc.window = true → s.initialised = true) :
    Inv (s.setRpc pc) := by
  refine ⟨h.alive, h.calls, fun htuning => ?_⟩
  rcases tuning_iff.1 htuning with hb | hr | he
  · exact h.tuned (tuning_iff.2 (.inl hb))
  · exact hwindow hr
  · exact h.tuned (tuning_iff.2 (.inr (.inr he)))

theorem setEvent (h : Inv s) {pc : EventPc} (hwindow : pc.window = true → s.initialised = true) :
    Inv (s.setEvent pc) := by
  refine ⟨h.alive, h.calls, fun htuning => ?_⟩
  rcases tuning_iff.1 htuning with hb | hr | he
  · exact h.tuned (tuning_iff.2 (.inl hb))
  · exact h.tuned (tuning_iff.2 (.inr (.inl hr)))
  · exact hwindow he

/-- `ESP_ERROR_CHECK` lets a success pass. -/
theorem check (h : Inv s) {err : EspErr} {next : BootPc} (hok : err = espOk)
    (halive : next ≠ .aborted)
    (hwindow : next.window = false) : Inv (s.check err next) := by
  rw [State.check, if_pos hok]
  refine h.setBoot halive fun hw => ?_
  rw [hwindow] at hw
  cases hw

/-- A call into `libphy.a`. -/
theorem phy (h : Inv s) (hinit : s.initialised = true) (c : PhyCall) : Inv (s.phy c) := by
  refine ⟨h.alive, fun d hd => ?_, h.tuned⟩
  rcases List.mem_append.1 hd with hold | hnew
  · exact h.calls d hold
  · rw [List.mem_singleton.1 hnew]
    exact hinit

/-- The driver is shut down while nobody relies on it. -/
theorem shutDown (h : Inv s) {result : EspErr} (hguard : result = espOk → s.tuning = false) :
    Inv { s with initialised := s.initialised && result != espOk } := by
  refine ⟨h.alive, h.calls, fun htuning => ?_⟩
  have hbusy : s.tuning = true := htuning
  have hno : result ≠ espOk := by
    intro hok
    rw [hguard hok] at hbusy
    cases hbusy
  simp [h.tuned hbusy, hno]

/-! ### The shared functions -/

/-- `__wrap_esp_wifi_init` shuts the driver down in one step only. -/
theorem wrap (h : Inv s) {result : EspErr} {pc : InitPc}
    (hguard : ∀ cfg, pc = .deinit cfg → result = espOk → s.tuning = false) :
    Inv (wrapEspWifiInit result s pc).1 := by
  cases pc with
  | deinit cfg => exact h.shutDown (hguard cfg rfl)
  | real =>
    refine ⟨h.alive, h.calls, fun htuning => ?_⟩
    have hinit := h.tuned htuning
    simp [wrapEspWifiInit, hinit]
  | _ => exact ⟨h.alive, h.calls, h.tuned⟩

/-- `slave_phy_apply` calls into `libphy.a` in its windows only. -/
theorem apply (h : Inv s) {channel : UInt8} {result : EspErr} {pc : ApplyPc}
    (hpc : pc.window = true → s.initialised = true) :
    Inv (slavePhyApply channel result s pc).1 := by
  cases pc with
  | arm => exact h.phy (hpc rfl) _
  | tune => exact h.phy (hpc rfl) _
  | _ => exact h

end Inv

/-- `slave_phy_apply` comes to a window past a driver call that succeeded. -/
theorem apply_window {channel : UInt8} {result : EspErr} {s : State} {pc next : ApplyPc}
    (h : (slavePhyApply channel result s pc).2 = .inl next) (hwindow : next.window = true) :
    (slavePhyApply channel result s pc).1.initialised = true := by
  cases pc with
  | country | channel =>
    simp only [slavePhyApply] at h ⊢
    split at h
    · exact answer_ok ‹_›
    · cases h
  | arm | tune =>
    cases h
    cases hwindow
  | ps => cases h

/-- One step of `slave_phy_apply` that goes on: the next one is ready for its window. -/
theorem Inv.apply_next {channel : UInt8} {result : EspErr} {s s' : State}
    {pc next : ApplyPc} (h : Inv s)
    (hpc : pc.window = true → s.initialised = true)
    (heq : slavePhyApply channel result s pc = (s', .inl next)) :
    Inv s' ∧ (next.window = true → s'.initialised = true) := by
  have happly : Inv (slavePhyApply channel result s pc).1 := h.apply hpc
  have hwindow : next.window = true → (slavePhyApply channel result s pc).1.initialised = true :=
    apply_window (congrArg Prod.snd heq)
  rw [heq] at happly hwindow
  exact ⟨happly, hwindow⟩

/-- It fails where a driver call fails. -/
theorem apply_error {channel : UInt8} {result err : EspErr} {s : State} {pc : ApplyPc}
    (h : (slavePhyApply channel result s pc).2 = .inr err)
    (hok : pc = .country ∨ pc = .channel → s.initialised = true ∧ result = espOk) :
    err = espOk := by
  cases pc with
  | country =>
    obtain ⟨hinit, rfl⟩ := hok (.inl rfl)
    simp only [slavePhyApply, answer_of_initialised hinit] at h
    cases h
  | channel =>
    obtain ⟨hinit, rfl⟩ := hok (.inr rfl)
    simp only [slavePhyApply, answer_of_initialised hinit] at h
    cases h
  | arm | tune => cases h
  | ps =>
    cases h
    rfl

/-- `__wrap_esp_wifi_init` fails where the driver does. -/
theorem wrap_error {result err : EspErr} {s : State} {pc : InitPc}
    (h : (wrapEspWifiInit result s pc).2 = .inr err) (hok : pc = .real → result = espOk) :
    err = espOk := by
  cases pc with
  | test cfg =>
    simp only [wrapEspWifiInit] at h
    (repeat' split at h) <;> cases h
    rfl
  | real =>
    simp only [wrapEspWifiInit, if_pos (hok rfl)] at h
    cases h
  | set =>
    cases h
    rfl
  | _ => cases h

/-! ### Steps -/

/-- **One step of `app_main`** keeps the invariant. -/
theorem inv_boot {build : Build} {s s' : State} {result : EspErr} (h : Inv s)
    (hguard : Ready s (.boot result)) (hs : bootStep build result s = some s') : Inv s' := by
  unfold bootStep at hs
  cases hboot : s.boot with
  | nvsInit =>
    simp only [hboot] at hs
    simp only [Ready, hboot] at hguard
    split at hs
    · cases hs
      exact h.setBoot (fun heq => by cases heq) fun hw => by cases hw
    · rename_i hno
      cases hs
      exact h.check (hguard.resolve_right hno) (fun heq => by cases heq) rfl
  | nvsErase | nvsInitAgain | staStorage | staMode | staPs | staStart | hostReset =>
    simp only [hboot] at hs
    simp only [Ready, hboot] at hguard
    cases hs
    exact h.check hguard (fun heq => by cases heq) rfl
  | transport =>
    simp only [hboot] at hs
    simp only [Ready, hboot] at hguard
    cases hs
    have hup : Inv { s with online := result == espOk } := ⟨h.alive, h.calls, h.tuned⟩
    split
    · exact hup.check hguard (fun heq => by cases heq) rfl
    · exact hup.check hguard (fun heq => by cases heq) rfl
  | staInit pc =>
    simp only [hboot] at hs
    have hwrap : Inv (wrapEspWifiInit result s pc).1 := by
      refine h.wrap fun cfg hpc => ?_
      subst hpc
      simp only [Ready, hboot] at hguard
      exact hguard
    split at hs
    · rename_i s₁ pc' heq
      cases hs
      rw [heq] at hwrap
      exact hwrap.setBoot (fun heq => by cases heq) fun hw => by cases hw
    · rename_i s₁ err heq
      cases hs
      have hok : err = espOk := by
        refine wrap_error (congrArg Prod.snd heq) fun hpc => ?_
        subst hpc
        simp only [Ready, hboot] at hguard
        exact hguard
      rw [heq] at hwrap
      exact hwrap.check hok (fun heq => by cases heq) rfl
  | registerEvents =>
    simp only [hboot] at hs
    simp only [Ready, hboot] at hguard
    cases hs
    have hup : Inv { s with onWifiEvent := result == espOk } := ⟨h.alive, h.calls, h.tuned⟩
    split
    · exact hup.check hguard (fun heq => by cases heq) rfl
    · exact h.setBoot (fun heq => by cases heq) fun hw => by cases hw
  | apply pc =>
    simp only [hboot] at hs
    have hpc : pc.window = true → s.initialised = true := by
      intro hw
      refine h.tuned (tuning_iff.2 (.inl ?_))
      rw [hboot]
      exact hw
    split at hs
    · rename_i s₁ pc' heq
      cases hs
      obtain ⟨happly, hwindow⟩ := h.apply_next hpc heq
      exact happly.setBoot (fun heq => by cases heq) hwindow
    · rename_i s₁ err heq
      cases hs
      have hok : err = espOk := by
        refine apply_error (congrArg Prod.snd heq) fun hcase => ?_
        rcases hcase with rfl | rfl
        · simp only [Ready, hboot] at hguard
          exact hguard
        · simp only [Ready, hboot] at hguard
          exact hguard
      have happly : Inv (slavePhyApply build.channel result s pc).1 := h.apply hpc
      rw [heq] at happly
      exact happly.check hok (fun heq => by cases heq) rfl
  | registerHandlers =>
    simp only [hboot] at hs
    cases hs
    have hup : Inv { s with phyHandlers := true } := ⟨h.alive, h.calls, h.tuned⟩
    exact hup.setBoot (fun heq => by cases heq) fun hw => by cases hw
  | registerExtras | registerWireless =>
    simp only [hboot] at hs
    cases hs
    exact h.setBoot (fun heq => by cases heq) fun hw => by cases hw
  | serving | aborted =>
    simp only [hboot] at hs
    cases hs

/-- **One step of the RPC task** keeps the invariant. -/
theorem inv_rpc {s s' : State} {result : EspErr} (h : Inv s) (hguard : Ready s (.rpc result))
    (hs : rpcStep result s = some s') : Inv s' := by
  unfold rpcStep at hs
  cases hrpc : s.rpc with
  | idle =>
    simp only [hrpc] at hs
    cases hs
  | init pc =>
    simp only [hrpc] at hs
    have hwrap : Inv (wrapEspWifiInit result s pc).1 := by
      refine h.wrap fun cfg hpc => ?_
      subst hpc
      simp only [Ready, hrpc] at hguard
      exact hguard
    split at hs
    all_goals
      rename_i heq
      cases hs
      rw [heq] at hwrap
      exact hwrap.setRpc fun hw => by cases hw
  | deinitClear =>
    simp only [hrpc] at hs
    cases hs
    have hup : Inv { s with wifiInitialized := false } := ⟨h.alive, h.calls, h.tuned⟩
    exact hup.setRpc fun hw => by cases hw
  | deinit =>
    simp only [hrpc] at hs
    simp only [Ready, hrpc] at hguard
    cases hs
    exact (h.shutDown hguard).setRpc fun hw => by cases hw
  | start | stop | setCountry channel =>
    simp only [hrpc] at hs
    cases hs
    exact h.setRpc fun hw => by cases hw
  | setChannel channel =>
    simp only [hrpc] at hs
    cases hs
    split
    · exact h.setRpc fun _ => answer_ok ‹_›
    · exact h.setRpc fun hw => by cases hw
  | changeChannel channel =>
    simp only [hrpc] at hs
    cases hs
    have hinit : s.initialised = true := by
      refine h.tuned (tuning_iff.2 (.inr (.inl ?_)))
      rw [hrpc]
      rfl
    exact (h.phy hinit _).setRpc fun hw => by cases hw
  | phy11p enable =>
    simp only [hrpc] at hs
    simp only [Ready, hrpc] at hguard
    cases hs
    exact (h.phy hguard _).setRpc fun hw => by cases hw

/-- **One step of the event task** keeps the invariant. -/
theorem inv_event {build : Build} {s s' : State} {result : EspErr} (h : Inv s)
    (hs : eventStep build result s = some s') : Inv s' := by
  unfold eventStep at hs
  cases hevent : s.event with
  | idle =>
    simp only [hevent] at hs
    cases hs
  | apply pc =>
    simp only [hevent] at hs
    have hpc : pc.window = true → s.initialised = true := by
      intro hw
      refine h.tuned (tuning_iff.2 (.inr (.inr ?_)))
      rw [hevent]
      exact hw
    split at hs
    · rename_i s₁ pc' heq
      cases hs
      obtain ⟨happly, hwindow⟩ := h.apply_next hpc heq
      exact happly.setEvent hwindow
    · rename_i s₁ err heq
      cases hs
      have happly : Inv (slavePhyApply build.channel result s pc).1 := h.apply hpc
      rw [heq] at happly
      exact happly.setEvent fun hw => by cases hw

theorem inv_request {s s' : State} {r : Request} (h : Inv s) (hs : request s r = some s') :
    Inv s' := by
  unfold request at hs
  cases r <;>
  · obtain ⟨-, hs⟩ := Option.ite_none_right_eq_some.1 hs
    cases hs
    exact h.setRpc fun hw => by cases hw

theorem inv_step {build : Build} {s s' : State} {a : Action} (h : Inv s) (hguard : Ready s a)
    (hs : step build s a = some s') : Inv s' := by
  unfold step at hs
  cases a with
  | boot result => exact inv_boot h hguard hs
  | request r =>
    obtain ⟨-, hs⟩ := Option.ite_none_right_eq_some.1 hs
    exact inv_request h hs
  | rpc result =>
    obtain ⟨-, hs⟩ := Option.ite_none_right_eq_some.1 hs
    exact inv_rpc h hguard hs
  | wifiReady =>
    obtain ⟨-, hs⟩ := Option.ite_none_right_eq_some.1 hs
    cases hs
    exact h.setEvent fun hw => by cases hw
  | event result =>
    obtain ⟨-, hs⟩ := Option.ite_none_right_eq_some.1 hs
    exact inv_event h hs

/-! ## Progress of `app_main` -/

def ApplyPc.remaining : ApplyPc → Nat
  | .country => 5
  | .arm => 4
  | .channel => 3
  | .tune => 2
  | .ps => 1

def InitPc.remaining : InitPc → Nat
  | .test _ => 7
  | .stop _ => 6
  | .deinit _ => 5
  | .clear _ => 4
  | .cache _ => 3
  | .real => 2
  | .set => 1

/-- At most so many steps are left. -/
def BootPc.remaining : BootPc → Nat
  | .nvsInit => 25
  | .nvsErase => 24
  | .nvsInitAgain => 23
  | .transport => 22
  | .staInit pc => 14 + pc.remaining
  | .staStorage => 14
  | .staMode => 13
  | .staPs => 12
  | .staStart => 11
  | .hostReset => 10
  | .registerEvents => 9
  | .apply pc => 3 + pc.remaining
  | .registerHandlers => 3
  | .registerExtras => 2
  | .registerWireless => 1
  | .serving | .aborted => 0

theorem check_remaining {s : State} {err : EspErr} {next : BootPc} :
    (s.check err next).boot.remaining ≤ next.remaining := by
  unfold State.check State.setBoot
  split
  · exact Nat.le_refl _
  · exact Nat.zero_le _

theorem wrap_remaining {result : EspErr} {s : State} {pc next : InitPc}
    (h : (wrapEspWifiInit result s pc).2 = .inl next) : next.remaining < pc.remaining := by
  cases pc <;> simp only [wrapEspWifiInit] at h <;> (repeat' split at h) <;> cases h <;>
    simp [InitPc.remaining]

theorem apply_remaining {channel : UInt8} {result : EspErr} {s : State} {pc next : ApplyPc}
    (h : (slavePhyApply channel result s pc).2 = .inl next) : next.remaining < pc.remaining := by
  cases pc <;> simp only [slavePhyApply] at h <;> (repeat' split at h) <;> cases h <;> decide

/-- **Each step of `app_main` is one fewer left.** -/
theorem boot_remaining {build : Build} {s s' : State} {result : EspErr}
    (hs : bootStep build result s = some s') : s'.boot.remaining < s.boot.remaining := by
  have hcheck : ∀ {t : State} {err : EspErr} {next : BootPc}, next.remaining < s.boot.remaining →
      (t.check err next).boot.remaining < s.boot.remaining := fun hlt =>
    Nat.lt_of_le_of_lt check_remaining hlt
  unfold bootStep at hs
  cases hboot : s.boot with
  | nvsInit =>
    simp only [hboot] at hs hcheck
    cases hs
    split
    · show BootPc.remaining .nvsErase < _
      decide
    · exact hcheck (by decide)
  | transport =>
    simp only [hboot] at hs hcheck
    cases hs
    refine hcheck ?_
    split
    · show 14 + 7 < 22
      decide
    · decide
  | staInit pc =>
    simp only [hboot] at hs hcheck
    have hpos : 0 < pc.remaining := by cases pc <;> simp [InitPc.remaining]
    split at hs
    · rename_i heq
      cases hs
      have hlt := wrap_remaining (congrArg Prod.snd heq)
      exact Nat.add_lt_add_left hlt 14
    · cases hs
      refine hcheck ?_
      simp only [BootPc.remaining]
      omega
  | registerEvents =>
    simp only [hboot] at hs hcheck
    cases hs
    split
    · exact hcheck (by decide)
    · show BootPc.remaining (.apply .country) < _
      decide
  | apply pc =>
    simp only [hboot] at hs hcheck
    have hpos : 0 < pc.remaining := by cases pc <;> decide
    split at hs
    · rename_i heq
      cases hs
      have hlt := apply_remaining (congrArg Prod.snd heq)
      exact Nat.add_lt_add_left hlt 3
    · cases hs
      refine hcheck ?_
      simp only [BootPc.remaining]
      omega
  | nvsErase | nvsInitAgain | staStorage | staMode | staPs | staStart | hostReset =>
    simp only [hboot] at hs hcheck
    cases hs
    exact hcheck (by decide)
  | registerHandlers | registerExtras | registerWireless =>
    simp only [hboot] at hs
    cases hs
    simp [State.setBoot, BootPc.remaining]
  | serving | aborted =>
    simp only [hboot] at hs
    cases hs

/-- Until it aborts or serves, `app_main` goes on. -/
theorem boot_enabled {build : Build} {s : State} (habort : s.boot ≠ .aborted)
    (hserve : s.boot ≠ .serving)
    (result : EspErr) : (bootStep build result s).isSome = true := by
  unfold bootStep
  split <;> (try split) <;> first | rfl | exact absurd ‹_› hserve | exact absurd ‹_› habort

/-! ## Runs -/

def Action.isBoot : Action → Bool
  | .boot _ => true
  | _ => false

/-- The test for `Ready`. -/
def ready (s : State) : Action → Bool
  | .boot result =>
    match s.boot with
    | .nvsInit => result == espOk ||
      (result == espErrNvsNoFreePages || result == espErrNvsNewVersionFound)
    | .nvsErase | .nvsInitAgain | .transport | .staStorage | .staMode | .staPs | .staStart
    | .hostReset
    | .registerEvents | .staInit .real => result == espOk
    | .staInit (.deinit _) => result != espOk || !s.tuning
    | .apply .country | .apply .channel => s.initialised && result == espOk
    | _ => true
  | .rpc result =>
    match s.rpc with
    | .init (.deinit _) | .deinit => result != espOk || !s.tuning
    | .phy11p _ => s.initialised
    | _ => true
  | _ => true

theorem ready_iff {s : State} {a : Action} : ready s a = true ↔ Ready s a := by
  unfold ready Ready
  cases a with
  | boot result => dsimp only; split <;> simp [imp_iff_not_or]
  | rpc result => dsimp only; split <;> simp [imp_iff_not_or]
  | _ => simp

/-- **What the boot owes**: no abort, the three registrations after so many steps of `app_main`,
which always has one more until then, and no call into `libphy.a` on a driver that is not
initialised. -/
structure BootsSafely (build : Build) (as : List Action) (s : State) : Prop where
  alive : s.boot ≠ .aborted
  registers : 25 ≤ as.countP Action.isBoot → s.boot = .serving
  goesOn : s.boot ≠ .serving → ∀ result, (step build s (.boot result)).isSome = true
  radio : ∀ c ∈ s.phyCalls, c.2 = true

theorem wrap_boot (result : EspErr) (s : State) (pc : InitPc) :
    (wrapEspWifiInit result s pc).1.boot = s.boot := by
  cases pc <;> rfl

theorem apply_boot (channel : UInt8) (result : EspErr) (s : State) (pc : ApplyPc) :
    (slavePhyApply channel result s pc).1.boot = s.boot := by
  cases pc <;> rfl

/-- The other tasks leave `app_main` where it is. -/
theorem boot_frame {build : Build} {s s' : State} {a : Action} (ha : a.isBoot = false)
    (hs : step build s a = some s') : s'.boot = s.boot := by
  unfold step at hs
  cases a with
  | boot result => cases ha
  | request r =>
    obtain ⟨-, hs⟩ := Option.ite_none_right_eq_some.1 hs
    unfold request at hs
    cases r <;>
    · obtain ⟨-, hs⟩ := Option.ite_none_right_eq_some.1 hs
      cases hs
      rfl
  | rpc result =>
    obtain ⟨-, hs⟩ := Option.ite_none_right_eq_some.1 hs
    unfold rpcStep at hs
    cases hrpc : s.rpc with
    | idle =>
      simp only [hrpc] at hs
      cases hs
    | init pc =>
      simp only [hrpc] at hs
      have hboot := wrap_boot result s pc
      split at hs
      all_goals
        rename_i heq
        cases hs
        rw [heq] at hboot
        exact hboot
    | _ =>
      simp only [hrpc] at hs
      cases hs
      rfl
  | wifiReady =>
    obtain ⟨-, hs⟩ := Option.ite_none_right_eq_some.1 hs
    cases hs
    rfl
  | event result =>
    obtain ⟨-, hs⟩ := Option.ite_none_right_eq_some.1 hs
    unfold eventStep at hs
    cases hevent : s.event with
    | idle =>
      simp only [hevent] at hs
      cases hs
    | apply pc =>
      simp only [hevent] at hs
      have hboot := apply_boot build.channel result s pc
      split at hs
      all_goals
        rename_i heq
        cases hs
        rw [heq] at hboot
        exact hboot

theorem step_remaining {build : Build} {s s' : State} {a : Action} (hs : step build s a = some s') :
    a.isBoot.toNat + s'.boot.remaining ≤ s.boot.remaining := by
  cases ha : a.isBoot with
  | false =>
    rw [boot_frame ha hs]
    exact Nat.le_of_eq (Nat.zero_add _)
  | true =>
    cases a with
    | boot result =>
      have hlt := boot_remaining hs
      simp only [Bool.toNat_true]
      omega
    | _ => cases ha

theorem serving_of_remaining {pc : BootPc} (h : pc.remaining = 0) (halive : pc ≠ .aborted) :
    pc = .serving := by
  cases pc with
  | serving => rfl
  | aborted => exact absurd rfl halive
  | staInit pc =>
    simp only [BootPc.remaining] at h
    omega
  | apply pc =>
    simp only [BootPc.remaining] at h
    omega
  | _ => cases h

/-- **The boot is safe** in every run whose steps all meet `Ready`. -/
theorem boot_safe {build : Build} {as : List Action} {s : State}
    (h : run (guarded ready (step build)) start as = some s) : BootsSafely build as s := by
  have hreach : Reach (step build) Ready start s := reach_of_guarded_run (fun _ _ => ready_iff.1) h
  have hinv : Inv s := hreach.invariant inv_start fun hinv hguard hs => inv_step hinv hguard hs
  have hstep : ∀ {s s' : State} {a : Action}, guarded ready (step build) s a = some s' →
      a.isBoot.toNat + s'.boot.remaining ≤ s.boot.remaining := by
    intro s s' a hs
    unfold guarded at hs
    split at hs
    · exact step_remaining hs
    · cases hs
  have hbudget := tally_budget hstep h
  rw [tally_eq_countP h] at hbudget
  refine ⟨hinv.alive, fun hcount => ?_, fun hserve => boot_enabled hinv.alive hserve, hinv.calls⟩
  have hstart : start.boot.remaining = 25 := rfl
  refine serving_of_remaining ?_ hinv.alive
  omega

/-! ## Runs in and out of order -/

/-- Both options that let `connect_sta` initialise the driver are off, as in
`sdkconfig.defaults`. -/
def shippedBuild : Build :=
  { networkSplit := false, preProvision := false, reapplyOnWifiReady := true, channel := 180,
    initConfig := [] }

/-- The host initialises the driver while `app_main` is still on its way; later it comes with PHY
requests. -/
theorem boot_safe_shipped :
    ∃ as s, run (guarded ready (step shippedBuild)) start as = some s ∧ s.phyCalls.length = 4 ∧
      BootsSafely shippedBuild as s := by
  have hrun :
    (run (guarded ready (step shippedBuild)) start (List.replicate 2 (Action.boot espOk) ++
      .request (.wifiInit []) :: List.replicate 4 (Action.rpc espOk) ++
        List.replicate 10 (Action.boot espOk) ++
      .request (.setChannel 178) :: List.replicate 3 (Action.rpc espOk) ++
      [.request (.setPhy11p true), .rpc espOk])).map (fun s => s.phyCalls.length) = some 4 := by
    decide +kernel
  obtain ⟨s, hs, hcalls⟩ := Option.map_eq_some_iff.1 hrun
  exact ⟨_, s, hs, hcalls, boot_safe hs⟩

/-- Both halves fail. As shipped, with every call a success and no host in time, `app_main` aborts
in `esp_wifi_set_country`; and where `connect_sta` has initialised the driver, `SET_PHY_11P` after a
`deinit` calls into `libphy.a` all the same. -/
theorem boot_aborts :
    (∃ s, run (step shippedBuild) start (List.replicate 5 (Action.boot espOk)) = some s ∧
        s.boot = .aborted) ∧
      ∃ s, run (step { shippedBuild with preProvision := true }) start
          (List.replicate 20 (Action.boot espOk) ++ [.request .wifiDeinit, .rpc espOk, .rpc espOk,
            .request (.setPhy11p true), .rpc espOk]) = some s ∧
        s.boot = .serving ∧ (.phy11pSet 1 0, false) ∈ s.phyCalls := by
  constructor
  · have hrun :
      (run (step shippedBuild) start (List.replicate 5 (Action.boot espOk))).map State.boot =
        some .aborted := by
      decide +kernel
    exact Option.map_eq_some_iff.1 hrun
  · have hrun : (run (step { shippedBuild with preProvision := true }) start
        (List.replicate 20 (Action.boot espOk) ++ [.request .wifiDeinit, .rpc espOk, .rpc espOk,
          .request (.setPhy11p true), .rpc espOk])).map
        (fun s => (s.boot, decide ((.phy11pSet 1 0, false) ∈ s.phyCalls))) =
          some (.serving, true) := by
      decide +kernel
    obtain ⟨s, hs, hproj⟩ := Option.map_eq_some_iff.1 hrun
    obtain ⟨hboot, hmem⟩ := Prod.mk.inj hproj
    exact ⟨s, hs, hboot, of_decide_eq_true hmem⟩

/-! ## `app_main` on its own -/

/-- As far as `app_main` gets while nobody has initialised the driver. -/
def BootPc.early : BootPc → Bool
  | .nvsInit | .nvsErase | .nvsInitAgain | .transport | .hostReset | .registerEvents
  | .apply .country
  | .aborted => true
  | _ => false

theorem early_check {s : State} {err : EspErr} {next : BootPc} (hnext : next.early = true) :
    (s.check err next).boot.early = true := by
  unfold State.check State.setBoot
  split
  · exact hnext
  · rfl

/-- With both options off and no host in time, the registrations are never reached. -/
theorem boot_alone {build : Build} (hsplit : build.networkSplit = false)
    (hprovision : build.preProvision = false)
    {s : State} (h : Reach (step build) (fun _ a => a.isBoot = true) start s) :
    s.boot ≠ .serving := by
  have hinv : s.initialised = false ∧ s.boot.early = true := by
    refine h.invariant (I := fun s => s.initialised = false ∧ s.boot.early = true) ⟨rfl, rfl⟩ ?_
    intro s s' a hpre ha hs
    obtain ⟨hinit, hearly⟩ := hpre
    cases a with
    | boot result =>
      unfold step bootStep at hs
      cases hboot : s.boot with
      | nvsInit =>
        simp only [hboot] at hs
        cases hs
        split
        · exact ⟨hinit, rfl⟩
        · exact ⟨hinit, early_check rfl⟩
      | nvsErase | nvsInitAgain | hostReset =>
        simp only [hboot] at hs
        cases hs
        exact ⟨hinit, early_check rfl⟩
      | transport =>
        simp only [hboot, hsplit, hprovision] at hs
        cases hs
        exact ⟨hinit, early_check rfl⟩
      | registerEvents =>
        simp only [hboot] at hs
        cases hs
        split
        · exact ⟨hinit, early_check rfl⟩
        · exact ⟨hinit, rfl⟩
      | apply pc =>
        rw [hboot] at hearly
        cases pc with
        | country =>
          have hanswer : s.answer result = espErrWifiNotInit := by simp [State.answer, hinit]
          have hno : espErrWifiNotInit ≠ espOk := by decide
          simp only [hboot, slavePhyApply, hanswer, if_neg hno] at hs
          cases hs
          refine ⟨hinit, ?_⟩
          rw [State.check, if_neg hno]
          rfl
        | _ => cases hearly
      | aborted =>
        simp only [hboot] at hs
        cases hs
      | _ =>
        rw [hboot] at hearly
        cases hearly
    | _ => cases ha
  intro hserving
  rw [hserving] at hinv
  cases hinv.2

/-! ## The handlers behind the steps -/

/-- The calls into `libphy.a` among the events of a handler. -/
def phyOf (es : List Event) : List PhyCall :=
  es.filterMap fun
    | .phy c => some c
    | _ => none

/-- Uninterrupted and on an initialised driver, the steps of `on_set_channel` make the calls of the
handler. -/
theorem setChannel_calls {build : Build} {s : State} {channel : UInt8} (env : Env)
    (slave : SlaveState)
    (hrpc : s.rpc = .setCountry channel) (hinit : s.initialised = true)
    (halive : s.boot ≠ .aborted) :
    ∃ as s', run (step build) s as = some s' ∧ s'.rpc = .idle ∧
      s'.phyCalls = s.phyCalls ++ (phyOf ((Setting.setChannel channel).calls env slave)).map
      (·, true) := by
  have hcountry : step build s (.rpc espOk) = some (s.setRpc (.setChannel channel)) := by
    rw [step, if_pos halive, rpcStep, hrpc]
  have hchannel : ∀ result, step build (s.setRpc (.setChannel channel)) (.rpc result) =
      some ((s.setRpc (.setChannel channel)).setRpc
        (if result = espOk then .changeChannel channel else .idle)) := by
    intro result
    have hanswer : (s.setRpc (.setChannel channel)).answer result = result :=
      answer_of_initialised hinit
    have halive' : (s.setRpc (.setChannel channel)).boot ≠ .aborted := halive
    rw [step, if_pos halive', rpcStep]
    exact congrArg (fun err => some ((s.setRpc (.setChannel channel)).setRpc
      (if err = espOk then .changeChannel channel else .idle))) hanswer
  by_cases hok : env.err (.espWifiSetChannel 140) = espOk
  · refine ⟨[.rpc espOk, .rpc espOk, .rpc espOk],
      ((s.phy (.phyChangeChannel channel.toUInt32.toInt32 1 0 0)).setRpc .idle), ?_, rfl, ?_⟩
    · have hchange : step build (s.setRpc (.changeChannel channel)) (.rpc espOk) =
          some ((s.phy (.phyChangeChannel channel.toUInt32.toInt32 1 0 0)).setRpc .idle) := by
        have halive' : (s.setRpc (.changeChannel channel)).boot ≠ .aborted := halive
        rw [step, if_pos halive', rpcStep]
        rfl
      rw [run, hcountry, Option.bind_some, run, hchannel, if_pos rfl, Option.bind_some, run]
      exact congrArg (·.bind fun s' => run (step build) s' []) hchange
    · simp [Setting.calls, phyOf, hok, drvEvent, State.phy, State.setRpc, hinit]
  · refine ⟨[.rpc espOk, .rpc (env.err (.espWifiSetChannel 140))], s.setRpc .idle, ?_, rfl, ?_⟩
    · rw [run, hcountry, Option.bind_some, run, hchannel, if_neg hok]
      rfl
    · simp [Setting.calls, phyOf, hok, drvEvent, State.setRpc]

end EspHostedOpen.Boot
