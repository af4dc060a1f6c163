import EspHostedOpen.Proto.Messages
import Mathlib.Order.ConditionallyCompleteLattice.Basic
import Mathlib.Order.Lattice.Nat

/-!
# Waking the host (`host_power_save.c`)

`trigger_host_wakeup` pulses the wake-up pin and waits for the host, again and again until its
timeout has passed by the clock of `GET_CURR_TIME_IN_MS`, which divides microseconds by 100.
-/

namespace EspHostedOpen.HostWakeup

/-- What one turn of the loop meets; `time` is what `esp_timer_get_time` gives at its end. -/
structure Turn where
  create : EspErr := espOk                       -- of `esp_timer_create`, in the first turn
  start : EspErr := espOk                        -- of `esp_timer_start_once`
  responds : Bool := false                       -- `xSemaphoreTake` of `wakeup_sem`
  time : Nat

/-- `wakeup_success`, and how many turns were made. -/
structure Result where
  success : Bool
  turns : Nat
  deriving DecidableEq, Repr

/-- `GET_CURR_TIME_IN_MS`, of a reading of the clock. -/
def getCurrTimeInMs (time : Nat) : UInt64 := UInt64.ofNat (time / 100)

/-- The loop, for `fuel` turns at most, from turn `k` on; `timer` is whether the timer is there. -/
def triggerLoop (timeoutMs : UInt32) (startTime : UInt64) (turn : Nat → Turn) : Nat → Nat → Bool →
    Option Result
  | 0, _, _ => none
  | fuel + 1, k, timer =>
    if !timer && (turn k).create ≠ espOk then some ⟨false, k + 1⟩
    else if (turn k).start ≠ espOk then some ⟨false, k + 1⟩
    else if (turn k).responds then some ⟨true, k + 1⟩
    else if getCurrTimeInMs (turn k).time - startTime > timeoutMs.toUInt64 then some ⟨false, k + 1⟩
    else triggerLoop timeoutMs startTime turn fuel (k + 1) true

/-- `trigger_host_wakeup`; `start` is what the clock shows at first. -/
def triggerHostWakeup (fuel : Nat) (timeoutMs : UInt32) (start : Nat) (turn : Nat → Turn) :
    Option Result :=
  triggerLoop timeoutMs (getCurrTimeInMs start) turn fuel 0 false

/-- The timer can be created and started, the host does not respond, and the clock does not go
back. -/
structure Unanswered (start : Nat) (turn : Nat → Turn) : Prop where
  create : ∀ k, (turn k).create = espOk
  started : ∀ k, (turn k).start = espOk
  silent : ∀ k, (turn k).responds = false
  from_start : start ≤ (turn 0).time
  mono : Monotone fun k => (turn k).time
  int64 : ∀ k, (turn k).time < 2 ^ 63

/-- The turns that end more than `timeoutMs` milliseconds after the start. -/
def Late (timeoutMs : UInt32) (start : Nat) (turn : Nat → Turn) : Set Nat :=
  {k | 1000 * timeoutMs.toNat < (turn k).time - start}

/-- **Not abandoned early**: the first turn that ends more than `timeoutMs` milliseconds after the
start is the last. -/
def GivesUpInTime (timeoutMs : UInt32) (start : Nat) (turn : Nat → Turn) : Prop :=
  ∀ n, (∃ fuel, triggerHostWakeup fuel timeoutMs start turn = some ⟨false, n + 1⟩) ↔
    IsLeast (Late timeoutMs start turn) n

/-! ## The loop -/

variable {timeoutMs : UInt32} {start : Nat} {turn : Nat → Turn}

/-- The turns at whose end the loop sees the timeout passed. -/
def Expired (timeoutMs : UInt32) (start : Nat) (turn : Nat → Turn) : Set Nat :=
  {k | timeoutMs.toNat < (turn k).time / 100 - start / 100}

namespace Unanswered

theorem start_le (h : Unanswered start turn) (k : Nat) : start ≤ (turn k).time :=
  h.from_start.trans (h.mono (Nat.zero_le k))

/-- The test at the end of a turn. -/
theorem test_iff (h : Unanswered start turn) (k : Nat) :
    getCurrTimeInMs (turn k).time - getCurrTimeInMs start > timeoutMs.toUInt64 ↔
      k ∈ Expired timeoutMs start turn := by
  have hle : start / 100 ≤ (turn k).time / 100 := Nat.div_le_div_right (h.start_le k)
  have hlt := h.int64 k
  have htime : (getCurrTimeInMs (turn k).time).toNat = (turn k).time / 100 :=
    UInt64.toNat_ofNat_of_lt' (by show _ < 2 ^ 64; omega)
  have hstart : (getCurrTimeInMs start).toNat = start / 100 :=
    UInt64.toNat_ofNat_of_lt' (by show _ < 2 ^ 64; omega)
  have hsub : getCurrTimeInMs start ≤ getCurrTimeInMs (turn k).time := by
    rwa [UInt64.le_iff_toNat_le, htime, hstart]
  rw [gt_iff_lt, UInt64.lt_iff_toNat_lt, UInt64.toNat_sub_of_le _ _ hsub, htime, hstart,
    UInt32.toNat_toUInt64]
  rfl

/-- One turn. -/
theorem triggerLoop_succ (h : Unanswered start turn) (fuel k : Nat) (timer : Bool) :
    triggerLoop timeoutMs (getCurrTimeInMs start) turn (fuel + 1) k timer =
      if getCurrTimeInMs (turn k).time - getCurrTimeInMs start >
        timeoutMs.toUInt64 then some ⟨false, k + 1⟩
      else triggerLoop timeoutMs (getCurrTimeInMs start) turn fuel (k + 1) true := by
  have hcreate : ¬(!timer && decide ((turn k).create ≠ espOk)) = true := by simp [h.create k]
  rw [triggerLoop, if_neg hcreate, if_neg (not_not.2 (h.started k)), h.silent k,
    if_neg Bool.false_ne_true]

/-- The loop ends with the first turn, from turn `k` on, that sees the timeout passed. -/
theorem triggerLoop_iff (h : Unanswered start turn) {fuel k n : Nat} {timer : Bool} :
    triggerLoop timeoutMs (getCurrTimeInMs start) turn fuel k timer = some ⟨false, n + 1⟩ ↔
      (k ≤ n ∧ n < k + fuel) ∧ n ∈ Expired timeoutMs start turn ∧
        ∀ j, k ≤ j → j < n → j ∉ Expired timeoutMs start turn := by
  induction fuel generalizing k timer with
  | zero =>
    refine ⟨nofun, fun h => ?_⟩
    omega
  | succ fuel ih =>
    rw [h.triggerLoop_succ]
    by_cases hk : k ∈ Expired timeoutMs start turn
    · rw [if_pos ((h.test_iff k).2 hk)]
      constructor
      · intro heq
        cases heq
        exact ⟨⟨le_refl _, by omega⟩, hk, fun j hkj hjk => by omega⟩
      · rintro ⟨⟨hkn, -⟩, -, hfirst⟩
        rcases hkn.eq_or_lt with rfl | hlt
        · rfl
        · exact absurd hk (hfirst k (le_refl k) hlt)
    · rw [if_neg (mt (h.test_iff k).1 hk), ih]
      constructor
      · rintro ⟨⟨hkn, hn⟩, hexpired, hfirst⟩
        refine ⟨⟨by omega, by omega⟩, hexpired, fun j hkj hjn => ?_⟩
        rcases hkj.eq_or_lt with rfl | hlt
        · exact hk
        · exact hfirst j hlt hjn
      · rintro ⟨⟨hkn, hn⟩, hexpired, hfirst⟩
        rcases hkn.eq_or_lt with rfl | hlt
        · exact absurd hexpired hk
        · exact ⟨⟨hlt, by omega⟩, hexpired, fun j hkj hjn => hfirst j (Nat.le_of_succ_le hkj) hjn⟩

/-- **What `trigger_host_wakeup` does**: the first turn that sees the timeout passed is the last. -/
theorem triggerHostWakeup_iff (h : Unanswered start turn) (n : Nat) :
    (∃ fuel, triggerHostWakeup fuel timeoutMs start turn = some ⟨false, n + 1⟩) ↔
      IsLeast (Expired timeoutMs start turn) n := by
  constructor
  · rintro ⟨fuel, hfuel⟩
    obtain ⟨-, hexpired, hfirst⟩ := h.triggerLoop_iff.1 hfuel
    exact ⟨hexpired, fun j hj => Nat.le_of_not_lt fun hlt => hfirst j (Nat.zero_le j) hlt hj⟩
  · rintro ⟨hexpired, hleast⟩
    refine ⟨n + 1, h.triggerLoop_iff.2 ⟨⟨Nat.zero_le n, by omega⟩, hexpired, fun j _ hjn hj => ?_⟩⟩
    exact absurd (hleast hj) (Nat.not_le_of_lt hjn)

end Unanswered

/-! ## The two clocks -/

/-- Sets that are closed upwards have the same least elements only where they are the same. -/
theorem isLeast_iff_eq {s t : Set Nat} (hs : IsUpperSet s) (ht : IsUpperSet t) :
    (∀ n, IsLeast s n ↔ IsLeast t n) ↔ s = t := by
  have hsub : ∀ {s t : Set Nat}, IsUpperSet t → (∀ n, IsLeast s n → IsLeast t n) → s ⊆ t := by
    intro s t ht h k hk
    obtain ⟨n, hn⟩ : ∃ n, IsLeast s n := ⟨sInf s, Nat.sInf_mem ⟨k, hk⟩, fun j hj => Nat.sInf_le hj⟩
    exact ht (hn.2 hk) (h n hn).1
  constructor
  · exact fun h => Set.Subset.antisymm (hsub ht fun n => (h n).1) (hsub hs fun n => (h n).2)
  · rintro rfl n
    exact Iff.rfl

/-- The loop sees the timeout pass when it does: no turn ends within the timeout and yet more than a
tenth of it after the start, and without a timeout the clock advances by tenths of a millisecond. -/
def TenthsAgree (timeoutMs : UInt32) (start : Nat) (turn : Nat → Turn) : Prop :=
  ∀ k, ((turn k).time - start ≤ 1000 * timeoutMs.toNat → (turn k).time / 100 ≤
    start / 100 + timeoutMs.toNat) ∧
    (timeoutMs = 0 → start < (turn k).time → start / 100 < (turn k).time / 100)

theorem Unanswered.isUpperSet_late (h : Unanswered start turn) : IsUpperSet
    (Late timeoutMs start turn) := by
  intro k j hkj hk
  exact lt_of_lt_of_le hk (Nat.sub_le_sub_right (h.mono hkj) start)

theorem Unanswered.isUpperSet_expired (h : Unanswered start turn) :
    IsUpperSet (Expired timeoutMs start turn) := by
  intro k j hkj hk
  exact lt_of_lt_of_le hk (Nat.sub_le_sub_right (Nat.div_le_div_right (h.mono hkj)) _)

/-- **The host is given its time** exactly where the tenths of milliseconds agree with the
timeout. -/
theorem givesUpInTime_iff (timeoutMs : UInt32) (start : Nat) (turn : Nat → Turn)
    (h : Unanswered start turn) :
    GivesUpInTime timeoutMs start turn ↔ TenthsAgree timeoutMs start turn := by
  have hleast : GivesUpInTime timeoutMs start turn ↔
      ∀ n, IsLeast (Expired timeoutMs start turn) n ↔ IsLeast (Late timeoutMs start turn) n :=
    forall_congr' fun n => iff_congr (h.triggerHostWakeup_iff n) Iff.rfl
  rw [hleast, isLeast_iff_eq h.isUpperSet_expired h.isUpperSet_late, Set.ext_iff]
  refine forall_congr' fun k => ?_
  have hzero : timeoutMs = 0 ↔ timeoutMs.toNat = 0 := UInt32.toNat_inj.symm
  have hstart := h.start_le k
  show (timeoutMs.toNat < (turn k).time / 100 - start / 100 ↔
    1000 * timeoutMs.toNat < (turn k).time - start) ↔ _
  rw [hzero]
  omega

/-- A second passes with every turn. -/
def everySecond (k : Nat) : Turn where
  time := min (1000000 * (k + 1)) (2 ^ 62)

theorem unanswered_everySecond : Unanswered 0 everySecond where
  create := fun _ => rfl
  started := fun _ => rfl
  silent := fun _ => rfl
  from_start := Nat.zero_le _
  mono := by
    intro k j hkj
    show min (1000000 * (k + 1)) (2 ^ 62) ≤ min (1000000 * (j + 1)) (2 ^ 62)
    omega
  int64 := by
    intro k
    show min (1000000 * (k + 1)) (2 ^ 62) < 2 ^ 63
    omega

/-- A timeout of a tenth of a second is over with the first turn. -/
theorem givesUpInTime_everySecond : GivesUpInTime 100 0 everySecond :=
  (givesUpInTime_iff 100 0 everySecond unanswered_everySecond).2 fun k => by
    have htime : (everySecond k).time = min (1000000 * (k + 1)) (2 ^ 62) := rfl
    have htimeout : (100 : UInt32).toNat = 100 := rfl
    refine ⟨fun h => ?_, fun h => absurd h (by decide)⟩
    rw [htime, htimeout] at *
    omega

/-- The host is given up after one second of five. -/
theorem not_givesUpInTime_everySecond : ¬GivesUpInTime 5000 0 everySecond := by
  intro h
  have hfirst : triggerHostWakeup 1 5000 0 everySecond = some ⟨false, 0 + 1⟩ := by decide
  have hlate : 1000 * 5000 < 1000000 * (0 + 1) - 0 := ((h 0).1 ⟨1, hfirst⟩).1
  exact absurd hlate (by decide)

end EspHostedOpen.HostWakeup
