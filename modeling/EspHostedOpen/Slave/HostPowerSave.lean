import EspHostedOpen.Lib.Ledger
import EspHostedOpen.Lib.Transition

/-!
# Host power save and wake-up (`host_power_save.c`)

`wakeup_sem`, a binary semaphore, is there while the host is awake: POWER_SAVE_OFF gives it and
POWER_SAVE_ON takes it. `trigger_host_wakeup` waits for it and gives it back. Each alert runs in a
task of its own, and any number of tasks may be in `wakeup_host`; every access to the semaphore and
to `power_save_on` is a step.

The build has `H_HOST_PS_ALLOWED` and `H_HOST_PS_DEEP_SLEEP_ALLOWED`, and `host_power_save_init` is
done. `ESP_OPEN_DATA_PATH`, which no caller passes on, is left out.
-/

namespace EspHostedOpen.HostPowerSave

open Ledger Transition

inductive Alert
  | on | off
  deriving DecidableEq, Repr

/-- An invocation, by what it is about to do. `seen` is for the statements only: whether the host
was awake at some moment of the call of `trigger_host_wakeup`. -/
inductive Op
  | alertOn                                      -- `host_power_save_alert`: `xSemaphoreTake`
  | alertOnSet                                   -- `power_save_on = 1`
  | alertOff                                     -- `power_save_on = 0`
  | alertOffGive                                 -- `xSemaphoreGive`
  | wakeupTest                                   -- `wakeup_host`: `is_host_power_saving`
  | wakeupTransport  -- `if_handle` and, if the driver is down, its `init`
  | wakeupRetest                                 -- `is_host_power_saving`
  | triggerTake (seen : Bool)                    -- `trigger_host_wakeup`: `xSemaphoreTake`
  | triggerGive (seen : Bool)                    -- `xSemaphoreGive`
  | triggerReturn (seen : Bool)                  -- `return wakeup_success`
  deriving DecidableEq, Repr

/-- A call of `trigger_host_wakeup` that has returned. -/
structure Return where
  success : Bool
  seen : Bool
  deriving DecidableEq, Repr

/-- `lastAlert` is the alert that last began. -/
structure State where
  sem : Bool := true
  powerSaveOn : Bool := false
  lastAlert : Option Alert := none
  ops : List Op := []
  returned : List Return := []
  deriving DecidableEq, Repr

/-- `host_power_save_init` has given the semaphore. -/
def boot : State := {}

/-- `power_save_on` is 0 after a POWER_SAVE_OFF with no later POWER_SAVE_ON. -/
def State.awake (s : State) : Bool := s.powerSaveOn = false && s.lastAlert = some .off

/-! ## Steps -/

/-- One step of an invocation: the invocations that it becomes. `ok` is for what the step may go
either way on: whether the transport comes up, and whether a waiter still waits. A wait that times
out and is tried again changes nothing. -/
def opStep (ok : Bool) (s : State) : Op → Option (State × List Op)
  -- a take without waiting: the semaphore is gone either way
  | .alertOn => some ({ s with sem := false, lastAlert := some .on }, [.alertOnSet])
  | .alertOnSet => some ({ s with powerSaveOn := true }, [])
  | .alertOff => some ({ s with powerSaveOn := false, lastAlert := some .off }, [.alertOffGive])
  | .alertOffGive => some ({ s with sem := true }, [])
  | .wakeupTest => some (s, if s.powerSaveOn then [.wakeupTransport] else [])
  | .wakeupTransport => some (s, if ok then [.wakeupRetest] else [])
  | .wakeupRetest => some (s, if s.powerSaveOn then [.triggerTake false] else [])
  | .triggerTake seen =>
    if ok then
      if s.sem then some ({ s with sem := false }, [.triggerGive seen]) else none
    else some ({ s with returned := s.returned ++ [⟨false, seen⟩] }, [])
  | .triggerGive seen => some ({ s with sem := true }, [.triggerReturn seen])
  | .triggerReturn seen => some ({ s with returned := s.returned ++ [⟨true, seen⟩] }, [])

/-- A call that is under way sees whether the host is awake. -/
def Op.observe (awake : Bool) : Op → Op
  | .triggerTake seen => .triggerTake (seen || awake)
  | .triggerGive seen => .triggerGive (seen || awake)
  | .triggerReturn seen => .triggerReturn (seen || awake)
  | op => op

def State.observe (s : State) : State := { s with ops := s.ops.map (Op.observe s.awake) }

/-- What is called from outside. -/
inductive Call
  | alert (a : Alert)
  | wakeupHost
  deriving DecidableEq, Repr

def Call.entry : Call → Op
  | .alert .on => .alertOn
  | .alert .off => .alertOff
  | .wakeupHost => .wakeupTest

inductive Action
  | call (c : Call)
  | op (i : Nat) (ok : Bool)                     -- the `i`th invocation under way
  deriving DecidableEq, Repr

def step (s : State) : Action → Option State
  | .call c => some { s with ops := c.entry :: s.ops }
  | .op i ok =>
    s.ops[i]?.bind fun op =>
      (opStep ok s op).map fun r => { r.1 with ops := r.2 ++ s.ops.eraseIdx i }.observe

/-- **A reported wake-up is real**: a call that returned success saw the host awake. -/
def Real (s : State) : Prop := ∀ r ∈ s.returned, r.success = true → r.seen = true

/-- Who has the semaphore to give back. -/
def Op.holding : Op → Bool
  | .triggerGive _ => true
  | _ => false

/-- POWER_SAVE_ON takes the semaphore while no waiter has it, and an alert does not begin inside one
of the other kind. -/
def Guard (s : State) : Action → Prop
  | .call _ => True
  | .op i _ =>
    match s.ops[i]? with
    | some .alertOn => ∀ op ∈ s.ops, op.holding = false ∧ op ≠ .alertOffGive
    | some .alertOff => .alertOnSet ∉ s.ops
    | _ => True

/-! ## The invariant -/

/-- No POWER_SAVE_ON has begun since the semaphore was given. -/
def State.Live (s : State) : Prop := s.powerSaveOn = false ∧ s.lastAlert ≠ some .on

/-- What an invocation can rely on where it stands. -/
def OpOk (s : State) : Op → Prop
  | .alertOnSet => s.lastAlert = some .on
  | .alertOffGive => s.Live
  | .triggerTake seen => s.lastAlert ≠ none ∧ (s.awake = true → seen = true)
  | .triggerGive seen => s.awake = true ∧ seen = true
  | .triggerReturn seen => seen = true
  | _ => True

structure Inv (s : State) : Prop where
  sem : s.sem = true → s.Live
  started : s.powerSaveOn = true → s.lastAlert ≠ none
  ops : ∀ op ∈ s.ops, OpOk s op
  real : Real s

theorem inv_boot : Inv boot where
  sem := fun _ => ⟨rfl, nofun⟩
  started := nofun
  ops := nofun
  real := nofun

section Awake

variable {s : State}

theorem awake_iff : s.awake = true ↔ s.powerSaveOn = false ∧ s.lastAlert = some .off := by
  simp [State.awake]

theorem live_of_awake (h : s.awake = true) : s.Live := by
  obtain ⟨hps, hlast⟩ := awake_iff.1 h
  exact ⟨hps, by simp [hlast]⟩

/-- Once an alert has come, a semaphore that is there says that the host is awake. -/
theorem awake_of_live (h : s.Live) (hlast : s.lastAlert ≠ none) : s.awake = true := by
  obtain ⟨hps, hon⟩ := h
  cases halert : s.lastAlert with
  | none => exact absurd halert hlast
  | some a =>
    cases a with
    | on => exact absurd halert hon
    | off => exact awake_iff.2 ⟨hps, halert⟩

theorem not_live_of_on (h : s.lastAlert = some .on) : ¬s.Live := fun hlive => hlive.2 h

theorem not_awake_of_on (h : s.lastAlert = some .on) : s.awake ≠ true :=
  fun hawake => not_live_of_on h (live_of_awake hawake)

end Awake

/-! ## Every step keeps it -/

/-- Steps that leave the alerts alone leave the other invocations in order. -/
theorem OpOk.keep {s t : State} {p : Op} (hps : t.powerSaveOn = s.powerSaveOn)
    (hlast : t.lastAlert = s.lastAlert) (h : OpOk s p) : OpOk t (p.observe t.awake) := by
  have hawake : t.awake = s.awake := by rw [State.awake, State.awake, hps, hlast]
  cases p with
  | triggerTake seen =>
    refine ⟨hlast ▸ h.1, fun ha => ?_⟩
    rw [ha, Bool.or_true]
  | triggerGive seen =>
    have ha : t.awake = true := hawake.trans h.1
    exact ⟨ha, by rw [ha, Bool.or_true]⟩
  | triggerReturn seen =>
    have hseen : seen = true := h
    show (seen || t.awake) = true
    rw [hseen, Bool.true_or]
  | alertOnSet => exact hlast.trans h
  | alertOffGive => exact ⟨hps.trans h.1, hlast ▸ h.2⟩
  | _ => trivial

/-- What a step leaves: `qs` in place of the invocation, and the others. -/
structure Kept (s t : State) (qs : List Op) : Prop where
  sem : t.sem = true → t.Live
  started : t.powerSaveOn = true → t.lastAlert ≠ none
  next : ∀ q ∈ qs, OpOk t (q.observe t.awake)
  others : ∀ p ∈ s.ops, OpOk t (p.observe t.awake)
  real : Real t

theorem Kept.inv {s t : State} {qs : List Op} (h : Kept s t qs) (i : Nat) :
    Inv ({ t with ops := qs ++ s.ops.eraseIdx i } : State).observe where
  sem := h.sem
  started := h.started
  ops := by
    intro op hop
    obtain ⟨p, hp, rfl⟩ := List.mem_map.1 hop
    exact forall_exchange (P := fun p => OpOk t (p.observe t.awake)) h.others h.next p hp
  real := h.real

section Steps

variable {s t : State} {i : Nat} {ok : Bool} {op : Op} {qs : List Op}

/-- **One step of an invocation** keeps the invariant. -/
theorem opStep_kept (h : Inv s) (hop : s.ops[i]? = some op) (hG : Guard s (.op i ok))
    (hs : opStep ok s op = some (t, qs)) : Kept s t qs := by
  have hmem : op ∈ s.ops := List.mem_of_getElem? hop
  have hown := h.ops op hmem
  simp only [Guard, hop] at hG
  cases op with
  | alertOn =>
    cases hs
    refine ⟨nofun, nofun, ?_, fun p hp => ?_, h.real⟩
    · intro q hq
      rw [List.mem_singleton.1 hq]
      exact rfl
    · -- no one has the semaphore to give back
      have hasleep := not_awake_of_on (s := { s with sem := false, lastAlert := some .on }) rfl
      obtain ⟨hfree, hoff⟩ := hG p hp
      have hpok := h.ops p hp
      cases p with
      | alertOnSet => exact rfl
      | alertOffGive => exact absurd rfl hoff
      | triggerTake seen => exact ⟨nofun, fun ha => absurd ha hasleep⟩
      | triggerGive seen => exact Bool.noConfusion hfree
      | triggerReturn seen =>
        have hseen : seen = true := hpok
        subst hseen
        exact Bool.true_or _
      | _ => trivial
  | alertOnSet =>
    cases hs
    have hon : s.lastAlert = some .on := hown
    have hgone := not_live_of_on hon
    refine ⟨fun hsem => absurd (h.sem hsem) hgone, fun _ => by simp [hon], nofun,
      fun p hp => ?_, h.real⟩
    have hasleep := not_awake_of_on (s := { s with powerSaveOn := true }) hon
    have hpok := h.ops p hp
    cases p with
    | alertOnSet => exact hon
    | alertOffGive => exact absurd hpok hgone
    | triggerTake seen => exact ⟨hpok.1, fun ha => absurd ha hasleep⟩
    | triggerGive seen => exact absurd hpok.1 (not_awake_of_on hon)
    | triggerReturn seen =>
      have hseen : seen = true := hpok
      subst hseen
      exact Bool.true_or _
    | _ => trivial
  | alertOff =>
    cases hs
    have hawake : State.awake { s with powerSaveOn := false, lastAlert := some .off } = true := rfl
    have hlive := live_of_awake hawake
    refine ⟨fun _ => hlive, nofun, ?_, fun p hp => ?_, h.real⟩
    · intro q hq
      rw [List.mem_singleton.1 hq]
      exact hlive
    · have hpok := h.ops p hp
      cases p with
      | alertOnSet => exact absurd hp hG
      | alertOffGive => exact hlive
      | triggerTake seen => exact ⟨nofun, fun _ => Bool.or_true _⟩
      | triggerGive seen => exact ⟨hawake, Bool.or_true _⟩
      | triggerReturn seen => exact Bool.or_true _
      | _ => trivial
  | alertOffGive =>
    cases hs
    exact ⟨fun _ => hown, h.started, nofun, fun p hp => (h.ops p hp).keep rfl rfl, h.real⟩
  | wakeupTest | wakeupTransport =>
    cases hs
    refine ⟨h.sem, h.started, ?_, fun p hp => (h.ops p hp).keep rfl rfl, h.real⟩
    intro q hq
    split at hq
    · rw [List.mem_singleton.1 hq]
      trivial
    · cases hq
  | wakeupRetest =>
    cases hs
    refine ⟨h.sem, h.started, ?_, fun p hp => (h.ops p hp).keep rfl rfl, h.real⟩
    intro q hq
    split at hq
    · rename_i hps
      rw [List.mem_singleton.1 hq]
      exact ⟨h.started hps, fun ha => ha⟩
    · cases hq
  | triggerTake seen =>
    cases ok with
    | true =>
      rw [opStep, if_pos rfl] at hs
      split at hs
      · rename_i hsem
        cases hs
        -- the semaphore is there, so the host is awake now
        have hawake := awake_of_live (h.sem hsem) hown.1
        refine ⟨nofun, h.started, ?_, fun p hp => (h.ops p hp).keep rfl rfl, h.real⟩
        intro q hq
        rw [List.mem_singleton.1 hq]
        have hpok : OpOk s (.triggerGive seen) := ⟨hawake, hown.2 hawake⟩
        exact hpok.keep rfl rfl
      · cases hs
    | false =>
      cases hs
      refine ⟨h.sem, h.started, nofun, fun p hp => (h.ops p hp).keep rfl rfl, ?_⟩
      intro r hr
      rcases List.mem_append.1 hr with hr | hr
      · exact h.real r hr
      · rw [List.mem_singleton.1 hr]
        exact nofun
  | triggerGive seen =>
    cases hs
    refine ⟨fun _ => live_of_awake hown.1, h.started, ?_, fun p hp =>
      (h.ops p hp).keep rfl rfl, h.real⟩
    intro q hq
    rw [List.mem_singleton.1 hq]
    have hpok : OpOk s (.triggerReturn seen) := hown.2
    exact hpok.keep rfl rfl
  | triggerReturn seen =>
    cases hs
    refine ⟨h.sem, h.started, nofun, fun p hp => (h.ops p hp).keep rfl rfl, ?_⟩
    intro r hr
    rcases List.mem_append.1 hr with hr | hr
    · exact h.real r hr
    · rw [List.mem_singleton.1 hr]
      exact fun _ => hown

theorem inv_step {a : Action} {s' : State} (h : Inv s) (hG : Guard s a) (hs : step s a = some s') :
    Inv s' := by
  cases a with
  | call c =>
    cases hs
    refine ⟨h.sem, h.started, ?_, h.real⟩
    intro op hop
    rcases List.mem_cons.1 hop with rfl | hop
    · obtain (_ | _) | _ := c <;> trivial
    · exact h.ops op hop
  | op i ok =>
    obtain ⟨op, hop, hs⟩ := Option.bind_eq_some_iff.1 hs
    obtain ⟨⟨t, qs⟩, hstep, rfl⟩ := Option.map_eq_some_iff.1 hs
    exact (opStep_kept h hop hG hstep).inv i

end Steps

/-! ## What the other steps lead to -/

/-- From here on a call may return success although the host sleeps all the time. -/
def Misleads (s : State) : Prop := ∃ as t, run step s as = some t ∧ ¬Real t

section Misleads

variable {s s' : State} {a : Action}

theorem Misleads.of_step (hs : step s a = some s') (h : Misleads s') : Misleads s := by
  obtain ⟨as, t, hrun, hreal⟩ := h
  exact ⟨a :: as, t, Option.bind_eq_some_iff.2 ⟨s', hs, hrun⟩, hreal⟩

/-- One step of an invocation, by its place in the list. -/
theorem step_op {i : Nat} {op : Op} {t : State} {qs : List Op} (ok : Bool)
    (hop : s.ops[i]? = some op)
    (hs : opStep ok s op = some (t, qs)) :
    step s (.op i ok) = some ({ t with ops := qs ++ s.ops.eraseIdx i } : State).observe := by
  rw [step, hop, Option.bind_some, hs]
  rfl

/-- A semaphore that is there while the host sleeps is taken for a wake-up by the next call. -/
theorem misleads_of_stale (hsem : s.sem = true) (hps : s.powerSaveOn = true) : Misleads s := by
  have hasleep : ∀ (sem : Bool) (last : Option Alert) (ops : List Op) (returned : List Return),
      State.awake ⟨sem, true, last, ops, returned⟩ = false := fun _ _ _ _ => rfl
  have hrun : ∃ t, run step s (.call .wakeupHost :: List.replicate 6 (.op 0 true)) = some t ∧
      ⟨true, false⟩ ∈ t.returned := by
    simp [List.replicate, run, step, opStep, Call.entry, State.observe, Op.observe,
      hasleep, hsem, hps]
  obtain ⟨t, ht, hlast⟩ := hrun
  exact ⟨_, t, ht, fun hreal => Bool.noConfusion (hreal _ hlast rfl)⟩

/-- Who gives the semaphore back, or gives it for an alert. -/
def Op.giving : Op → Bool
  | .triggerGive _ | .alertOffGive => true
  | _ => false

theorem Op.giving_observe {p : Op} (h : p.giving = true) (b : Bool) :
    (p.observe b).giving = true := by
  cases p with
  | triggerGive seen => rfl
  | alertOffGive => rfl
  | _ => exact Bool.noConfusion h

/-- Who gives it while the host sleeps makes it such a semaphore. -/
theorem misleads_of_giving (hgiver : ∃ p ∈ s.ops, p.giving = true) (hps : s.powerSaveOn = true) :
    Misleads s := by
  obtain ⟨p, hp, hgiving⟩ := hgiver
  obtain ⟨j, hj⟩ := List.getElem?_of_mem hp
  have hgive : ∃ qs, opStep true s p = some ({ s with sem := true }, qs) := by
    cases p with
    | triggerGive seen => exact ⟨_, rfl⟩
    | alertOffGive => exact ⟨_, rfl⟩
    | _ => exact Bool.noConfusion hgiving
  obtain ⟨qs, hqs⟩ := hgive
  exact .of_step (step_op true hj hqs) (misleads_of_stale rfl hps)

/-- The others are still there after a step. -/
theorem exists_observe_of_not {P : Op → Prop} {i : Nat} {op : Op}
    (hP : ∀ {p}, P p → ∀ b, P (p.observe b))
    (t : State) (qs : List Op) (hop : s.ops[i]? = some op) (hnot : ¬P op) (h : ∃ p ∈ s.ops, P p) :
    ∃ p ∈ ({ t with ops := qs ++ s.ops.eraseIdx i } : State).observe.ops, P p := by
  obtain ⟨p, hp, hPp⟩ := h
  obtain ⟨j, hj⟩ := List.getElem?_of_mem hp
  have hij : j ≠ i := by
    rintro rfl
    exact hnot (Option.some_inj.1 (hj.symm.trans hop) ▸ hPp)
  refine ⟨p.observe t.awake, List.mem_map_of_mem (List.mem_append_right _ ?_), hP hPp _⟩
  exact List.mem_eraseIdx_iff_getElem?.2 ⟨j, hij, hj⟩

/-- **The condition is exact**: after a step outside it, a call can be misled. -/
theorem misleads_of_not_guard (hs : step s a = some s') (hG : ¬Guard s a) : Misleads s' := by
  cases a with
  | call c => exact absurd trivial hG
  | op i ok =>
    obtain ⟨op, hop, hs⟩ := Option.bind_eq_some_iff.1 hs
    obtain ⟨⟨t, qs⟩, hstep, rfl⟩ := Option.map_eq_some_iff.1 hs
    simp only [Guard, hop] at hG
    cases op with
    | alertOn =>
      cases hstep
      have hgiver : ∃ p ∈ s.ops, p.giving = true := by
        by_contra hnone
        refine hG fun p hp => ?_
        have hnot : p.giving ≠ true := fun h => hnone ⟨p, hp, h⟩
        cases p <;> simp_all [Op.giving, Op.holding]
      have hthere :=
        exists_observe_of_not Op.giving_observe { s with sem := false, lastAlert := some .on }
        [.alertOnSet] hop nofun hgiver
      generalize hnext : State.observe _ = next at hthere ⊢
      have hset : next.ops[0]? = some .alertOnSet := by
        rw [← hnext]
        rfl
      -- the alert goes on to set `power_save_on`
      have hthere' := exists_observe_of_not Op.giving_observe { next with powerSaveOn := true }
        [] hset nofun hthere
      exact .of_step (step_op true hset rfl) (misleads_of_giving hthere' rfl)
    | alertOff =>
      cases hstep
      have hsetter : ∃ p ∈ s.ops, p = .alertOnSet := ⟨_, not_not.1 hG, rfl⟩
      have hstay : ∀ {p : Op}, p = .alertOnSet → ∀ b, p.observe b = .alertOnSet := by
        rintro p rfl b
        rfl
      have hthere :=
        exists_observe_of_not hstay { s with powerSaveOn := false, lastAlert := some .off }
        [.alertOffGive] hop nofun hsetter
      generalize hnext : State.observe _ = next at hthere ⊢
      have hgive : next.ops[0]? = some .alertOffGive := by
        rw [← hnext]
        rfl
      -- the alert goes on to give the semaphore, the other one then sets `power_save_on`
      obtain ⟨p, hp, rfl⟩ :=
        exists_observe_of_not hstay { next with sem := true } [] hgive nofun hthere
      obtain ⟨j, hj⟩ := List.getElem?_of_mem hp
      exact .of_step (step_op true hgive rfl)
        (.of_step (step_op true hj rfl) (misleads_of_stale rfl rfl))
    | _ => exact absurd trivial hG

end Misleads

/-! ## Reported wake-ups -/

/-- **A reported wake-up is real** in every run that keeps the alerts apart and away from a held
semaphore; a step that does not can always be followed by a report that is not. -/
theorem wakeup_real (s : State) : (Reach step Guard boot s → Real s) ∧
    ∀ a s', step s a = some s' → ¬Guard s a → Misleads s' := by
  constructor
  · intro h
    exact (h.invariant inv_boot inv_step).real
  · intro a s' hs hG
    exact misleads_of_not_guard hs hG

/-- The guard, as a test. -/
def apart (s : State) : Action → Bool
  | .call _ => true
  | .op i _ =>
    match s.ops[i]? with
    | some .alertOn => s.ops.all fun op => !op.holding && op ≠ .alertOffGive
    | some .alertOff => !s.ops.contains .alertOnSet
    | _ => true

theorem guard_of_apart (s : State) (a : Action) (h : apart s a = true) : Guard s a := by
  cases a with
  | call c => trivial
  | op i ok =>
    simp only [apart] at h
    simp only [Guard]
    split at h
    · simpa using h
    · simpa using h
    · exact trivial

/-- One call that is carried through, `n` steps of it. -/
def carryOut (c : Call) (n : Nat) : List Action := .call c :: List.replicate n (.op 0 true)

/-- The host goes to sleep, a task waits for it, and it wakes up. -/
theorem wakeup_real_awake :
    ∃ s, run (guarded apart step) boot (carryOut (.alert .on) 2 ++ carryOut .wakeupHost 3 ++
        carryOut (.alert .off) 2 ++ List.replicate 3 (.op 0 true)) = some s ∧
      s.returned = [⟨true, true⟩] ∧ Real s := by
  have hrun : (run (guarded apart step) boot (carryOut (.alert .on) 2 ++ carryOut .wakeupHost 3 ++
      carryOut (.alert .off) 2 ++ List.replicate 3 (.op 0 true))).map State.returned =
        some [⟨true, true⟩] := by
    decide +kernel
  obtain ⟨s, hs, hreturned⟩ := Option.map_eq_some_iff.1 hrun
  exact ⟨s, hs, hreturned, (wakeup_real s).1 (reach_of_guarded_run guard_of_apart hs)⟩

/-- A POWER_SAVE_ON that comes while a waiter has the semaphore: the next call returns success and
the host slept all the time. -/
theorem wakeup_reported_asleep :
    ∃ s, run step boot
    (carryOut (.alert .on) 2 ++ carryOut .wakeupHost 3 ++ carryOut (.alert .off) 2 ++
        [.op 0 true] ++ carryOut (.alert .on) 2 ++ List.replicate 2 (.op 0 true) ++
        carryOut .wakeupHost 6) = some s ∧
      s.returned = [⟨true, true⟩, ⟨true, false⟩] ∧ ¬Real s := by
  have hrun : (run step boot (carryOut (.alert .on) 2 ++ carryOut .wakeupHost 3 ++
      carryOut (.alert .off) 2 ++ [.op 0 true] ++ carryOut (.alert .on) 2 ++
        List.replicate 2 (.op 0 true) ++
      carryOut .wakeupHost 6)).map State.returned = some [⟨true, true⟩, ⟨true, false⟩] := by
    decide +kernel
  obtain ⟨s, hs, hreturned⟩ := Option.map_eq_some_iff.1 hrun
  refine ⟨s, hs, hreturned, fun hreal => ?_⟩
  have hlast := hreal ⟨true, false⟩ (by rw [hreturned]; simp)
  exact Bool.noConfusion (hlast rfl)

end EspHostedOpen.HostPowerSave
