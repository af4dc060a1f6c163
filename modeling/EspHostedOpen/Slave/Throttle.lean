import EspHostedOpen.Lib.Transition
import EspHostedOpen.Slave.InitConfig
import Mathlib.Data.List.Basic

/-!
# Throttling (`sdio_slave_api.c`, `spi_hd_slave_api.c`, `spi_slave_api.c`)

The slave tells the host to stop sending while its queue for data is filled above a threshold, and
to go on when it is below another. On SDIO and SPI-HD the receive task calls a start function and
the reader a stop function; what each reads, writes and notifies is a step of its own, and packets
come and go between any two steps. On SPI-HD a task of its own turns the notices into packets. On
SPI one function sets and clears the flag, in any number of calls at a time.
-/

namespace EspHostedOpen.Throttle

open InitConfig Transition

/-- `load_percent`, of a queue with `size` places. -/
def loadPercent (size load : Nat) : UInt8 := UInt8.ofNat (load * 100 / size)

/-- `host_to_slave_reconfig`, of one TLV with a value of one byte. -/
def reconfig (tag value : UInt8) (cfg : SlaveConfig) : SlaveConfig :=
  (turn false (fun | 0 => tag | 1 => 1 | _ => value) { lenLeft := 3, cfg := cfg }).cfg

/-! ## SDIO and SPI-HD -/

inductive Notice
  | start | stop
  deriving DecidableEq, Repr

/-- `start_rx_data_throttling_if_needed`, by what it is about to do. -/
inductive StartPc
  | idle | compare | set | notify
  deriving DecidableEq, Repr

/-- `stop_rx_data_throttling_if_needed`. -/
inductive StopPc
  | idle | compare | clear | notify
  deriving DecidableEq, Repr

/-- `flow_ctrl_task`. -/
inductive FlowPc
  | create | take | read | send (n : Notice)
  deriving DecidableEq, Repr

/-- For the statements only are `unread`, the notices that `flow_ctrl_task` has not acted on;
`emptySince`, whether the queue was empty and no throttling began since the stop function was
called; and `drained`, whether it has run so since throttling began or data came. -/
structure State where
  cfg : SlaveConfig
  load : Nat := 0                                -- `uxQueueMessagesWaiting`
  currentThrottling : Bool := false
  startPc : StartPc := .idle
  stopPc : StopPc := .idle
  notices : List Notice := []
  wifiFlowCtrl : Bool := false
  flowCtrlSem : Bool := false
  flowPc : FlowPc := .create
  sent : List Notice := []
  unread : List Notice := []
  emptySince : Bool := false
  drained : Bool := false
  deriving DecidableEq, Repr

/-- The host is told: by an interrupt on SDIO, through `TRIGGER_FLOW_CTRL` on SPI-HD. -/
def State.notify (hd : Bool) (n : Notice) (s : State) : State :=
  let trigger := hd && s.flowPc != .create
  { s with
    notices := s.notices ++ [n]
    flowCtrlSem := s.flowCtrlSem || trigger
    unread := if trigger then s.unread ++ [n] else s.unread }

def startStep (hd : Bool) (size : Nat) (s : State) : State :=
  match s.startPc with
  | .idle =>
    if s.cfg.throttleHighThreshold > 0 &&
      !s.currentThrottling then { s with startPc := .compare } else s
  | .compare =>
    { s with startPc := if loadPercent size s.load >
      s.cfg.throttleHighThreshold then .set else .idle }
  | .set =>
    { s with
      currentThrottling := true, wifiFlowCtrl := true, startPc := .notify, emptySince := false
      drained := false }
  | .notify => { s.notify hd .start with startPc := .idle }

/-- The stop function returns. -/
def State.stopped (s : State) : State :=
    { s with stopPc := .idle, drained := s.drained || s.emptySince }

def stopStep (hd : Bool) (size : Nat) (s : State) : State :=
  match s.stopPc with
  | .idle =>
    let s := { s with emptySince := s.load == 0 }
    if s.currentThrottling then { s with stopPc := .compare } else s.stopped
  | .compare =>
    if loadPercent size s.load <
      s.cfg.throttleLowThreshold then { s with stopPc := .clear } else s.stopped
  | .clear => { s with currentThrottling := false, wifiFlowCtrl := false, stopPc := .notify }
  | .notify => (s.notify hd .stop).stopped

/-- What the task makes of `wifi_flow_ctrl`. -/
def noticeOf (wifiFlowCtrl : Bool) : Notice := if wifiFlowCtrl then .start else .stop

def flowStep (s : State) : Option State :=
  match s.flowPc with
  | .create => some { s with flowPc := .take }
  | .take => if s.flowCtrlSem then some { s with flowCtrlSem := false, flowPc := .read } else none
  | .read => some { s with flowPc := .send (noticeOf s.wifiFlowCtrl), unread := s.unread.tail }
  | .send n => some { s with sent := s.sent ++ [n], flowPc := .take }

inductive Action
  | reconfig (tag value : UInt8)
  | arrive                                       -- data comes onto the queue
  | take                                         -- data is taken from it
  | start
  | stop
  | flow
  deriving DecidableEq, Repr

/-- `hd` is for SPI-HD. -/
def step (hd : Bool) (size : Nat) (s : State) : Action → Option State
  | .reconfig tag value => some { s with cfg := reconfig tag value s.cfg }
  | .arrive =>
    if s.load < size then some { s with load := s.load + 1, emptySince := false, drained :=
      false } else none
  | .take => if 0 < s.load then some { s with load := s.load - 1 } else none
  | .start => some (startStep hd size s)
  | .stop => some (stopStep hd size s)
  | .flow => flowStep s

/-- At boot, with any thresholds. -/
def boot (cfg : SlaveConfig) : State := { cfg := cfg }

/-! ### What is asked of it -/

/-- Notices that alternate, from a start on: whether the last start is still to be followed by a
stop. -/
def openAfter : Bool → List Notice → Option Bool
  | b, [] => some b
  | false, .start :: ns => openAfter true ns
  | true, .stop :: ns => openAfter false ns
  | _, _ => none

/-- Each start is followed by exactly one stop. -/
def Paired (ns : List Notice) : Prop := openAfter false ns = some false

/-- `flow_ctrl_task` has nothing to do. -/
def State.AtRest (s : State) : Prop := s.flowPc = .take ∧ s.flowCtrlSem = false

/-- **Throttling does not stick**: once the stop function has run on the drained queue, throttling
is off and each start was followed by one stop; on SPI-HD these are the packets that the host
gets. -/
def NotStuck (hd : Bool) (s : State) : Prop :=
  s.drained = true →
    s.currentThrottling = false ∧ Paired s.notices ∧ (hd = true → s.AtRest → s.sent = s.notices)

/-- `TRIGGER_FLOW_CTRL` finds a semaphore that is not given yet. -/
def State.FlowFree (s : State) : Prop := s.flowPc ≠ .create ∧ s.flowCtrlSem = false

/-- The low threshold is not 0 where the stop function finds the queue empty; notices are given in
the order of the writes behind them; and on SPI-HD none is lost, and `wifi_flow_ctrl` is read before
it changes again. -/
def Guard (hd : Bool) (s : State) : Action → Prop
  | .start =>
    s.startPc = .notify → (s.stopPc = .notify → s.currentThrottling = false) ∧
      (hd = true → s.FlowFree)
  | .stop =>
    (s.stopPc = .compare → s.emptySince = true → 0 < s.cfg.throttleLowThreshold) ∧
      (s.stopPc = .notify →
        (s.startPc = .notify → s.currentThrottling = true) ∧ (hd = true → s.FlowFree))
  | .flow => s.flowPc = .read → s.unread.head? = some (noticeOf s.wifiFlowCtrl)
  | _ => True

/-! ### The flag and the notices -/

theorem openAfter_append {b : Bool} {ns ms : List Notice} :
    openAfter b (ns ++ ms) = (openAfter b ns).bind fun b => openAfter b ms := by
  induction ns generalizing b with
  | nil => rfl
  | cons n ns ih =>
    cases b <;> cases n
    · exact ih
    · rfl
    · rfl
    · exact ih

theorem loadPercent_zero (size : Nat) : loadPercent size 0 = 0 := by
  rw [loadPercent, Nat.zero_mul, Nat.zero_div]
  rfl

/-- The flag is as the last write, and a function that has not given its notice yet is one write
behind. -/
structure Sound (s : State) : Prop where
  starting : s.startPc = .compare ∨ s.startPc = .set → s.currentThrottling = false
  stopping : s.stopPc = .compare ∨ s.stopPc = .clear → s.currentThrottling = true
  started : s.startPc = .notify → s.stopPc ≠ .notify → s.currentThrottling = true
  stopped : s.stopPc = .notify → s.startPc ≠ .notify → s.currentThrottling = false
  order : openAfter false s.notices =
    some (s.currentThrottling ^^ decide (s.startPc = .notify) ^^ decide (s.stopPc = .notify))
  empty : s.emptySince = true → s.load = 0
  quiet : s.stopPc = .notify → s.emptySince = true → s.currentThrottling = false
  drained : s.drained = true → s.currentThrottling = false ∧ s.startPc ≠ .notify ∧
    s.stopPc ≠ .notify

theorem sound_boot (cfg : SlaveConfig) : Sound (boot cfg) where
  starting := nofun
  stopping := nofun
  started := nofun
  stopped := nofun
  order := rfl
  empty := nofun
  quiet := nofun
  drained := nofun

namespace Sound

variable {s : State} {hd : Bool} {size : Nat}

/-- The start function goes on, and has no notice to give before and after. -/
theorem setStartPc (h : Sound s) {pc : StartPc} (hold : s.startPc ≠ .notify) (hnew : pc ≠ .notify)
    (hflag : pc ≠ .idle → s.currentThrottling = false) : Sound { s with startPc := pc } where
  starting hpc := hflag fun hidle => by
    subst hidle
    exact hpc.elim nofun nofun
  stopping := h.stopping
  started hpc := absurd hpc hnew
  stopped hstop _ := h.stopped hstop hold
  order := by
    rw [h.order, decide_eq_false hold, decide_eq_false hnew]
  empty := h.empty
  quiet := h.quiet
  drained hdrained := ⟨(h.drained hdrained).1, hnew, (h.drained hdrained).2.2⟩

/-- Throttling begins. -/
theorem set (h : Sound s) (hpc : s.startPc = .set) :
    Sound { s with
      currentThrottling := true, wifiFlowCtrl := true, startPc := .notify, emptySince := false
      drained := false } where
  starting hpc' := hpc'.elim nofun nofun
  stopping _ := rfl
  started _ _ := rfl
  stopped _ hne := absurd rfl hne
  order := by
    have horder := h.order
    rw [h.starting (.inr hpc), hpc] at horder
    exact horder
  empty := nofun
  quiet _ := nofun
  drained := nofun

/-- The start function gives its notice. -/
theorem notifyStart (h : Sound s) (hpc : s.startPc = .notify)
    (hguard : s.stopPc = .notify → s.currentThrottling = false) :
    Sound { s.notify hd .start with startPc := .idle } where
  starting hpc' := hpc'.elim nofun nofun
  stopping := h.stopping
  started := nofun
  stopped hstop _ := hguard hstop
  order := by
    show openAfter false (s.notices ++ [.start]) = _
    rw [openAfter_append, h.order, hpc]
    by_cases hstop : s.stopPc = .notify
    · -- the stop function comes after the start function
      simp [State.notify, hstop, hguard hstop, openAfter]
    · simp [State.notify, hstop, h.started hpc hstop, openAfter]
  empty := h.empty
  quiet := h.quiet
  drained hdrained := absurd hpc (h.drained hdrained).2.1

theorem start (h : Sound s) (hguard : Guard hd s .start) : Sound (startStep hd size s) := by
  cases hpc : s.startPc with
  | idle =>
    rw [startStep, hpc]
    dsimp only
    split
    · rename_i htest
      simp only [Bool.and_eq_true, Bool.not_eq_true'] at htest
      exact h.setStartPc (by simp [hpc]) nofun fun _ => htest.2
    · exact h
  | compare =>
    rw [startStep, hpc]
    refine h.setStartPc (by simp [hpc]) ?_ fun _ => h.starting (.inl hpc)
    split <;> nofun
  | set =>
    rw [startStep, hpc]
    exact h.set hpc
  | notify =>
    rw [startStep, hpc]
    exact h.notifyStart hpc (hguard hpc).1

/-- The stop function goes on. -/
theorem setStopPc (h : Sound s) {pc : StopPc} (hold : s.stopPc ≠ .notify) (hnew : pc ≠ .notify)
    (hflag : pc ≠ .idle → s.currentThrottling = true) : Sound { s with stopPc := pc } where
  starting := h.starting
  stopping hpc := hflag fun hidle => by
    subst hidle
    exact hpc.elim nofun nofun
  started hstart _ := h.started hstart hold
  stopped hpc := absurd hpc hnew
  order := by
    rw [h.order, decide_eq_false hold, decide_eq_false hnew]
  empty := h.empty
  quiet hpc := absurd hpc hnew
  drained hdrained := ⟨(h.drained hdrained).1, (h.drained hdrained).2.1, hnew⟩

/-- The stop function is called. -/
theorem call (h : Sound s) (hpc : s.stopPc = .idle) : Sound
    { s with emptySince := s.load == 0 } where
  starting := h.starting
  stopping := h.stopping
  started := h.started
  stopped := h.stopped
  order := h.order
  empty := beq_iff_eq.1
  quiet hpc' := by
    rw [hpc] at hpc'
    cases hpc'
  drained := h.drained

/-- It returns, and throttling is off if it found the queue empty. -/
theorem leave (h : Sound s) (hpc : s.stopPc ≠ .notify)
    (hoff : s.emptySince = true → s.currentThrottling = false ∧ s.startPc ≠ .notify) :
    Sound s.stopped where
  starting := h.starting
  stopping hpc' := hpc'.elim nofun nofun
  started hstart _ := h.started hstart hpc
  stopped := nofun
  order := by
    show openAfter false s.notices = _
    rw [h.order, decide_eq_false hpc]
    rfl
  empty := h.empty
  quiet := nofun
  drained hdrained := by
    rcases Bool.or_eq_true_iff.1 hdrained with hold | hempty
    · exact ⟨(h.drained hold).1, (h.drained hold).2.1, nofun⟩
    · exact ⟨(hoff hempty).1, (hoff hempty).2, nofun⟩

/-- Throttling ends. -/
theorem clear (h : Sound s) (hpc : s.stopPc = .clear) :
    Sound { s with currentThrottling := false, wifiFlowCtrl := false, stopPc := .notify } where
  starting _ := rfl
  stopping hpc' := hpc'.elim nofun nofun
  started _ hne := absurd rfl hne
  stopped _ _ := rfl
  order := by
    have hon := h.stopping (.inr hpc)
    show openAfter false s.notices = _
    rw [h.order, hpc, hon]
    cases decide (s.startPc = .notify) <;> rfl
  empty := h.empty
  quiet _ _ := rfl
  drained hdrained := absurd ((h.drained hdrained).1.symm.trans (h.stopping (.inr hpc))) nofun

/-- The stop function gives its notice. -/
theorem notifyStop (h : Sound s) (hpc : s.stopPc = .notify)
    (hguard : s.startPc = .notify → s.currentThrottling = true) : Sound
    (s.notify hd .stop).stopped where
  starting := h.starting
  stopping hpc' := hpc'.elim nofun nofun
  started hstart _ := hguard hstart
  stopped := nofun
  order := by
    show openAfter false (s.notices ++ [.stop]) = _
    rw [openAfter_append, h.order, hpc]
    by_cases hstart : s.startPc = .notify
    · -- the start function comes after the stop function
      simp [State.stopped, State.notify, hstart, hguard hstart, openAfter]
    · simp [State.stopped, State.notify, hstart, h.stopped hpc hstart, openAfter]
  empty := h.empty
  quiet := nofun
  drained hdrained := by
    rcases Bool.or_eq_true_iff.1 hdrained with hold | hempty
    · exact absurd hpc (h.drained hold).2.2
    · have hoff := h.quiet hpc hempty
      exact ⟨hoff, fun hstart => absurd (hoff.symm.trans (hguard hstart)) nofun, nofun⟩

theorem stop (h : Sound s) (hguard : Guard hd s .stop) : Sound (stopStep hd size s) := by
  cases hpc : s.stopPc with
  | idle =>
    rw [stopStep, hpc]
    have hcall := h.call hpc
    dsimp only
    split
    · exact hcall.setStopPc (by simp [hpc]) nofun fun _ => ‹_›
    · rename_i htest
      have hoff : s.currentThrottling = false := by simpa using htest
      refine hcall.leave (by simp [hpc]) fun _ => ⟨hoff, fun hstart => ?_⟩
      exact absurd (hoff.symm.trans (h.started hstart (by simp [hpc]))) nofun
  | compare =>
    rw [stopStep, hpc]
    dsimp only
    split
    · exact h.setStopPc (by simp [hpc]) nofun fun _ => h.stopping (.inl hpc)
    · -- an empty queue is below any threshold but 0
      rename_i hhigh
      refine h.leave (by simp [hpc]) fun hempty => ?_
      rw [h.empty hempty, loadPercent_zero] at hhigh
      exact absurd (hguard.1 hpc hempty) hhigh
  | clear =>
    rw [stopStep, hpc]
    exact h.clear hpc
  | notify =>
    rw [stopStep, hpc]
    exact h.notifyStop hpc (hguard.2 hpc).1

/-- Data comes. -/
theorem arrive (h : Sound s) : Sound
    { s with load := s.load + 1, emptySince := false, drained := false } where
  starting := h.starting
  stopping := h.stopping
  started := h.started
  stopped := h.stopped
  order := h.order
  empty := nofun
  quiet _ := nofun
  drained := nofun

/-- Data is taken. -/
theorem take (h : Sound s) : Sound { s with load := s.load - 1 } where
  starting := h.starting
  stopping := h.stopping
  started := h.started
  stopped := h.stopped
  order := h.order
  empty hempty := by rw [h.empty hempty]
  quiet := h.quiet
  drained := h.drained

/-- The thresholds, and `flow_ctrl_task`. -/
theorem elsewhere (h : Sound s) (cfg : SlaveConfig) (flowCtrlSem : Bool) (flowPc : FlowPc)
    (sent unread : List Notice) : Sound { s with cfg, flowCtrlSem, flowPc, sent, unread } :=
  ⟨h.starting, h.stopping, h.started, h.stopped, h.order, h.empty, h.quiet, h.drained⟩

theorem flow (h : Sound s) {s' : State} (hs : flowStep s = some s') : Sound s' := by
  cases hpc : s.flowPc with
  | create | read | send n =>
    rw [flowStep, hpc] at hs
    cases hs
    exact h.elsewhere ..
  | take =>
    rw [flowStep, hpc] at hs
    dsimp only at hs
    split at hs
    · cases hs
      exact h.elsewhere ..
    · cases hs

theorem step {s' : State} {a : Action} (h : Sound s) (hguard : Guard hd s a)
    (hs : step hd size s a = some s') :
    Sound s' := by
  cases a with
  | reconfig tag value =>
    cases hs
    exact h.elsewhere ..
  | arrive =>
    rw [Throttle.step] at hs
    split at hs
    · cases hs
      exact h.arrive
    · cases hs
  | take =>
    rw [Throttle.step] at hs
    split at hs
    · cases hs
      exact h.take
    · cases hs
  | start =>
    cases hs
    exact h.start hguard
  | stop =>
    cases hs
    exact h.stop hguard
  | flow => exact h.flow hs

end Sound

/-! ### The packets of SPI-HD -/

/-- The notice in the hands of `flow_ctrl_task`. -/
def FlowPc.inHand : FlowPc → List Notice
  | send n => [n]
  | _ => []

/-- Every notice is sent, in hand or still to be read, and the semaphore was given for each that is
to be read. -/
structure Relayed (s : State) : Prop where
  order : s.sent ++ s.flowPc.inHand ++ s.unread = s.notices
  pending : s.unread.length = (decide (s.flowPc = .read)).toNat + s.flowCtrlSem.toNat

theorem relayed_boot (cfg : SlaveConfig) : Relayed (boot cfg) := ⟨rfl, rfl⟩

namespace Relayed

variable {s s' : State} {size : Nat}

theorem notify (h : Relayed s) (n : Notice) (hfree : s.FlowFree) : Relayed (s.notify true n) := by
  obtain ⟨hcreated, hsem⟩ := hfree
  have htrigger : (true && s.flowPc != .create) = true := by simpa using hcreated
  constructor
  · show s.sent ++ s.flowPc.inHand ++ (if (true && s.flowPc != .create) = true then _ else _) =
      s.notices ++ [n]
    rw [if_pos htrigger, ← List.append_assoc, h.order]
  · show (if (true && s.flowPc != .create) = true then _ else _ : List Notice).length =
      _ + (s.flowCtrlSem || (true && s.flowPc != .create)).toNat
    rw [if_pos htrigger, htrigger, List.length_append, h.pending, hsem]
    rfl

theorem start (h : Relayed s) (hguard : Guard true s .start) : Relayed (startStep true size s) := by
  cases hpc : s.startPc with
  | idle =>
    rw [startStep, hpc]
    dsimp only
    split
    · exact ⟨h.order, h.pending⟩
    · exact h
  | compare =>
    rw [startStep, hpc]
    exact ⟨h.order, h.pending⟩
  | set =>
    rw [startStep, hpc]
    exact ⟨h.order, h.pending⟩
  | notify =>
    rw [startStep, hpc]
    have hnotify := h.notify .start ((hguard hpc).2 rfl)
    exact ⟨hnotify.order, hnotify.pending⟩

theorem stop (h : Relayed s) (hguard : Guard true s .stop) : Relayed (stopStep true size s) := by
  cases hpc : s.stopPc with
  | idle | compare =>
    rw [stopStep, hpc]
    dsimp only
    split <;> exact ⟨h.order, h.pending⟩
  | clear =>
    rw [stopStep, hpc]
    exact ⟨h.order, h.pending⟩
  | notify =>
    rw [stopStep, hpc]
    have hnotify := h.notify .stop ((hguard.2 hpc).2 rfl)
    exact ⟨hnotify.order, hnotify.pending⟩

theorem flow (h : Relayed s) (hguard : Guard true s .flow) (hs : flowStep s = some s') :
    Relayed s' := by
  obtain ⟨horder, hpending⟩ := h
  cases hpc : s.flowPc with
  | create =>
    rw [flowStep, hpc] at hs
    rw [hpc] at horder hpending
    cases hs
    exact ⟨horder, hpending⟩
  | take =>
    rw [flowStep, hpc] at hs
    rw [hpc] at horder hpending
    dsimp only at hs
    split at hs
    · rename_i hsem
      rw [hsem] at hpending
      cases hs
      exact ⟨horder, hpending⟩
    · cases hs
  | read =>
    -- the guard says that the notice read is the one that was given
    have hhead := hguard hpc
    rw [flowStep, hpc] at hs
    rw [hpc] at horder hpending
    cases hs
    cases hunread : s.unread with
    | nil =>
      rw [hunread] at hhead
      cases hhead
    | cons n rest =>
      rw [hunread] at hhead horder hpending
      obtain rfl : n = noticeOf s.wifiFlowCtrl := Option.some.inj hhead
      constructor
      · rw [← horder]
        simp [FlowPc.inHand]
      · simp only [List.length_cons, decide_true, Bool.toNat_true] at hpending
        simp only [List.tail_cons, reduceCtorEq, decide_false, Bool.toNat_false]
        omega
  | send n =>
    rw [flowStep, hpc] at hs
    rw [hpc] at horder hpending
    cases hs
    refine ⟨?_, hpending⟩
    rw [← horder]
    simp [FlowPc.inHand]

theorem step {a : Action} (h : Relayed s) (hguard : Guard true s a)
    (hs : step true size s a = some s') :
    Relayed s' := by
  cases a with
  | reconfig tag value =>
    cases hs
    exact ⟨h.order, h.pending⟩
  | arrive | take =>
    rw [Throttle.step] at hs
    split at hs
    · cases hs
      exact ⟨h.order, h.pending⟩
    · cases hs
  | start =>
    cases hs
    exact h.start hguard
  | stop =>
    cases hs
    exact h.stop hguard
  | flow => exact h.flow hguard hs

/-- At rest, the host has got what it was told. -/
theorem sent_eq (h : Relayed s) (hrest : s.AtRest) : s.sent = s.notices := by
  obtain ⟨hpc, hsem⟩ := hrest
  have horder := h.order
  have hpending := h.pending
  rw [hpc, hsem] at hpending
  rw [hpc, List.length_eq_zero_iff.1 hpending] at horder
  simpa [FlowPc.inHand] using horder

end Relayed

theorem notStuck_of_reach {hd : Bool} {size : Nat} {cfg : SlaveConfig} {s : State}
    (h : Reach (step hd size) (Guard hd) (boot cfg) s) : NotStuck hd s := by
  have hsound : Sound s := h.invariant (sound_boot cfg) fun hs hguard hstep => hs.step hguard hstep
  intro hdrained
  obtain ⟨hoff, hstart, hstop⟩ := hsound.drained hdrained
  refine ⟨hoff, ?_, fun hhd hrest => ?_⟩
  · rw [Paired, hsound.order, hoff, decide_eq_false hstart, decide_eq_false hstop]
    rfl
  · subst hhd
    have hrelayed : Relayed s := h.invariant (relayed_boot cfg) fun hs hguard hstep =>
      hs.step hguard hstep
    exact hrelayed.sent_eq hrest

/-! ## SPI -/

namespace Spi

/-- `find_wifi_tx_throttling_to_be_set` behind its first test: it is about to compare with the high
threshold, or with the low one. -/
inductive FindPc
  | high | low
  deriving DecidableEq, Repr

/-- `emptySince` is for the statements only, as above. -/
structure Call where
  loadPercent : UInt8
  pc : FindPc := .high
  emptySince : Bool
  deriving DecidableEq, Repr

structure State where
  cfg : SlaveConfig
  load : Nat := 0
  currentThrottling : Bool := false
  calls : List Call := []
  returned : List Bool := []
  drained : Bool := false
  deriving DecidableEq, Repr

/-- Data comes, or throttling begins: what was found empty does not count any more. -/
def State.disturb (s : State) : State :=
  { s with calls := s.calls.map fun c => { c with emptySince := false }, drained := false }

/-- `find_wifi_tx_throttling_to_be_set` is called. -/
def findCall (size : Nat) (s : State) : State :=
  if s.cfg.throttleHighThreshold = 0 then
    { s with returned := s.returned ++ [false], drained := s.drained || s.load == 0 }
  else
    { s with calls := s.calls ++
      [{ loadPercent := Throttle.loadPercent size s.load, emptySince := s.load == 0 }] }

/-- Call number `i` goes on. -/
def findStep (i : Nat) (s : State) : Option State :=
  s.calls[i]?.map fun c =>
    match c.pc with
    | .high =>
      let s := { s with calls := s.calls.set i { c with pc := .low } }
      if c.loadPercent >
        s.cfg.throttleHighThreshold then { s with currentThrottling := true }.disturb else s
    | .low =>
      let on := if c.loadPercent < s.cfg.throttleLowThreshold then false else s.currentThrottling
      { s with
        currentThrottling := on, calls := s.calls.eraseIdx i, returned := s.returned ++ [on]
        drained := s.drained || c.emptySince }

inductive Action
  | reconfig (tag value : UInt8)
  | arrive
  | take
  | call
  | find (i : Nat)
  deriving DecidableEq, Repr

def step (size : Nat) (s : State) : Action → Option State
  | .reconfig tag value => some { s with cfg := reconfig tag value s.cfg }
  | .arrive => if s.load < size then some { s with load := s.load + 1 }.disturb else none
  | .take => if 0 < s.load then some { s with load := s.load - 1 } else none
  | .call => some (findCall size s)
  | .find i => findStep i s

def boot (cfg : SlaveConfig) : State := { cfg := cfg }

/-- **Throttling does not stick** on SPI. -/
def NotStuck (s : State) : Prop := s.drained = true → s.currentThrottling = false

/-- While throttling is on, a call that finds the queue empty finds thresholds other than 0. -/
def Guard (s : State) : Action → Prop
  | .call => s.load = 0 → s.currentThrottling = true → 0 < s.cfg.throttleHighThreshold
  | .find i => ∀ c ∈ s.calls[i]?, c.pc = .low → c.emptySince = true → s.currentThrottling = true →
      0 < s.cfg.throttleLowThreshold
  | _ => True

/-- A call that found the queue empty found a load of 0. -/
structure Sound (s : State) : Prop where
  empty : ∀ c ∈ s.calls, c.emptySince = true → c.loadPercent = 0
  drained : NotStuck s

theorem sound_boot (cfg : SlaveConfig) : Sound (boot cfg) := ⟨nofun, nofun⟩

namespace Sound

variable {s s' : State} {size i : Nat}

theorem call (h : Sound s) (hguard : Guard s .call) : Sound (findCall size s) := by
  unfold findCall
  split
  · rename_i hzero
    refine ⟨h.empty, fun hdrained => ?_⟩
    rcases Bool.or_eq_true_iff.1 hdrained with hold | hempty
    · exact h.drained hold
    · -- nothing is done without a high threshold
      by_contra hon
      have hhigh := hguard (beq_iff_eq.1 hempty) (Bool.eq_true_of_not_eq_false hon)
      rw [hzero] at hhigh
      exact absurd hhigh (by decide)
  · refine ⟨fun c hc hempty => ?_, h.drained⟩
    rcases List.mem_append.1 hc with hc | hc
    · exact h.empty c hc hempty
    · cases List.mem_singleton.1 hc
      show Throttle.loadPercent size s.load = 0
      rw [beq_iff_eq.1 hempty, loadPercent_zero]

theorem find (h : Sound s) (hguard : Guard s (.find i)) (hs : findStep i s = some s') :
    Sound s' := by
  obtain ⟨c, hc, rfl⟩ := Option.map_eq_some_iff.1 hs
  have hmem : c ∈ s.calls := List.mem_of_getElem? hc
  cases hpc : c.pc with
  | high =>
    dsimp only
    split
    · refine ⟨fun c' hc' hempty => ?_, nofun⟩
      obtain ⟨c'', -, rfl⟩ := List.mem_map.1 hc'
      cases hempty
    · refine ⟨fun c' hc' => ?_, h.drained⟩
      rcases List.mem_or_eq_of_mem_set hc' with hc' | rfl
      · exact h.empty c' hc'
      · exact h.empty c hmem
  | low =>
    refine ⟨fun c' hc' => h.empty c' (List.mem_of_mem_eraseIdx hc'), fun hdrained => ?_⟩
    show (if c.loadPercent < s.cfg.throttleLowThreshold then false else s.currentThrottling) = false
    rcases Bool.or_eq_true_iff.1 hdrained with hold | hempty
    · rw [h.drained hold]
      exact ite_self _
    · split
      · rfl
      · rename_i hlow
        by_contra hon
        have hlow' := hguard c hc hpc hempty (Bool.eq_true_of_not_eq_false hon)
        rw [h.empty c hmem hempty] at hlow
        exact hlow hlow'

/-- Nothing counts as empty any more. -/
theorem disturb (s : State) : Sound s.disturb := by
  refine ⟨fun c hc hempty => ?_, nofun⟩
  obtain ⟨c', -, rfl⟩ := List.mem_map.1 hc
  cases hempty

theorem step {a : Action} (h : Sound s) (hguard : Guard s a) (hs : step size s a = some s') :
    Sound s' := by
  cases a with
  | reconfig tag value =>
    cases hs
    exact ⟨h.empty, h.drained⟩
  | arrive =>
    rw [Spi.step] at hs
    split at hs
    · cases hs
      exact disturb _
    · cases hs
  | take =>
    rw [Spi.step] at hs
    split at hs
    · cases hs
      exact ⟨h.empty, h.drained⟩
    · cases hs
  | call =>
    cases hs
    exact h.call hguard
  | find i => exact h.find hguard hs

end Sound

theorem notStuck_of_reach {size : Nat} {cfg : SlaveConfig} {s : State}
    (h : Reach (step size) Guard (boot cfg) s) : NotStuck s :=
  (h.invariant (sound_boot cfg) fun hs hguard hstep => hs.step hguard hstep).drained

end Spi

/-! ## All transports -/

/-- **Throttling does not stick**, on SDIO, SPI-HD or SPI, in runs whose steps meet the guards. -/
theorem throttling_notStuck (hd : Bool) (size : Nat) (cfg : SlaveConfig) (s : State) (t : Spi.State)
    (hs : Reach (step hd size) (Guard hd) (boot cfg) s)
    (ht : Reach (Spi.step size) Spi.Guard (Spi.boot cfg) t) : NotStuck hd s ∧ Spi.NotStuck t :=
  ⟨notStuck_of_reach hs, Spi.notStuck_of_reach ht⟩

instance (s : State) : Decidable s.FlowFree := inferInstanceAs (Decidable (_ ∧ _))

instance (hd : Bool) (s : State) : (a : Action) → Decidable (Guard hd s a)
  | .start => inferInstanceAs (Decidable (_ → _))
  | .stop => inferInstanceAs (Decidable ((_ → _) ∧ (_ → _)))
  | .flow => inferInstanceAs (Decidable (_ → _))
  | .reconfig .. | .arrive | .take => inferInstanceAs (Decidable True)

instance (s : Spi.State) : (a : Spi.Action) → Decidable (Spi.Guard s a)
  | .call => inferInstanceAs (Decidable (_ → _ → _))
  | .find i => inferInstanceAs (Decidable (∀ c ∈ s.calls[i]?, _ → _ → _ → _))
  | .reconfig .. | .arrive | .take => inferInstanceAs (Decidable True)

/-- The second of two packets finds the queue half full, and both are read. -/
def fillAndDrain (low : UInt8) : List Action :=
  [.reconfig slvConfigThrottleHighThreshold 40, .reconfig slvConfigThrottleLowThreshold low, .flow,
   .start, .start, .arrive, .start, .start, .start, .start, .flow, .flow, .flow, .arrive,
   .take, .stop, .stop, .take, .stop, .stop, .stop, .stop, .flow, .flow, .flow]

def Spi.fillAndDrain (low : UInt8) : List Spi.Action :=
  [.reconfig slvConfigThrottleHighThreshold 40, .reconfig slvConfigThrottleLowThreshold low,
    .arrive, .arrive,
   .call, .find 0, .find 0, .take, .take, .call, .find 0, .find 0]

/-- Throttling begins and ends, on SPI-HD and on SPI. -/
theorem throttling_notStuck_fillAndDrain :
    ∃ s t, (s.notices = [.start, .stop] ∧ s.drained = true ∧ s.AtRest) ∧
      (t.returned = [true, false] ∧ t.drained = true) ∧ NotStuck true s ∧ Spi.NotStuck t := by
  have hs : ∃ s, run (guarded (fun s a => decide (Guard true s a)) (step true 2)) (boot ⟨0, 0⟩)
    (fillAndDrain 20) =
      some s ∧ s.notices = [.start, .stop] ∧ s.drained = true ∧ s.AtRest :=
        ⟨_, rfl, rfl, rfl, rfl, rfl⟩
  have ht : ∃ t, run (guarded (fun s a => decide (Spi.Guard s a)) (Spi.step 2)) (Spi.boot ⟨0, 0⟩)
      (Spi.fillAndDrain 20) = some t ∧ t.returned = [true, false] ∧ t.drained = true :=
        ⟨_, rfl, rfl, rfl⟩
  obtain ⟨s, hs, hfacts⟩ := hs
  obtain ⟨t, ht, hfacts'⟩ := ht
  exact ⟨s, t, hfacts, hfacts', throttling_notStuck true 2 ⟨0, 0⟩ s t
    (reach_of_guarded_run (fun _ _ => of_decide_eq_true) hs)
      (reach_of_guarded_run (fun _ _ => of_decide_eq_true) ht)⟩

/-- With a low threshold of 0 throttling does not end. -/
theorem stuck_of_low_zero : ¬∀ s, Reach (step false 2) Free (boot ⟨0, 0⟩) s → NotStuck false s := by
  intro hnotStuck
  have hreach : Reach (step false 2) Free (boot ⟨0, 0⟩) _ :=
    reach_of_run (show run (step false 2) (boot ⟨0, 0⟩) ((fillAndDrain 0).filter (· ≠ .flow)) =
      some _ from rfl)
  exact absurd (hnotStuck _ hreach rfl).1 nofun

end EspHostedOpen.Throttle
