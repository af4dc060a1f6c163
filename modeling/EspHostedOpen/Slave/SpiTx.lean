import EspHostedOpen.Lib.Ledger
import EspHostedOpen.Lib.Transition
import EspHostedOpen.Slave.PrioQueues

/-!
# The transmit side of the SPI transport (`spi_slave_api.c`)

Packets stand in three queues, `spi_tx_sem` counts them, and the data-ready line tells the host to
fetch them. Any number of invocations are under way at a time: `esp_spi_write`,
`generate_startup_event`, and `get_next_tx_buffer` when a transaction is prepared. Queue send,
semaphore give and take, the test and the two assignments of `set_dataready_gpio` and
`reset_dataready_gpio` are steps of their own.

What is in a packet does not matter here, so a queue is known by its length.
-/

namespace EspHostedOpen.SpiTx

open Ledger Transition

/-- An invocation, by what it is about to do. -/
inductive Op
  | writeSend (q : PrioQ)                        -- `esp_spi_write`: `xQueueSend`
  | writeTest                                    -- `set_dataready_gpio`: `data_ready_flag`
  | writeLine                                    -- `gpio_set_level`
  | writeFlag                                    -- `data_ready_flag = 1`
  | writeGive                                    -- `xSemaphoreGive`
  | startupSend                                  -- `generate_startup_event`: `xQueueSend`
  | startupGive                                  -- `xSemaphoreGive`
  | startupTest                                  -- `set_dataready_gpio`
  | startupLine
  | startupFlag
  | readTake                                     -- `get_next_tx_buffer`: `xSemaphoreTake`
  | readPoll (q : PrioQ)                         -- `xQueueReceive`
  | resetTest                                    -- `reset_dataready_gpio`: `data_ready_flag`
  | resetLine                                    -- `gpio_set_level`
  | resetFlag                                    -- `data_ready_flag = 0`
  deriving DecidableEq, Repr

/-- `missed` is for the statements only: a reader that had taken a token found every queue empty. -/
structure State where
  tokens : Nat := 0
  queued : PrioQ → Nat := fun _ => 0
  line : Bool := false
  flag : Bool := false
  ops : List Op := []
  missed : Bool := false

/-- `esp_spi_init` is done. -/
def start : State := {}

namespace State

/-- `xSemaphoreGive`: `spi_tx_sem` counts up to the length of the three queues. -/
def give (size : Nat) (s : State) : State := { s with tokens := min (s.tokens + 1) (size * 3) }

def send (q : PrioQ) (s : State) : State :=
  { s with queued := Function.update s.queued q (s.queued q + 1) }

def receive (q : PrioQ) (s : State) : State :=
  { s with queued := Function.update s.queued q (s.queued q - 1) }

end State

/-! ## Steps -/

/-- One step of an invocation: the invocations that it becomes. `xQueueSend` waits while the queue
is full. -/
def opStep (size : Nat) (s : State) : Op → Option (State × List Op)
  | .writeSend q => if s.queued q < size then some (s.send q, [.writeTest]) else none
  | .writeTest => some (s, [if s.flag then .writeGive else .writeLine])
  | .writeLine => some ({ s with line := true }, [.writeFlag])
  | .writeFlag => some ({ s with flag := true }, [.writeGive])
  | .writeGive => some (s.give size, [])
  | .startupSend => if s.queued .others < size then some (s.send .others, [.startupGive]) else none
  | .startupGive => some (s.give size, [.startupTest])
  -- `queue_next_transaction` follows
  | .startupTest => some (s, [if s.flag then .readTake else .startupLine])
  | .startupLine => some ({ s with line := true }, [.startupFlag])
  | .startupFlag => some ({ s with flag := true }, [.readTake])
  | .readTake =>
    some (if s.tokens =
      0 then (s, [.resetTest]) else ({ s with tokens := s.tokens - 1 }, [.readPoll .serial]))
  | .readPoll q =>
    some (if s.queued q = 0 then
        match q.next with
        | some q' => (s, [.readPoll q'])
        | none => ({ s with missed := true }, [.resetTest])
      else (s.receive q, []))
  | .resetTest => some (s, if s.flag then [.resetLine] else [])
  | .resetLine => some ({ s with line := false }, [.resetFlag])
  | .resetFlag => some ({ s with flag := false }, [])

/-- What is called from outside. -/
inductive Call
  | write (q : PrioQ)
  | startup
  | prepare                                      -- `queue_next_transaction` after a transaction
  deriving DecidableEq, Repr

def Call.entry : Call → Op
  | .write q => .writeSend q
  | .startup => .startupSend
  | .prepare => .readTake

inductive Action
  | call (c : Call)
  | op (i : Nat)                                 -- the `i`th invocation under way
  deriving DecidableEq, Repr

def step (size : Nat) (s : State) : Action → Option State
  | .call c => some { s with ops := c.entry :: s.ops }
  | .op i =>
    s.ops[i]?.bind fun op => (opStep size s op).map fun r =>
      { r.1 with ops := r.2 ++ s.ops.eraseIdx i }

/-! ## The count -/

/-- Between its queue send and its semaphore give. -/
def Op.pending : Op → Nat
  | .writeTest | .writeLine | .writeFlag | .writeGive | .startupGive => 1
  | _ => 0

/-- The class a reader that has a token looks into. -/
def Op.looking : Op → ℕ → ℕ
  | .readPoll q => Pi.single q.idx 1
  | _ => 0

/-- The packets in the three queues. -/
def State.packets (s : State) : Nat := s.queued .serial + s.queued .bt + s.queued .others

/-- **The count**: a packet has a token, or its writer has still to give it, or a reader has taken
it and looks for the packet. `pending` and `looking` are those writers and readers. -/
structure Balanced (size : Nat) (s : State) (pending : ℕ) (looking : ℕ → ℕ) : Prop where
  counts : Counts s.queued s.tokens pending looking
  room : ∀ q, s.queued q ≤ size
  found : s.missed = false

theorem balanced_start (size : Nat) : Balanced size start 0 0 where
  counts := .start
  room := fun _ => Nat.zero_le _
  found := rfl

namespace Balanced

variable {size pending : Nat} {s : State} {looking : ℕ → ℕ} {q : PrioQ}

theorem send (h : Balanced size s pending looking) (hroom : s.queued q < size) :
    Balanced size (s.send q) (1 + pending) looking where
  counts := h.counts.send
  room := by
    intro q'
    by_cases hq : q' = q
    · subst hq
      simp only [State.send, Function.update_self]
      exact hroom
    · simp only [State.send, Function.update_of_ne hq]
      exact h.room q'
  found := h.found

theorem give (h : Balanced size s (1 + pending) looking) : Balanced size
    (s.give size) pending looking :=
  ⟨h.counts.give h.room, h.room, h.found⟩

theorem take (h : Balanced size s pending looking) (htoken : s.tokens ≠ 0) :
    Balanced size { s with tokens := s.tokens - 1 } pending
    (Pi.single PrioQ.serial.idx 1 + looking) :=
  ⟨h.counts.take htoken, h.room, h.found⟩

theorem receive (h : Balanced size s pending (Pi.single q.idx 1 + looking))
    (hitem : s.queued q ≠ 0) :
    Balanced size (s.receive q) pending looking where
  counts := h.counts.receive hitem
  room := by
    intro q'
    by_cases hq : q' = q
    · subst hq
      simp only [State.receive, Function.update_self]
      exact Nat.le_trans (Nat.sub_le _ _) (h.room q')
    · simp only [State.receive, Function.update_of_ne hq]
      exact h.room q'
  found := h.found

theorem miss {q' : PrioQ} (h : Balanced size s pending (Pi.single q.idx 1 + looking))
    (hempty : s.queued q = 0) (hnext : q.next = some q') :
    Balanced size s pending (Pi.single q'.idx 1 + looking) :=
  ⟨h.counts.miss hempty hnext, h.room, h.found⟩

/-- The line and its flag do not count. -/
theorem signal (h : Balanced size s pending looking) (line flag : Bool) :
    Balanced size { s with line := line, flag := flag } pending looking :=
  ⟨h.counts, h.room, h.found⟩

end Balanced

/-- **One step of an invocation** keeps the count. -/
theorem opStep_balanced {size pending : Nat} {s t : State} {looking : ℕ → ℕ} {op : Op}
    {qs : List Op}
    (h : Balanced size s (op.pending + pending) (op.looking + looking))
    (hs : opStep size s op = some (t, qs)) :
    Balanced size t (total Op.pending qs + pending) (total Op.looking qs + looking) := by
  cases op with
  | writeSend q | startupSend =>
    obtain ⟨hroom, hs⟩ := Option.ite_none_right_eq_some.1 hs
    cases hs
    simpa [Op.pending, Op.looking] using (h.send hroom)
  | writeTest =>
    cases hs
    cases s.flag <;> simpa [Op.pending, Op.looking] using h
  | startupTest =>
    cases hs
    cases s.flag <;> simpa [Op.pending, Op.looking] using h
  | writeGive | startupGive =>
    cases hs
    simpa [Op.pending, Op.looking] using h.give
  | readTake =>
    rw [opStep, Option.some.injEq] at hs
    split at hs
    · cases hs
      simpa [Op.pending, Op.looking] using h
    · rename_i htoken
      cases hs
      simpa [Op.pending, Op.looking] using h.take htoken
  | readPoll q =>
    rw [opStep, Option.some.injEq] at hs
    split at hs
    · rename_i hempty
      split at hs
      · rename_i q' hnext
        cases hs
        simpa [Op.pending, Op.looking] using h.miss hempty hnext
      · rename_i hlast
        exact absurd hempty (h.counts.last hlast)
    · rename_i hitem
      cases hs
      simpa [Op.pending, Op.looking] using h.receive hitem
  | resetTest =>
    cases hs
    cases s.flag <;> simpa [Op.pending, Op.looking] using h
  | writeLine | startupLine =>
    cases hs
    simpa [Op.pending, Op.looking] using h.signal true s.flag
  | writeFlag | startupFlag =>
    cases hs
    simpa [Op.pending, Op.looking] using h.signal s.line true
  | resetLine =>
    cases hs
    simpa [Op.pending, Op.looking] using h.signal false s.flag
  | resetFlag =>
    cases hs
    simpa [Op.pending, Op.looking] using h.signal s.line false

/-- The count, with the invocations under way. -/
def Counted (size : Nat) (s : State) : Prop :=
  Balanced size s (total Op.pending s.ops) (total Op.looking s.ops)

theorem counted_step {size : Nat} {s s' : State} {a : Action} (h : Counted size s)
    (hs : step size s a = some s') : Counted size s' := by
  cases a with
  | call c =>
    cases hs
    have hidle : c.entry.pending = 0 ∧ c.entry.looking = 0 := by
      cases c <;> exact ⟨rfl, rfl⟩
    refine ⟨?_, h.room, h.found⟩
    rw [total_cons, total_cons, hidle.1, hidle.2, Nat.zero_add, zero_add]
    exact h.counts
  | op i =>
    obtain ⟨op, hop, hs⟩ := Option.bind_eq_some_iff.1 hs
    obtain ⟨⟨t, qs⟩, hstep, rfl⟩ := Option.map_eq_some_iff.1 hs
    unfold Counted at h ⊢
    rw [total_split hop, total_split hop] at h
    have hnext := opStep_balanced h hstep
    rw [← total_append, ← total_append] at hnext
    exact ⟨hnext.counts, hnext.room, hnext.found⟩

theorem counted_start (size : Nat) : Counted size start := balanced_start size

/-! ## The signal -/

/-- About to lower the line or its flag. -/
def Op.lowering : Op → Bool
  | .resetLine | .resetFlag => true
  | _ => false

/-- About to raise the line or its flag. -/
def Op.raising : Op → Bool
  | .writeLine | .writeFlag | .startupLine | .startupFlag => true
  | _ => false

/-- About to set the flag, the line being up. -/
def Op.flagging : Op → Bool
  | .writeFlag | .startupFlag => true
  | _ => false

/-- A start-up event that has given its token and has still to signal. -/
def Op.late : Op → Bool
  | .startupTest | .startupLine | .startupFlag => true
  | _ => false

/-- What keeps raising and lowering apart. While `reset_dataready_gpio` is between its test and its
end no packet is sent; it goes on behind its test only with no packet pending and nobody about to
raise the line; and `generate_startup_event` goes on behind its own only with nobody about to lower
the line. -/
def Guard (s : State) : Action → Prop
  | .call _ => True
  | .op i =>
    match s.ops[i]? with
    | some (.writeSend _) | some .startupSend => ∀ op ∈ s.ops, op.lowering = false
    | some .resetTest =>
      s.flag = true → s.tokens = 0 ∧ ∀ op ∈ s.ops, op.pending = 0 ∧ op.raising = false
    | some .startupTest => s.flag = false → .resetLine ∉ s.ops
    | _ => True

/-- What the line, its flag and the tokens say of each other, for the invocations under way. -/
structure Signalled (s : State) (ops : List Op) : Prop where
  /-- Nothing is pending while the line is lowered. -/
  quiet : ∀ op ∈ ops, op.lowering = true → s.tokens = 0 ∧ ∀ op' ∈ ops, op'.pending = 0
  apart : .resetLine ∈ ops → ∀ op ∈ ops, op.raising = false
  line : s.flag = true → s.line = true ∨ .resetFlag ∈ ops
  raised : ∀ op ∈ ops, op.flagging = true → s.line = true
  flagged : .writeGive ∈ ops → s.flag = true
  token : s.tokens ≠ 0 → s.flag = true ∨ ∃ op ∈ ops, op.late = true

theorem signalled_start : Signalled start [] where
  quiet := nofun
  apart := nofun
  line := nofun
  raised := nofun
  flagged := nofun
  token := fun h => absurd rfl h

theorem Signalled.congr {s : State} {ops ops' : List Op} (h : Signalled s ops)
    (hmem : ∀ op, op ∈ ops' ↔ op ∈ ops) :
    Signalled s ops' := by
  obtain ⟨hquiet, hapart, hline, hraised, hflagged, htoken⟩ := h
  constructor <;> simpa only [hmem]

namespace Signalled

variable {s : State} {op : Op} {rest : List Op}

/-- An invocation that nobody counts on comes to its end. -/
theorem leave (h : Signalled s (op :: rest))
    (hlate : op.late = true → s.flag = true ∨ ∃ p ∈ rest, p.late = true) (hop : op ≠ .resetFlag) :
    Signalled s rest where
  quiet := by
    intro p hp hlowering
    obtain ⟨htokens, hpending⟩ := h.quiet p (List.mem_cons_of_mem op hp) hlowering
    exact ⟨htokens, fun p' hp' => hpending p' (List.mem_cons_of_mem op hp')⟩
  apart := fun hreset p hp =>
    h.apart (List.mem_cons_of_mem op hreset) p (List.mem_cons_of_mem op hp)
  line := fun hflag => (h.line hflag).imp_right fun hreset =>
    (List.mem_cons.1 hreset).resolve_left hop.symm
  raised := fun p hp => h.raised p (List.mem_cons_of_mem op hp)
  flagged := fun hgive => h.flagged (List.mem_cons_of_mem op hgive)
  token := by
    intro htoken
    rcases h.token htoken with hflag | ⟨p, hp, hp'⟩
    · exact .inl hflag
    · rcases List.mem_cons.1 hp with rfl | hp
      · exact hlate hp'
      · exact .inr ⟨p, hp, hp'⟩

/-- A late one is followed by a late one. -/
theorem replace {op' : Op} (h : Signalled s (op' :: op :: rest)) (hlate : op'.late = true)
    (hop : op ≠ .resetFlag) : Signalled s (op' :: rest) :=
  (h.congr fun _ => (List.Perm.swap op' op rest).mem_iff).leave
    (fun _ => .inr ⟨op', List.mem_cons_self, hlate⟩) hop

/-- An invocation comes in that does not lower: what is said of it must be so. -/
theorem enter (h : Signalled s rest) (hlow : op.lowering = false)
    (hpending : op.pending = 0 ∨ ∀ p ∈ rest, p.lowering = false)
    (hraise : op.raising = true → .resetLine ∉ rest) (hline : op.flagging = true → s.line = true)
    (hgive : op = .writeGive → s.flag = true) : Signalled s (op :: rest) where
  quiet := by
    intro p hp hlowering
    have hp : p ∈ rest := by
      rcases List.mem_cons.1 hp with rfl | hp
      · rw [hlow] at hlowering
        cases hlowering
      · exact hp
    obtain ⟨htokens, hall⟩ := h.quiet p hp hlowering
    refine ⟨htokens, List.forall_mem_cons.2 ⟨?_, hall⟩⟩
    rcases hpending with hzero | hnone
    · exact hzero
    · rw [hnone p hp] at hlowering
      cases hlowering
  apart := by
    intro hreset
    have hreset : .resetLine ∈ rest := by
      rcases List.mem_cons.1 hreset with rfl | hreset
      · cases hlow
      · exact hreset
    refine List.forall_mem_cons.2 ⟨?_, h.apart hreset⟩
    rw [← Bool.not_eq_true]
    exact fun hraising => hraise hraising hreset
  line := fun hflag => (h.line hflag).imp_right (List.mem_cons_of_mem op)
  raised := List.forall_mem_cons.2 ⟨hline, h.raised⟩
  flagged := by
    intro hmem
    rcases List.mem_cons.1 hmem with heq | hmem
    · exact hgive heq.symm
    · exact h.flagged hmem
  token := by
    intro htoken
    refine (h.token htoken).imp_right ?_
    rintro ⟨p, hp, hlate⟩
    exact ⟨p, List.mem_cons_of_mem op hp, hlate⟩

/-- `reset_dataready_gpio` behind its test. -/
theorem enter_resetLine (h : Signalled s rest) (htokens : s.tokens = 0)
    (hrest : ∀ p ∈ rest, p.pending = 0 ∧ p.raising = false) : Signalled s (.resetLine :: rest) where
  quiet := fun _ _ _ => ⟨htokens, List.forall_mem_cons.2 ⟨rfl, fun p hp => (hrest p hp).1⟩⟩
  apart := fun _ => List.forall_mem_cons.2 ⟨rfl, fun p hp => (hrest p hp).2⟩
  line := fun hflag => (h.line hflag).imp_right (List.mem_cons_of_mem _)
  raised := List.forall_mem_cons.2 ⟨nofun, h.raised⟩
  flagged := fun hmem => h.flagged ((List.mem_cons.1 hmem).resolve_left nofun)
  token := fun htoken => absurd htokens htoken

/-- The line goes up. -/
theorem setLine (h : Signalled s rest) : Signalled { s with line := true } rest :=
  ⟨h.quiet, h.apart, fun _ => .inl rfl, fun _ _ _ => rfl, h.flagged, h.token⟩

/-- The flag goes up behind the line. -/
theorem setFlag (h : Signalled s rest) (hline : s.line = true) : Signalled
    { s with flag := true } rest :=
  ⟨h.quiet, h.apart, fun _ => .inl hline, h.raised, fun _ => rfl, fun _ => .inl rfl⟩

/-- A token for a packet that is signalled, or will be by who comes late. -/
theorem give (h : Signalled s rest) (size : Nat) (hlow : ∀ p ∈ rest, p.lowering = false)
    (hlate : s.flag = true ∨ ∃ p ∈ rest, p.late = true) : Signalled (s.give size) rest where
  quiet := by
    intro p hp hlowering
    rw [hlow p hp] at hlowering
    cases hlowering
  apart := h.apart
  line := h.line
  raised := h.raised
  flagged := h.flagged
  token := fun _ => hlate

/-- A token is taken. -/
theorem take (h : Signalled s rest) (htoken : s.tokens ≠ 0) :
    Signalled { s with tokens := s.tokens - 1 } rest :=
  ⟨fun p hp hlowering => absurd (h.quiet p hp hlowering).1 htoken, h.apart, h.line,
    h.raised, h.flagged, fun _ => h.token htoken⟩

/-- The queues and the packets that were missed do not matter. -/
theorem move (h : Signalled s rest) (queued : PrioQ → Nat) (missed : Bool) :
    Signalled { s with queued := queued, missed := missed } rest :=
  ⟨h.quiet, h.apart, h.line, h.raised, h.flagged, h.token⟩

/-- The line goes down, with its flag to follow. -/
theorem resetLine (h : Signalled s (.resetLine :: rest)) :
    Signalled { s with line := false } (.resetFlag :: rest) where
  quiet := by
    obtain ⟨htokens, hpending⟩ := h.quiet .resetLine List.mem_cons_self rfl
    exact fun _ _ _ =>
      ⟨htokens, List.forall_mem_cons.2 ⟨rfl, fun p hp => hpending p (List.mem_cons_of_mem _ hp)⟩⟩
  apart := fun _ =>
    List.forall_mem_cons.2
      ⟨rfl, fun p hp => h.apart List.mem_cons_self p (List.mem_cons_of_mem _ hp)⟩
  line := fun _ => .inr List.mem_cons_self
  raised := by
    -- who is about to set the flag was to be kept away
    intro p hp hflagging
    have hp : p ∈ rest := by
      rcases List.mem_cons.1 hp with rfl | hp
      · cases hflagging
      · exact hp
    have hnot := h.apart List.mem_cons_self p (List.mem_cons_of_mem _ hp)
    cases p with
    | writeFlag | startupFlag => cases hnot
    | _ => cases hflagging
  flagged := fun hmem =>
    h.flagged (List.mem_cons_of_mem _ ((List.mem_cons.1 hmem).resolve_left nofun))
  token := fun htoken => absurd (h.quiet .resetLine List.mem_cons_self rfl).1 htoken

/-- The flag goes down: nothing is pending that counts on it. -/
theorem resetFlag (h : Signalled s (.resetFlag :: rest)) : Signalled
    { s with flag := false } rest where
  quiet := by
    intro p hp hlowering
    obtain ⟨htokens, hpending⟩ := h.quiet p (List.mem_cons_of_mem _ hp) hlowering
    exact ⟨htokens, fun p' hp' => hpending p' (List.mem_cons_of_mem _ hp')⟩
  apart := fun hreset p hp => h.apart (List.mem_cons_of_mem _ hreset) p (List.mem_cons_of_mem _ hp)
  line := nofun
  raised := fun p hp => h.raised p (List.mem_cons_of_mem _ hp)
  flagged := by
    intro hmem
    have hpending :=
      (h.quiet .resetFlag List.mem_cons_self rfl).2 .writeGive (List.mem_cons_of_mem _ hmem)
    cases hpending
  token := fun htoken => absurd (h.quiet .resetFlag List.mem_cons_self rfl).1 htoken

/-- While a packet is pending nobody lowers the line. -/
theorem not_lowering (h : Signalled s (op :: rest)) (hop : op.pending = 1) : ∀ p ∈ rest,
    p.lowering = false := by
  intro p hp
  rw [← Bool.not_eq_true]
  intro hlowering
  have hzero := (h.quiet p (List.mem_cons_of_mem op hp) hlowering).2 op List.mem_cons_self
  omega

theorem resetLine_notMem (hlow : ∀ p ∈ rest, p.lowering = false) : .resetLine ∉ rest := by
  intro hmem
  cases hlow _ hmem

end Signalled

/-- What the guard says to the invocation that steps, of the others. -/
def OpGuard (s : State) (rest : List Op) : Op → Prop
  | .writeSend _ | .startupSend => ∀ op ∈ rest, op.lowering = false
  | .resetTest => s.flag = true → s.tokens = 0 ∧ ∀ op ∈ rest, op.pending = 0 ∧ op.raising = false
  | .startupTest => s.flag = false → .resetLine ∉ rest
  | _ => True

/-- **One step of an invocation** keeps the signal. -/
theorem opStep_signalled {size : Nat} {s t : State} {op : Op} {qs rest : List Op}
    (h : Signalled s (op :: rest)) (hG : OpGuard s rest op) (hs : opStep size s op = some (t, qs)) :
    Signalled t (qs ++ rest) := by
  cases op with
  | writeSend q | startupSend =>
    obtain ⟨-, hs⟩ := Option.ite_none_right_eq_some.1 hs
    cases hs
    exact ((h.leave nofun nofun).move _ _).enter rfl (.inr hG) nofun nofun nofun
  | writeTest =>
    have hlow := h.not_lowering rfl
    cases hs
    cases hflag : s.flag with
    | true =>
      exact (h.leave nofun nofun).enter rfl (.inr hlow) nofun nofun fun _ => hflag
    | false =>
      exact (h.leave nofun nofun).enter rfl (.inr hlow) (fun _ => Signalled.resetLine_notMem hlow)
        nofun nofun
  | writeLine =>
    have hlow := h.not_lowering rfl
    cases hs
    exact (h.leave nofun nofun).setLine.enter rfl (.inr hlow)
      (fun _ => Signalled.resetLine_notMem hlow)
      (fun _ => rfl) nofun
  | writeFlag =>
    have hlow := h.not_lowering rfl
    have hline := h.raised .writeFlag List.mem_cons_self rfl
    cases hs
    exact ((h.leave nofun nofun).setFlag hline).enter rfl (.inr hlow) nofun nofun
      fun _ => rfl
  | writeGive =>
    have hlow := h.not_lowering rfl
    have hflag := h.flagged List.mem_cons_self
    cases hs
    exact (h.leave nofun nofun).give size hlow (.inl hflag)
  | startupGive =>
    have hlow := h.not_lowering rfl
    cases hs
    have henter : Signalled s (.startupTest :: rest) :=
      (h.leave nofun nofun).enter rfl (.inl rfl) nofun nofun nofun
    exact henter.give size (List.forall_mem_cons.2 ⟨rfl, hlow⟩) (.inr ⟨_, List.mem_cons_self, rfl⟩)
  | startupTest =>
    cases hs
    cases hflag : s.flag with
    | true =>
      exact (h.leave (fun _ => .inl hflag) nofun).enter rfl (.inl rfl) nofun
        nofun nofun
    | false =>
      have hreset : .resetLine ∉ Op.startupTest :: rest :=
        fun hmem => hG hflag ((List.mem_cons.1 hmem).resolve_left nofun)
      have henter : Signalled s (.startupLine :: .startupTest :: rest) :=
        h.enter rfl (.inl rfl) (fun _ => hreset) nofun nofun
      exact henter.replace rfl nofun
  | startupLine =>
    have hreset : .resetLine ∉ Op.startupLine :: rest := by
      intro hmem
      cases h.apart hmem .startupLine List.mem_cons_self
    cases hs
    have henter : Signalled { s with line := true } (.startupFlag :: .startupLine :: rest) :=
      h.setLine.enter rfl (.inl rfl) (fun _ => hreset) (fun _ => rfl) nofun
    exact henter.replace rfl nofun
  | startupFlag =>
    have hline := h.raised .startupFlag List.mem_cons_self rfl
    cases hs
    exact ((h.setFlag hline).leave (fun _ => .inl rfl) nofun).enter rfl (.inl rfl) nofun
      nofun nofun
  | readTake =>
    rw [opStep, Option.some.injEq] at hs
    split at hs
    · cases hs
      exact (h.leave nofun nofun).enter rfl (.inl rfl) nofun nofun nofun
    · rename_i htoken
      cases hs
      exact ((h.leave nofun nofun).take htoken).enter rfl (.inl rfl) nofun nofun nofun
  | readPoll q =>
    rw [opStep, Option.some.injEq] at hs
    split at hs
    · split at hs
      · cases hs
        exact (h.leave nofun nofun).enter rfl (.inl rfl) nofun nofun nofun
      · cases hs
        exact ((h.leave nofun nofun).move _ _).enter rfl (.inl rfl) nofun nofun nofun
    · cases hs
      exact (h.leave nofun nofun).move _ _
  | resetTest =>
    cases hs
    cases hflag : s.flag with
    | true =>
      obtain ⟨htokens, hrest⟩ := hG hflag
      exact (h.leave nofun nofun).enter_resetLine htokens hrest
    | false => exact h.leave nofun nofun
  | resetLine =>
    cases hs
    exact h.resetLine
  | resetFlag =>
    cases hs
    exact h.resetFlag

theorem signalled_step {size : Nat} {s s' : State} {a : Action} (h : Signalled s s.ops)
    (hG : Guard s a)
    (hs : step size s a = some s') : Signalled s' s'.ops := by
  cases a with
  | call c =>
    cases hs
    have henter : Signalled s (c.entry :: s.ops) := by
      cases c <;> exact h.enter rfl (.inl rfl) nofun nofun nofun
    exact ⟨henter.quiet, henter.apart, henter.line, henter.raised, henter.flagged, henter.token⟩
  | op i =>
    obtain ⟨op, hop, hs⟩ := Option.bind_eq_some_iff.1 hs
    obtain ⟨⟨t, qs⟩, hstep, rfl⟩ := Option.map_eq_some_iff.1 hs
    have hmem : ∀ p, p ∈ op :: s.ops.eraseIdx i ↔ p ∈ s.ops := by
      intro p
      rw [List.mem_cons, mem_iff_of_getElem? hop]
    have hop' : OpGuard s (s.ops.eraseIdx i) op := by
      have hrest : ∀ p ∈ s.ops.eraseIdx i, p ∈ s.ops := fun p hp => List.mem_of_mem_eraseIdx hp
      simp only [Guard, hop] at hG
      cases op with
      | writeSend q => exact fun p hp => hG p (hrest p hp)
      | startupSend => exact fun p hp => hG p (hrest p hp)
      | startupTest => exact fun hflag hreset => hG hflag (hrest _ hreset)
      | resetTest => exact fun hflag => (hG hflag).imp_right fun hall p hp => hall p (hrest p hp)
      | _ => trivial
    have hnext := opStep_signalled (h.congr hmem) hop' hstep
    exact ⟨hnext.quiet, hnext.apart, hnext.line, hnext.raised, hnext.flagged, hnext.token⟩

/-! ## Data ready -/

/-- In a writer behind its queue send, or preparing a transaction. -/
def Op.busy : Op → Bool
  | .writeSend _ | .startupSend | .readTake => false
  | _ => true

def State.AtRest (s : State) : Prop := ∀ op ∈ s.ops, op.busy = false

/-- **A pending packet raises data-ready.** -/
def Ready (s : State) : Prop := s.AtRest → s.tokens ≠ 0 → s.line = true ∧ s.flag = s.line

theorem busy_of_late {op : Op} (h : op.late = true) : op.busy = true := by
  cases op with
  | startupTest | startupLine | startupFlag => rfl
  | _ => cases h

theorem Signalled.ready {s : State} (h : Signalled s s.ops) : Ready s := by
  intro hrest htokens
  have hflag : s.flag = true := by
    rcases h.token htokens with hflag | ⟨op, hop, hlate⟩
    · exact hflag
    · have hbusy := hrest op hop
      rw [busy_of_late hlate] at hbusy
      cases hbusy
  have hline : s.line = true := by
    rcases h.line hflag with hline | hreset
    · exact hline
    · cases hrest _ hreset
  exact ⟨hline, hflag.trans hline.symm⟩

/-- **The tokens count the packets**: no reader comes away with nothing, and where nobody is between
the two halves of a write or of a read there is a token for each packet. -/
structure Exact (s : State) : Prop where
  found : s.missed = false
  tokens : (∀ op ∈ s.ops, op.pending = 0 ∧ op.looking = 0) → s.tokens = s.packets

theorem Counted.exact {size : Nat} {s : State} (h : Counted size s) : Exact s where
  found := h.found
  tokens := by
    intro hhalves
    have hcounts := h.counts
    rw [total_eq_zero fun op hop => (hhalves op hop).1, total_eq_zero fun op hop =>
      (hhalves op hop).2] at hcounts
    exact hcounts.tokens_eq

/-- **Data ready**: the tokens count the packets in every run, and a pending packet raises
data-ready in every run that keeps raising and lowering apart. -/
theorem data_ready (size : Nat) :
    (∀ s, Reach (step size) Free start s → Exact s) ∧ ∀ s, Reach (step size) Guard start s →
    Ready s := by
  constructor
  · intro s h
    exact (h.invariant (counted_start size) fun hcounted _ hs => counted_step hcounted hs).exact
  · intro s h
    have hsignalled := h.invariant (I := fun s => Signalled s s.ops) signalled_start signalled_step
    exact hsignalled.ready

/-- The guard, as a test. -/
def keptApart (s : State) : Action → Bool
  | .call _ => true
  | .op i =>
    match s.ops[i]? with
    | some (.writeSend _) | some .startupSend => s.ops.all fun op => !op.lowering
    | some .resetTest =>
      !s.flag || (s.tokens = 0 && s.ops.all fun op => op.pending = 0 && !op.raising)
    | some .startupTest => s.flag || !s.ops.contains .resetLine
    | _ => true

theorem guard_of_keptApart (s : State) (a : Action) (h : keptApart s a = true) : Guard s a := by
  cases a with
  | call c => trivial
  | op i =>
    simp only [keptApart] at h
    simp only [Guard]
    split at h
    · simpa using h
    · simpa using h
    · intro hflag
      simpa [hflag] using h
    · intro hflag
      simpa [hflag] using h
    · exact trivial

/-- One call that is carried through, `n` steps of it. -/
def carryOut (c : Call) (n : Nat) : List Action := .call c :: List.replicate n (.op 0)

/-- A packet that is fetched, an idle transaction, and a packet that waits. -/
theorem data_ready_pending :
    ∃ s, run (guarded keptApart (step 1)) start
    (carryOut (.write .serial) 5 ++ carryOut .prepare 2 ++
        carryOut .prepare 4 ++ carryOut (.write .bt) 5) = some s ∧
      (s.tokens, s.line, s.flag, s.ops) = (1, true, true, []) ∧ Ready s ∧ Exact s := by
  have hrun :
    (run (guarded keptApart (step 1)) start (carryOut (.write .serial) 5 ++ carryOut .prepare 2 ++
      carryOut .prepare 4 ++ carryOut (.write .bt) 5)).map
        (fun s => (s.tokens, s.line, s.flag, s.ops)) =
        some (1, true, true, []) := by
    decide +kernel
  obtain ⟨s, hs, hend⟩ := Option.map_eq_some_iff.1 hrun
  have hreach := reach_of_guarded_run guard_of_keptApart hs
  exact ⟨s, hs, hend, (data_ready 1).2 s hreach, (data_ready 1).1 s hreach.free⟩

/-- A writer that finds the flag set, while a transaction is prepared that found no token: the
writer gives its token, the line goes down after it, and nothing tells the host of the packet. -/
theorem data_ready_lost :
    ∃ s, run (step 1) start
    (carryOut (.write .serial) 5 ++ carryOut .prepare 2 ++ carryOut (.write .serial) 2 ++
        carryOut .prepare 1 ++ [.op 1] ++ List.replicate 3 (.op 0)) = some s ∧
      (s.tokens, s.line, s.flag, s.ops) = (1, false, false, []) ∧ ¬Ready s := by
  have hrun : (run (step 1) start (carryOut (.write .serial) 5 ++ carryOut .prepare 2 ++
      carryOut (.write .serial) 2 ++ carryOut .prepare 1 ++ [.op 1] ++
        List.replicate 3 (.op 0))).map
        (fun s => (s.tokens, s.line, s.flag, s.ops)) = some (1, false, false, []) := by
    decide +kernel
  obtain ⟨s, hs, hend⟩ := Option.map_eq_some_iff.1 hrun
  refine ⟨s, hs, hend, fun hready => ?_⟩
  simp only [Prod.mk.injEq] at hend
  obtain ⟨htokens, hline, -, hops⟩ := hend
  have hsignal := hready (by simp [State.AtRest, hops]) (by simp [htokens])
  rw [hline] at hsignal
  cases hsignal.1

end EspHostedOpen.SpiTx
