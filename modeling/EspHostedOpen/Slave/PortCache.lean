import EspHostedOpen.Lib.Transition
import Mathlib.Logic.Function.Basic

/-!
# The cache of open ports (`nw_split_router.c`)

Whether a local port is open is looked up in the lists of lwIP, and the last answer is kept for a
second of the cache clock, whose unit is 1024 microseconds.
-/

namespace EspHostedOpen.PortCache

open Transition

/-- `tcp_cache`, `udp_cache`. -/
structure Cache where
  lastCheckTime : UInt64 := 0
  lastResult : Bool := false
  lastPort : UInt16 := 0
  deriving DecidableEq, Repr

/-- A walk through the control blocks, of which the local ports are listed. -/
def scan (pcbs : List UInt16) (port : UInt16) : Bool := pcbs.any (· == port)

/-- Whether the cache answers. -/
def Cache.hit (now : UInt64) (port : UInt16) (c : Cache) : Bool :=
  c.lastPort == port && now - c.lastCheckTime < 1000

/-- The body that the two functions share. -/
def isLocalPortOpen (now : UInt64) (pcbs : List UInt16) (port : UInt16) (c : Cache) :
    Bool × Cache :=
  if c.hit now port then (c.lastResult, { c with lastCheckTime := now })
  else (scan pcbs port, { lastCheckTime := now, lastResult := scan pcbs port, lastPort := port })

inductive Protocol
  | tcp | udp
  deriving DecidableEq, Repr

/-- The two statics. -/
abbrev Caches := Protocol → Cache

/-- The local ports in `tcp_listen_pcbs` and `udp_pcbs`. -/
abbrev Pcbs := Protocol → List UInt16

/-- One query of either kind. -/
def query (proto : Protocol) (now : UInt64) (pcbs : Pcbs) (port : UInt16) (caches : Caches) :
    Bool × Caches :=
  let (found, c) := isLocalPortOpen now (pcbs proto) port (caches proto)
  (found, Function.update caches proto c)

def isLocalTcpPortOpen : UInt64 → Pcbs → UInt16 → Caches → Bool × Caches := query .tcp
def isLocalUdpPortOpen : UInt64 → Pcbs → UInt16 → Caches → Bool × Caches := query .udp

/-! ## Runs -/

/-- The lists at some time. -/
structure Moment where
  time : UInt64
  pcbs : Pcbs

structure Answer where
  proto : Protocol
  port : UInt16
  found : Bool
  deriving DecidableEq, Repr

/-- The clock, the lists and the caches. For the statements only: the moments gone by, the answer to
the query just made, and when each list was last walked. -/
structure State where
  moment : Moment
  caches : Caches := fun _ => {}
  past : List Moment := []
  answer : Option Answer := none
  walked : Protocol → Option UInt64 := fun _ => none

inductive Action
  | tick (now : UInt64)                          -- the clock, which does not go back
  | change (pcbs : Pcbs)                         -- lwIP opens and closes ports
  | query (proto : Protocol) (port : UInt16)

/-- The moment passes. -/
def State.next (m : Moment) (s : State) : State :=
  { s with moment := m, past := s.moment :: s.past, answer := none }

def State.ask (proto : Protocol) (port : UInt16) (s : State) : State :=
  let (found, caches) := query proto s.moment.time s.moment.pcbs port s.caches
  { s with
    caches := caches
    answer := some ⟨proto, port, found⟩
    walked :=
      if (s.caches proto).hit s.moment.time port then s.walked
      else Function.update s.walked proto (some s.moment.time) }

def step (s : State) : Action → Option State
  | .tick now => if s.moment.time ≤ now then some (s.next { s.moment with time := now }) else none
  | .change pcbs => some (s.next { s.moment with pcbs := pcbs })
  | .query proto port => some (s.ask proto port)

/-- At boot, at any time and with any lists. -/
def boot (m : Moment) : State := { moment := m }

/-- **The answer is not stale**: a walk through the list at some moment of the last 1000 units gives
it. -/
def Timely (s : State) : Prop :=
  ∀ ans ∈ s.answer, ∃ m ∈ s.moment :: s.past,
    m.time ≤ s.moment.time ∧ s.moment.time.toNat ≤ m.time.toNat + 1000 ∧
      scan (m.pcbs ans.proto) ans.port = ans.found

/-- The cache is not asked for what was looked up more than 1000 units ago, or never. -/
def Guard (s : State) : Action → Prop
  | .query proto port =>
    (s.caches proto).hit s.moment.time port = true →
      ∃ walked ∈ s.walked proto, s.moment.time.toNat ≤ walked.toNat + 1000
  | _ => True

/-! ## The invariant -/

/-- What the cache holds was in the list when it was walked. -/
structure Sound (s : State) : Prop where
  walked : ∀ proto, ∀ t ∈ s.walked proto, ∃ m ∈ s.moment :: s.past,
    m.time = t ∧ scan (m.pcbs proto) (s.caches proto).lastPort = (s.caches proto).lastResult
  past : ∀ m ∈ s.past, m.time ≤ s.moment.time
  timely : Timely s

variable {s : State} {proto : Protocol} {port : UInt16}

theorem ask_of_hit (h : (s.caches proto).hit s.moment.time port = true) :
    s.ask proto port =
      { s with
        caches := Function.update s.caches proto
          { s.caches proto with lastCheckTime := s.moment.time }
        answer := some ⟨proto, port, (s.caches proto).lastResult⟩ } := by
  simp only [State.ask, query, isLocalPortOpen, h, if_true]

theorem ask_of_miss (h : (s.caches proto).hit s.moment.time port = false) :
    s.ask proto port =
      { s with
        caches :=
          Function.update s.caches proto ⟨s.moment.time, scan (s.moment.pcbs proto) port, port⟩
        answer := some ⟨proto, port, scan (s.moment.pcbs proto) port⟩
        walked := Function.update s.walked proto (some s.moment.time) } := by
  simp only [State.ask, query, isLocalPortOpen, h, Bool.false_eq_true, if_false]

theorem lastPort_of_hit (h : (s.caches proto).hit s.moment.time port = true) :
    (s.caches proto).lastPort = port := by
  rw [Cache.hit, Bool.and_eq_true, beq_iff_eq] at h
  exact h.1

theorem sound_boot (m : Moment) : Sound (boot m) := ⟨nofun, nofun, nofun⟩

theorem Sound.next (h : Sound s) {m : Moment} (hm : s.moment.time ≤ m.time) : Sound (s.next m) := by
  refine ⟨fun proto t ht => ?_, ?_, nofun⟩
  · obtain ⟨m', hm', hwalked⟩ := h.walked proto t ht
    exact ⟨m', List.mem_cons_of_mem _ hm', hwalked⟩
  · intro m' hm'
    rcases List.mem_cons.1 hm' with rfl | hpast
    · exact hm
    · exact UInt64.le_trans (h.past m' hpast) hm

/-- The moments a state knows of are not ahead of its clock. -/
theorem Sound.le (h : Sound s) {m : Moment} (hm : m ∈ s.moment :: s.past) :
    m.time ≤ s.moment.time := by
  rcases List.mem_cons.1 hm with rfl | hpast
  · exact UInt64.le_refl _
  · exact h.past m hpast

/-- A query that the cache answers. -/
theorem Sound.ask_hit (h : Sound s) (hhit : (s.caches proto).hit s.moment.time port = true)
    (hguard : ∃ t ∈ s.walked proto, s.moment.time.toNat ≤ t.toNat + 1000) : Sound
      (s.ask proto port) := by
  obtain ⟨t, ht, hlate⟩ := hguard
  obtain ⟨m, hm, rfl, hresult⟩ := h.walked proto t ht
  rw [lastPort_of_hit hhit] at hresult
  rw [ask_of_hit hhit]
  refine ⟨fun other t' ht' => ?_, h.past, ?_⟩
  · -- port and result of the cache are the old ones
    obtain ⟨m', hm', htime, hresult'⟩ := h.walked other t' ht'
    refine ⟨m', hm', htime, ?_⟩
    by_cases hother : other = proto
    · subst hother
      simpa only [Function.update_self] using hresult'
    · simpa only [Function.update_of_ne hother] using hresult'
  · rintro ans hans
    cases hans
    exact ⟨m, hm, h.le hm, hlate, hresult⟩

/-- A query that the cache does not answer. -/
theorem Sound.ask_miss (h : Sound s) (hmiss : (s.caches proto).hit s.moment.time port = false) :
    Sound (s.ask proto port) := by
  rw [ask_of_miss hmiss]
  refine ⟨fun other t' ht' => ?_, h.past, ?_⟩
  · by_cases hother : other = proto
    · subst hother
      simp only [Function.update_self] at ht' ⊢
      exact ⟨s.moment, List.mem_cons_self, Option.some.inj ht', rfl⟩
    · simp only [Function.update_of_ne hother] at ht' ⊢
      exact h.walked other t' ht'
  · rintro ans hans
    cases hans
    exact ⟨s.moment, List.mem_cons_self, UInt64.le_refl _, Nat.le_add_right _ _, rfl⟩

theorem sound_step {s s' : State} {a : Action} (h : Sound s) (hguard : Guard s a)
    (hs : step s a = some s') :
    Sound s' := by
  cases a with
  | tick now =>
    rw [step] at hs
    split at hs
    · cases hs
      exact h.next ‹_›
    · cases hs
  | change pcbs =>
    cases hs
    exact h.next (UInt64.le_refl _)
  | query proto port =>
    cases hs
    cases hhit : (s.caches proto).hit s.moment.time port with
    | true => exact h.ask_hit hhit (hguard hhit)
    | false => exact h.ask_miss hhit

/-- **No answer is stale** in a run in which the cache is only asked for what was looked up within
the window. -/
theorem timely_of_reach (m : Moment) {s : State} (h : Reach step Guard (boot m) s) : Timely s :=
  (h.invariant (sound_boot m) sound_step).timely

/-- A second query 900 units after the first. -/
theorem timely_secondQuery :
    Timely ((((boot ⟨5000, fun _ => [80]⟩).ask .tcp 80).next ⟨5900, fun _ => [80]⟩).ask .tcp 80) :=
  timely_of_reach ⟨5000, fun _ => [80]⟩ <|
    ((Reach.init.step (a := .query .tcp 80) (fun h => absurd h (by decide)) rfl).step
      (a := .tick 5900) trivial rfl).step
      (a := .query .tcp 80) (fun _ => ⟨5000, rfl, by decide⟩) rfl

/-- The port is closed after the first query, and asked for again every 900 units. -/
def steadyTraffic : List Action :=
  [.query .tcp 80, .change fun _ => [], .tick 5900, .query .tcp 80, .tick 6800, .query .tcp 80]

/-- It is still reported as open 1800 units later. -/
theorem not_timely_steadyTraffic : ¬∀ s, Reach step Free (boot ⟨5000, fun _ => [80]⟩) s →
    Timely s := by
  intro htimely
  have hreach : Reach step Free (boot ⟨5000, fun _ => [80]⟩) _ :=
    reach_of_run (show run step _ steadyTraffic = some _ from rfl)
  obtain ⟨m, hm, -, hlate, hscan⟩ := htimely _ hreach ⟨.tcp, 80, true⟩ rfl
  have hmoments : m ∈ [⟨6800, fun _ => []⟩, ⟨5900, fun _ => []⟩, ⟨5000, fun _ => []⟩,
    ⟨5000, fun _ => [80]⟩] := hm
  simp only [List.mem_cons, List.not_mem_nil, or_false] at hmoments
  -- the port was open at the last of these moments only, and that one is too long ago
  rcases hmoments with rfl | rfl | rfl | rfl
  · cases hscan
  · cases hscan
  · cases hscan
  · exact absurd hlate (by decide)

end EspHostedOpen.PortCache
