import EspHostedOpen.Host.SerialWrite
import EspHostedOpen.Link.UartPackets

/-!
# The stream of the requests (`serial_ll_if.c`, `uart_drv.c`)

As long as nothing fails, what is on the line, what is still to be copied to it and what
`serial_ll_write` has in hand are the fragments of the requests, one request behind the other.
-/

namespace EspHostedOpen.HostSerialTx

open ByteCodec Fragments Transition RxFrames HostUart

/-- What the slave puts a message together from. -/
def fragmentOf (h : Handle) : Fragment UInt16 UInt8 :=
    ⟨h.seqNum, h.payload, h.flag &&& moreFragment ≠ 0⟩

namespace State

def sent (s : State) : List (Fragment UInt16 UInt8) := s.line.map fun p => fragmentOf p.1

def queued (s : State) : List (Fragment UInt16 UInt8) :=
  s.pending.filterMap fun e => (s.heap e.buffer).map fun bytes => fragmentOf (e.handle bytes)

/-- What `serial_ll_write` has not queued yet. -/
def rest (build : Build) (s : State) : List (Fragment UInt16 UInt8) :=
  match s.writing with
  | none => []
  | some w => ((s.heap w.buffer).map fun bytes =>
    cut 0 (pieces (maxPayloadSize build) (bytes.drop w.offset))).getD []

end State

/-- The requests of a run that get a buffer. -/
def requests (as : List Action) : List (List UInt8) :=
  as.filterMap fun
    | .send env data => if Buffered env data then some data else none
    | _ => none

/-- The fragments of the requests. -/
def requestStream (build : Build) (reqs : List (List UInt8)) : List (Fragment UInt16 UInt8) :=
  stream (reqs.map fun data => (0, pieces (maxPayloadSize build) (message data)))

/-- Nothing fails: a request gets into the loop of `serial_ll_write`, the link stays up, and the
UART takes every packet as a whole. -/
def Through (build : Build) (s : State) : Action → Prop
  | .send env data => Buffered env data → Taken env data
  | .tx up => up = true
  | .write env => env.alloc = true ∧
    ∀ e, s.task = .took e → env.sent = build.headerSize + e.len.toNat
  | .dequeue => True
  | .free => True

theorem Through.careful {build : Build} {s : State} {a : Action} (h : Through build s a) :
    Careful s a := by
  cases a with
  | send env data => exact h
  | tx up =>
    intro hdown
    exact Bool.noConfusion (h.symm.trans hdown)
  | write env =>
    intro hnone
    exact Bool.noConfusion (h.1.symm.trans hnone)
  | dequeue => trivial
  | free => trivial

/-- **The invariant** of the requests taken so far. -/
structure Streamed (build : Build) (reqs : List (List UInt8)) (s : State) : Prop where
  ordered : Ordered s
  sound : Sound s
  small : ∀ e ∈ s.pending, e.len.toNat ≤ maxPayloadSize build
  ok : ∀ p ∈ s.line, ∃ env, hUartWritePacket build env p.1 = some p.2 ∧ p.2.ret = espOk ∧
    p.1.ifType = espSerialIf ∧ p.1.payloadZcopy = false
  fits : ∀ data ∈ reqs, data ≠ [] ∧ tlvSize + data.length ≤ maxFragmentablePayloadSize
  stream : s.sent ++ (s.queued ++ s.rest build) = requestStream build reqs

section Steps

variable {build : Build} {s : State} {reqs : List (List UInt8)}

theorem requestStream_snoc (build : Build) (reqs : List (List UInt8)) (data : List UInt8) :
    requestStream build (reqs ++ [data]) =
      requestStream build reqs ++ cut 0 (pieces (maxPayloadSize build) (message data)) := by
  simp [requestStream, Fragments.stream]

/-- What is to be copied does not change with the heap elsewhere. -/
theorem queued_congr {s' : State} (hpending : s'.pending = s.pending)
    (hheap : ∀ e ∈ s.pending, s'.heap e.buffer = s.heap e.buffer) : s'.queued = s.queued := by
  rw [State.queued, State.queued, hpending]
  exact List.filterMap_congr fun e he => by rw [hheap e he]

theorem rest_congr {s' : State} (hwriting : s'.writing = s.writing)
    (hheap : ∀ w ∈ s.writing, s'.heap w.buffer = s.heap w.buffer) :
    s'.rest build = s.rest build := by
  unfold State.rest
  rw [hwriting]
  cases h : s.writing with
  | none => rfl
  | some w =>
    dsimp only
    rw [hheap w h]

theorem queued_push (build : Build) {w : Writing} {bytes : List UInt8}
    (hheap : s.heap w.buffer = some bytes) (writing : Option Writing) :
    ({ s with queue := s.queue ++ [w.entry build], writing := writing } : State).queued =
      s.queued ++ [fragmentOf ((w.entry build).handle bytes)] := by
  rw [State.queued, s.pending_push, List.filterMap_append]
  congr 1
  change (((s.heap w.buffer).map _).toList : List (Fragment UInt16 UInt8)) = _
  rw [hheap]
  rfl

theorem streamed_send {env : SendEnv} {data : List UInt8} (h : Streamed build reqs s)
    (hwriting : s.writing = none)
    (htaken : Buffered env data → Taken env data)
    (hordered : Ordered (transportPserialSend env data s))
    (hsound : Sound (transportPserialSend env data s)) :
    Streamed build (reqs ++ if Buffered env data then [data] else [])
      (transportPserialSend env data s) := by
  have hstream := h.stream
  have hrest : s.rest build = [] := by rw [State.rest, hwriting]
  rw [hrest, List.append_nil] at hstream
  have hbelow : ∀ e ∈ s.pending, e.buffer ≠ s.made := fun e he =>
    Nat.ne_of_lt (h.ordered.queued e he).1
  by_cases hbuffered : Buffered env data
  · rw [if_pos hbuffered]
    have heq := send_taken (s := s) hbuffered (htaken hbuffered)
    have hqueued : (transportPserialSend env data s).queued = s.queued := by
      rw [heq]
      exact queued_congr rfl fun e he => s.heap_alloc_of_ne _ (hbelow e he)
    refine ⟨hordered, hsound, ?_, ?_, fun data' hdata => ?_, ?_⟩
    · rw [heq]
      exact h.small
    · rw [heq]
      exact h.ok
    · rcases List.mem_append.1 hdata with hdata | hdata
      · exact h.fits data' hdata
      · rw [List.mem_singleton.1 hdata]
        exact ⟨hbuffered.1, (htaken hbuffered).2.2⟩
    · rw [hqueued, requestStream_snoc, ← List.append_assoc, ← hstream, heq]
      congr 1
      rw [State.rest]
      dsimp only
      rw [s.heap_alloc_self]
      rfl
  · rw [if_neg hbuffered, List.append_nil]
    rcases send_unbuffered (s := s) hbuffered with heq | ⟨zeros, heq⟩
    · rw [heq] at hordered hsound ⊢
      refine ⟨hordered, hsound, h.small, h.ok, h.fits, ?_⟩
      exact (congrArg _ (List.append_nil _)).trans hstream
    · rw [heq] at hordered hsound ⊢
      refine ⟨hordered, hsound, h.small, h.ok, h.fits, ?_⟩
      have hqueued : (((s.alloc zeros).free s.made).ret failure).queued = s.queued :=
        queued_congr rfl fun e he =>
          ((s.alloc zeros).heap_free_of_ne (hbelow e he)).trans (s.heap_alloc_of_ne _ (hbelow e he))
      rw [hqueued]
      exact (congrArg _ (List.append_nil _)).trans hstream

/-- What the next fragment is, and what is left behind it. -/
theorem rest_eq (build : Build) {w : Writing} (hordered : Ordered s) (hw : s.writing = some w) :
    ∃ bytes, s.heap w.buffer = some bytes ∧ s.rest build = fragmentOf
    ((w.entry build).handle bytes) ::
      if (w.entry build).frees then []
      else cut 0
      (pieces (maxPayloadSize build) (bytes.drop (w.offset + (w.entry build).len.toNat))) := by
  obtain ⟨hpos, -, ⟨bytes, hheap, hinside⟩, -⟩ := hordered.inHand w hw
  refine ⟨bytes, hheap, ?_⟩
  have hlen := w.entry_len build
  have hdrop : (bytes.drop w.offset).length = w.remaining := by
    rw [List.length_drop]
    omega
  rw [State.rest, hw]
  dsimp only
  rw [hheap, Option.map_some, Option.getD_some]
  have hpayload : ((w.entry build).handle bytes).payload =
      (bytes.drop w.offset).take (w.entry build).len.toNat := rfl
  by_cases hmore : w.remaining > maxPayloadSize build
  · have hfrees : (w.entry build).frees = false := decide_eq_false (not_not.2 hmore)
    have hflag : decide ((w.entry build).flag &&& moreFragment ≠ 0) = true :=
      decide_eq_true (w.entry_flag.2 hfrees)
    rw [hfrees, if_neg Bool.false_ne_true, cut_pieces_cons (maxPayloadSize_pos build).1 (by omega),
      List.drop_drop]
    have hmin : (w.entry build).len.toNat = maxPayloadSize build := by omega
    rw [hmin] at hpayload ⊢
    rw [fragmentOf, hpayload]
    exact congrArg (fun b => Fragment.mk _ _ b :: _) hflag.symm
  · have hfrees : (w.entry build).frees = true := decide_eq_true hmore
    have hflag : decide ((w.entry build).flag &&& moreFragment ≠ 0) = false := by
      refine decide_eq_false fun hmore => ?_
      exact Bool.noConfusion (hfrees.symm.trans (w.entry_flag.1 hmore))
    rw [hfrees, if_pos rfl, cut_pieces_short (by omega), fragmentOf, hpayload,
      List.take_of_length_le (by omega)]
    exact congrArg (fun b => [Fragment.mk _ _ b]) hflag.symm

theorem streamed_tx {w : Writing} (h : Streamed build reqs s) (hw : s.writing = some w)
    (hordered : Ordered (serialLlWrite build true w s))
    (hsound : Sound (serialLlWrite build true w s)) :
    Streamed build reqs (serialLlWrite build true w s) := by
  obtain ⟨hpos, -, -, -⟩ := h.ordered.inHand w hw
  obtain ⟨bytes, hheap, hrest⟩ := rest_eq build h.ordered hw
  have hsmall : ∀ e ∈ s.pending ++ [w.entry build], e.len.toNat ≤ maxPayloadSize build := by
    intro e he
    rcases List.mem_append.1 he with he | he
    · exact h.small e he
    · rw [List.mem_singleton.1 he, w.entry_len build]
      exact Nat.min_le_right _ _
  have hstream := h.stream
  rw [hrest] at hstream
  rw [tx_up hpos] at hordered hsound ⊢
  cases hfrees : (w.entry build).frees with
  | true =>
    rw [hfrees, if_pos rfl] at hordered hsound hstream
    rw [if_pos rfl]
    refine ⟨hordered, hsound, (s.pending_push _ none).symm ▸ hsmall, h.ok, h.fits, ?_⟩
    have hqueued := queued_push build hheap none
    change s.sent ++
      (({ s with queue := s.queue ++ [w.entry build], writing := none } : State).queued ++ []) = _
    rw [hqueued, List.append_nil]
    exact hstream
  | false =>
    rw [hfrees, if_neg Bool.false_ne_true] at hordered hsound hstream
    rw [if_neg Bool.false_ne_true]
    refine ⟨hordered, hsound, (s.pending_push _ _).symm ▸ hsmall, h.ok, h.fits, ?_⟩
    rw [queued_push build hheap, List.append_assoc, State.rest]
    dsimp only
    rw [hheap]
    exact hstream

/-- The UART takes a fragment as a whole. -/
theorem hUartWritePacket_sent {env : WriteEnv} {e : Entry} {bytes : List UInt8} {w : Written}
    (halloc : env.alloc = true)
    (hmax : e.len.toNat ≤ maxPayloadSize build) (hsent : env.sent = build.headerSize + e.len.toNat)
    (hne : e.len ≠ 0) (hinside : e.offset + e.len.toNat ≤ bytes.length)
    (hw : hUartWritePacket build env (e.handle bytes) = some w) : w.ret = espOk := by
  have hlen : (e.handle bytes).payload.length = e.len.toNat := length_slice hinside
  have hpos : 0 < e.len.toNat := Nat.pos_of_ne_zero fun h => hne (UInt16.toNat_inj.1 h)
  have hpayload : (e.handle bytes).payload ≠ [] := List.ne_nil_of_length_pos (by omega)
  have hserial :
    ¬(((e.handle bytes).ifType &&& 0x0F) = espHciIf ∧ (e.handle bytes).payloadZcopy = false) :=
    fun h => absurd h.1 (show (espSerialIf &&& 0x0F : UInt8) ≠ espHciIf by decide)
  unfold hUartWritePacket at hw
  rw [if_neg fun h => hpayload h.2, halloc, if_neg fun h => Bool.noConfusion h.2, if_neg (by omega),
    if_neg hserial] at hw
  cases hw
  refine if_pos ?_
  rw [hsent, length_packet, hlen]

theorem streamed_write {env : WriteEnv} {e : Entry} (h : Streamed build reqs s)
    (htask : s.task = .took e) (halloc : env.alloc = true)
    (hsent : env.sent = build.headerSize + e.len.toNat)
    (hordered : Ordered (writeFragment build env e s))
    (hsound : Sound (writeFragment build env e s)) :
    Streamed build reqs (writeFragment build env e s) := by
  have htaken := pending_took htask
  have he : e ∈ s.pending := htaken ▸ List.mem_cons_self
  obtain ⟨bytes, hheap⟩ := Option.ne_none_iff_exists'.1 (h.sound.pointed e he)
  obtain ⟨-, hne, hinside⟩ := h.ordered.queued e he
  obtain ⟨w, hw, heq⟩ := write_live build env hheap hne (hinside bytes hheap)
  have hret := hUartWritePacket_sent halloc (h.small e he) hsent hne (hinside bytes hheap) hw
  generalize hnext : (if env.alloc = true ∧ e.frees = true then WriteTask.sent e.buffer
    else WriteTask.idle) = task at heq
  have hpending : ∀ line, ({ s with line := line, task := task } : State).pending = s.queue := by
    intro line
    rw [← hnext]
    split <;> rfl
  rw [heq] at hordered hsound ⊢
  refine ⟨hordered, hsound, fun e' he' => ?_, fun p hp => ?_, h.fits, ?_⟩
  · rw [hpending] at he'
    exact h.small e' (htaken ▸ List.mem_cons_of_mem e he')
  · rcases List.mem_append.1 hp with hp | hp
    · exact h.ok p hp
    · rw [List.mem_singleton.1 hp]
      exact ⟨env, hw, hret, rfl, rfl⟩
  · -- the first of what was to be copied is now the last on the line
    have hfirst : s.queued = fragmentOf (e.handle bytes) ::
        ({ s with line := s.line ++ [(e.handle bytes, w)], task := task } : State).queued := by
      have hhead : (s.heap e.buffer).map (fun bytes => fragmentOf (e.handle bytes)) =
          some (fragmentOf (e.handle bytes)) := by
        rw [hheap]
        rfl
      rw [State.queued, htaken, List.filterMap_cons, hhead, State.queued, hpending]
    have hline : ({ s with line := s.line ++ [(e.handle bytes, w)], task := task } : State).sent =
        s.sent ++ [fragmentOf (e.handle bytes)] := by
      rw [State.sent, State.sent, List.map_append]
      rfl
    have hstream := h.stream
    rw [hfirst] at hstream
    rw [hline, List.append_assoc]
    exact hstream

theorem streamed_dequeue {e : Entry} {queue : List Entry} (h : Streamed build reqs s)
    (htask : s.task = .idle) (hqueue : s.queue = e :: queue) :
    Streamed build reqs { s with queue := queue, task := .took e } := by
  have hpending : ({ s with queue := queue, task := .took e } : State).pending = s.pending := by
    rw [pending_idle htask, hqueue]
    rfl
  refine ⟨h.ordered.dequeue htask hqueue, h.sound.dequeue htask hqueue, ?_, h.ok, h.fits, ?_⟩
  · rw [hpending]
    exact h.small
  · rw [queued_congr hpending fun _ _ => rfl]
    exact h.stream

theorem streamed_free {b : Nat} (h : Streamed build reqs s) (htask : s.task = .sent b) :
    Streamed build reqs ({ s with task := .idle }.free b) := by
  obtain ⟨-, hpending, hwriting⟩ := h.ordered.leaving b htask
  have hsame : ({ s with task := .idle }.free b : State).pending = s.pending := by
    rw [State.pending, State.pending, htask]
    rfl
  refine ⟨h.ordered.release htask, h.sound.release h.ordered htask, ?_, h.ok, h.fits, ?_⟩
  · rw [hsame]
    exact h.small
  · have hqueued : ({ s with task := .idle }.free b : State).queued = s.queued :=
      queued_congr hsame fun e he => State.heap_free_of_ne _ (hpending e he)
    have hrest : ({ s with task := .idle }.free b : State).rest build = s.rest build :=
      rest_congr rfl fun w hw => State.heap_free_of_ne _ (hwriting w hw)
    rw [hqueued, hrest]
    exact h.stream

theorem streamed_step {s' : State} {a : Action} (h : Streamed build reqs s) (hG : Through build s a)
    (hs : step build s a = some s') : Streamed build (reqs ++ requests [a]) s' := by
  have hordered := ordered_step h.ordered hs
  have hsound := (sound_step_iff h.ordered h.sound hs).2 hG.careful
  cases a with
  | send env data =>
    have hreqs : requests [.send env data] = if Buffered env data then [data] else [] := by
      by_cases hbuffered : Buffered env data <;> simp [requests, hbuffered]
    obtain ⟨hwriting, -, rfl⟩ := send_inv hs
    rw [hreqs]
    exact streamed_send h hwriting hG hordered hsound
  | tx up =>
    obtain ⟨w, hw, rfl⟩ := Option.map_eq_some_iff.1 hs
    obtain rfl : up = true := hG
    rw [show requests [.tx true] = [] from rfl, List.append_nil]
    exact streamed_tx h hw hordered hsound
  | dequeue =>
    obtain ⟨e, queue, htask, hqueue, rfl⟩ := dequeue_inv hs
    rw [show requests [.dequeue] = [] from rfl, List.append_nil]
    exact streamed_dequeue h htask hqueue
  | write env =>
    obtain ⟨e, htask, rfl⟩ := write_inv hs
    obtain ⟨halloc, hsent⟩ := hG
    rw [show requests [.write env] = [] from rfl, List.append_nil]
    exact streamed_write h htask halloc (hsent e htask) hordered hsound
  | free =>
    obtain ⟨b, htask, rfl⟩ := free_inv hs
    rw [show requests [.free] = [] from rfl, List.append_nil]
    exact streamed_free h htask

/-- **The stream of a run** in which nothing fails. -/
theorem streamed_run {as : List Action} {t : State} (h : Streamed build reqs s)
    (hG : AllSteps (step build) (Through build) s as)
    (hrun : run (step build) s as = some t) : Streamed build (reqs ++ requests as) t := by
  induction as generalizing s reqs with
  | nil =>
    cases hrun
    rwa [show requests [] = [] from rfl, List.append_nil]
  | cons a as ih =>
    obtain ⟨s', hs, hrest⟩ := Option.bind_eq_some_iff.1 hrun
    have hnext := ih (streamed_step h hG.1 hs) (hG.2 s' hs) hrest
    have hsplit : requests (a :: as) = requests [a] ++ requests as := by
      rw [requests, requests, requests, ← List.filterMap_append]
      rfl
    rwa [hsplit, ← List.append_assoc]

theorem streamed_start (build : Build) : Streamed build [] {} where
  ordered := ⟨fun _ _ => rfl, nofun, .nil, nofun, nofun⟩
  sound := ⟨rfl, nofun, nofun, fun _ hb => absurd rfl hb⟩
  small := nofun
  ok := nofun
  fits := nofun
  stream := rfl

end Steps

end EspHostedOpen.HostSerialTx
