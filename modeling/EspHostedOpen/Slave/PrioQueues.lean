import EspHostedOpen.Lib.Polling

/-!
# The priority queues of a transport

Packets of a transport stand in three queues and one semaphore counts them. Who has taken a token
looks into the queue of the highest class first.
-/

namespace EspHostedOpen

open Polling

/-- `PRIO_Q_SERIAL`, `PRIO_Q_BT`, `PRIO_Q_OTHERS`. -/
inductive PrioQ
  | serial | bt | others
  deriving DecidableEq, Repr

namespace PrioQ

def idx : PrioQ → Nat
  | serial => 0
  | bt => 1
  | others => 2

/-- The queue that is looked into next. -/
def next : PrioQ → Option PrioQ
  | serial => some bt
  | bt => some others
  | others => none

/-- The classes that come before. -/
def above : PrioQ → List PrioQ
  | serial => []
  | bt => [serial]
  | others => [serial, bt]

theorem mem_above_next {q q' r : PrioQ} (h : q.next = some q') (hr : r ∈ q'.above) :
    r ∈ q.above ∨ r = q := by
  cases q <;> cases h <;> revert r <;> decide

/-- The packets by class. -/
def items (queued : PrioQ → Nat) : ℕ → ℕ
  | 0 => queued .serial
  | 1 => queued .bt
  | 2 => queued .others
  | _ => 0

theorem items_idx (queued : PrioQ → Nat) (q : PrioQ) : items queued q.idx = queued q := by
  cases q <;> rfl

theorem idx_lt (q : PrioQ) : q.idx < 3 := by
  cases q <;> decide

theorem idx_next {q q' : PrioQ} (h : q.next = some q') : q'.idx = q.idx + 1 := by
  cases q <;> cases h <;> rfl

theorem items_update (queued : PrioQ → Nat) (q : PrioQ) :
    items (Function.update queued q (queued q + 1)) = items queued + Pi.single q.idx 1 := by
  funext i
  cases q <;> match i with
    | 0 | 1 | 2 | i + 3 => simp [items, idx]

/-- What comes out of a queue. -/
theorem items_pred {queued : PrioQ → Nat} {q : PrioQ} (h : queued q ≠ 0) :
    items queued = items (Function.update queued q (queued q - 1)) + Pi.single q.idx 1 := by
  rw [← items_update, Function.update_self, Function.update_idem,
    Nat.sub_add_cancel (Nat.pos_of_ne_zero h), Function.update_eq_self]

theorem tail_items (queued : PrioQ → Nat) :
    tail 3 (items queued) 0 = queued .serial + queued .bt + queued .others := by
  rw [tail_succ (by decide), tail_succ (by decide), tail_succ (by decide), tail_of_le (by decide)]
  simp only [items]
  omega

section Update

variable {α : Type} {queue : PrioQ → List α} {q q' : PrioQ}

theorem length_update (l : List α) :
    (fun q' => (Function.update queue q l q').length) =
      Function.update (fun q' => (queue q').length) q l.length := by
  funext q'
  by_cases hq : q' = q
  · subst hq
    simp only [Function.update_self]
  · simp only [Function.update_of_ne hq]

theorem mem_update {l : List α} {a : α} (h : a ∈ Function.update queue q l q') :
    a ∈ queue q' ∨ q' = q ∧ a ∈ l := by
  by_cases hq : q' = q
  · subst hq
    rw [Function.update_self] at h
    exact .inr ⟨rfl, h⟩
  · rw [Function.update_of_ne hq] at h
    exact .inl h

/-- What holds of every packet still does where one is appended of which it holds. -/
theorem forall_append {P : α → Prop} (h : ∀ q, ∀ a ∈ queue q, P a) {a : α} (ha : P a) :
    ∀ q', ∀ a' ∈ Function.update queue q (queue q ++ [a]) q', P a' := by
  intro q' a' hmem
  rcases mem_update hmem with hmem | ⟨-, hmem⟩
  · exact h q' a' hmem
  · rcases List.mem_append.1 hmem with hmem | hmem
    · exact h q a' hmem
    · cases List.mem_singleton.1 hmem
      exact ha

/-- It still does where one is taken. -/
theorem forall_pop {P : α → Prop} (h : ∀ q, ∀ a ∈ queue q, P a) {a : α} {rest : List α}
    (hitem : queue q = a :: rest) : ∀ q', ∀ a' ∈ Function.update queue q rest q', P a' := by
  intro q' a' hmem
  rcases mem_update hmem with hmem | ⟨-, hmem⟩
  · exact h q' a' hmem
  · refine h q a' ?_
    rw [hitem]
    exact List.mem_cons_of_mem a hmem

/-- The other queues keep the room they have. -/
theorem room_update {size : Nat} (h : ∀ q, (queue q).length ≤ size) {l : List α}
    (hl : l.length ≤ size)
    (q' : PrioQ) : (Function.update queue q l q').length ≤ size := by
  by_cases hq : q' = q
  · subst hq
    rw [Function.update_self]
    exact hl
  · rw [Function.update_of_ne hq]
    exact h q'

end Update

end PrioQ

/-- **The count of the three queues**, with a semaphore that `pending` packets have still to be
given to and readers that look by class. -/
abbrev Counts (queued : PrioQ → Nat) (tokens pending : ℕ) (looking : ℕ → ℕ) : Prop :=
  Polled 3 (PrioQ.items queued) tokens pending looking

namespace Counts

variable {queued : PrioQ → Nat} {q q' : PrioQ} {tokens pending size : ℕ} {looking : ℕ → ℕ}

theorem start : Counts (fun _ => 0) 0 0 0 := by
  have hitems : PrioQ.items (fun _ => 0) = 0 := by
    funext i
    match i with
    | 0 | 1 | 2 | i + 3 => rfl
  unfold Counts
  rw [hitems]
  exact .start 3

theorem send (h : Counts queued tokens pending looking) :
    Counts (Function.update queued q (queued q + 1)) tokens (1 + pending) looking := by
  unfold Counts
  rw [PrioQ.items_update]
  exact h.put q.idx_lt

/-- The semaphore has room for a token for each packet. -/
theorem give (h : Counts queued tokens (1 + pending) looking) (hroom : ∀ q, queued q ≤ size) :
    Counts queued (min (tokens + 1) (size * 3)) pending looking := by
  have hlt := h.lt_of_pending
  have hserial := hroom .serial
  have hbt := hroom .bt
  have hothers := hroom .others
  rw [PrioQ.tail_items] at hlt
  rw [Nat.min_eq_left (by omega)]
  exact Polled.give h

theorem take (h : Counts queued tokens pending looking) (htoken : tokens ≠ 0) :
    Counts queued (tokens - 1) pending (Pi.single PrioQ.serial.idx 1 + looking) :=
  Polled.take h htoken (by decide)

theorem receive (h : Counts queued tokens pending (Pi.single q.idx 1 + looking))
    (hitem : queued q ≠ 0) :
    Counts (Function.update queued q (queued q - 1)) tokens pending looking := by
  unfold Counts at h
  rw [PrioQ.items_pred hitem] at h
  exact Polled.receive h q.idx_lt

theorem miss (h : Counts queued tokens pending (Pi.single q.idx 1 + looking))
    (hempty : queued q = 0)
    (hnext : q.next = some q') : Counts queued tokens pending (Pi.single q'.idx 1 + looking) := by
  have hidx := PrioQ.idx_next hnext
  have hlt := q'.idx_lt
  rw [hidx] at hlt ⊢
  exact Polled.miss h hlt ((PrioQ.items_idx queued q).trans hempty)

/-- The last queue has a packet for who looks there. -/
theorem last (h : Counts queued tokens pending (Pi.single q.idx 1 + looking))
    (hlast : q.next = none) :
    queued q ≠ 0 := by
  cases q with
  | others => exact Nat.ne_of_gt (Polled.pos_of_last h)
  | _ => cases hlast

/-- Where nobody is between the two halves of a send or of a read there is a token for each
packet. -/
theorem tokens_eq (h : Counts queued tokens 0 0) :
    tokens = queued .serial + queued .bt + queued .others := by
  have hcount := h.count
  rw [PrioQ.tail_items, tail_zero] at hcount
  exact hcount.symm

end Counts

end EspHostedOpen
