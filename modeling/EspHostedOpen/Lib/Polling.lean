import Mathlib.Algebra.BigOperators.Intervals
import Mathlib.Algebra.BigOperators.Pi

/-!
# Polling several queues on one count

Items of `n` classes stand in a queue for each class, and takers have been let in by one count for
all of them. A taker looks into class 0, then into class 1, and so on, and takes the first item it
finds. Each look is a step of its own: while one taker looks, items come in behind it and others
take what is ahead.

`Covered` says that from every class on there are as many items as takers that have still to look
there. Every step of such a system keeps it, so no taker comes to the end with nothing
(`Covered.pos_of_last`).
-/

namespace Polling

open Finset

/-- How many there are from class `i` on. -/
def tail (n : ℕ) (f : ℕ → ℕ) (i : ℕ) : ℕ := ∑ j ∈ Ico i n, f j

section Tail

variable {n i j : ℕ} {f g : ℕ → ℕ}

@[simp] theorem tail_zero : tail n 0 i = 0 := by
  simp [tail]

@[simp] theorem tail_add : tail n (f + g) i = tail n f i + tail n g i := by
  simp [tail, sum_add_distrib]

theorem tail_single (hj : j < n) : tail n (Pi.single j 1) i = if i ≤ j then 1 else 0 := by
  unfold tail
  rw [sum_pi_single' j 1 (Ico i n)]
  refine if_congr ?_ rfl rfl
  rw [mem_Ico]
  exact and_iff_left hj

theorem tail_succ (hi : i < n) : tail n f i = f i + tail n f (i + 1) :=
  sum_eq_sum_Ico_succ_bot hi f

theorem tail_of_le (hi : n ≤ i) : tail n f i = 0 := by
  rw [tail, Ico_eq_empty_of_le hi, sum_empty]

end Tail

/-- From every class on, the takers that still look there find an item each. -/
def Covered (n : ℕ) (items takers : ℕ → ℕ) : Prop := ∀ i, tail n takers i ≤ tail n items i

namespace Covered

variable {n j : ℕ} {items takers : ℕ → ℕ}

theorem none (items : ℕ → ℕ) : Covered n items 0 := by
  intro i
  rw [tail_zero]
  exact Nat.zero_le _

/-- An item comes in. -/
theorem put (h : Covered n items takers) (j : ℕ) : Covered n (items + Pi.single j 1) takers := by
  intro i
  rw [tail_add]
  exact Nat.le_add_right_of_le (h i)

/-- A taker is let in for an item that is there. -/
theorem enter (h : Covered n items takers) (hitem : tail n takers 0 < tail n items 0) :
    Covered n items (takers + Pi.single 0 1) := by
  intro i
  rw [tail_add]
  rcases Nat.eq_zero_or_pos n with rfl | hn
  · rw [tail_of_le (Nat.zero_le _), tail_of_le (Nat.zero_le _)]
    exact Nat.zero_le _
  · rw [tail_single hn]
    rcases Nat.eq_zero_or_pos i with rfl | hi
    · exact hitem
    · rw [if_neg (Nat.not_le.2 hi)]
      exact h i

/-- A taker finds an item and leaves with it. -/
theorem hit (h : Covered n (items + Pi.single j 1) (takers + Pi.single j 1)) :
    Covered n items takers := by
  intro i
  have hi := h i
  rw [tail_add, tail_add] at hi
  exact Nat.le_of_add_le_add_right hi

/-- A taker finds its class empty and goes on to the next. -/
theorem miss (h : Covered n items (takers + Pi.single j 1)) (hj : j < n) (hempty : items j = 0) :
    Covered n items (takers + Pi.single (j + 1) 1) := by
  have hat := h j
  rw [tail_add, tail_single hj, if_pos (Nat.le_refl j), tail_succ (f := items) hj, hempty,
    Nat.zero_add, tail_succ (f := takers) hj] at hat
  intro i
  have hi := h i
  rw [tail_add, tail_single hj] at hi
  rw [tail_add]
  by_cases hlast : j + 1 < n
  · rw [tail_single hlast]
    rcases Nat.lt_trichotomy i (j + 1) with hlt | rfl | hgt
    · have hle : i ≤ j := by omega
      rw [if_pos hle] at hi
      rw [if_pos (by omega)]
      exact hi
    · rw [if_pos (Nat.le_refl _)]
      omega
    · have hnle : ¬i ≤ j + 1 := by omega
      rw [if_neg hnle]
      omega
  · -- behind the last class nothing is counted
    have hout : tail n (Pi.single (j + 1) 1) i = 0 := by
      rw [tail, sum_pi_single', if_neg]
      rw [mem_Ico]
      omega
    rw [hout]
    omega

/-- **No taker comes away with nothing**: who looks into the last class finds an item there. -/
theorem pos_of_last (h : Covered (j + 1) items (takers + Pi.single j 1)) : 0 < items j := by
  have hat := h j
  rw [tail_add, tail_single (Nat.lt_succ_self j), if_pos (Nat.le_refl j),
    tail_succ (f := items) (Nat.lt_succ_self j),
    tail_of_le (f := items) (Nat.le_refl (j + 1))] at hat
  omega

end Covered

/-! ## The count -/

/-- The count lets a taker in for each item: an item is counted, or `pending` to be counted, or a
taker was let in for it and looks for it. -/
structure Polled (n : ℕ) (items : ℕ → ℕ) (tokens pending : ℕ) (takers : ℕ → ℕ) : Prop where
  count : tail n items 0 = tokens + pending + tail n takers 0
  covered : Covered n items takers

namespace Polled

variable {n j tokens pending : ℕ} {items takers : ℕ → ℕ}

theorem start (n : ℕ) : Polled n 0 0 0 0 where
  count := by simp
  covered := .none _

/-- An item comes in, to be counted. -/
theorem put (h : Polled n items tokens pending takers) (hj : j < n) :
    Polled n (items + Pi.single j 1) tokens (1 + pending) takers where
  count := by
    rw [tail_add, tail_single hj, if_pos (Nat.zero_le _), h.count]
    omega
  covered := h.covered.put j

/-- It is counted. -/
theorem give (h : Polled n items tokens (1 + pending) takers) : Polled n items
    (tokens + 1) pending takers where
  count := by
    rw [h.count]
    omega
  covered := h.covered

/-- There is an item that is not counted. -/
theorem lt_of_pending (h : Polled n items tokens (1 + pending) takers) :
    tokens < tail n items 0 := by
  rw [h.count]
  omega

/-- A taker is let in. -/
theorem take (h : Polled n items tokens pending takers) (htoken : tokens ≠ 0) (hn : 0 < n) :
    Polled n items (tokens - 1) pending (Pi.single 0 1 + takers) where
  count := by
    rw [tail_add, tail_single hn, if_pos (Nat.le_refl 0), h.count]
    omega
  covered := by
    have hcount := h.count
    rw [add_comm]
    exact h.covered.enter (by omega)

/-- A taker finds an item. -/
theorem receive (h : Polled n (items + Pi.single j 1) tokens pending (Pi.single j 1 + takers))
    (hj : j < n) :
    Polled n items tokens pending takers where
  count := by
    have hcount := h.count
    rw [tail_add, tail_add, tail_single hj, if_pos (Nat.zero_le _)] at hcount
    omega
  covered := by
    have hcovered := h.covered
    rw [add_comm (Pi.single j 1)] at hcovered
    exact hcovered.hit

/-- A taker finds none and goes on to the next class. -/
theorem miss (h : Polled n items tokens pending (Pi.single j 1 + takers)) (hj : j + 1 < n)
    (hempty : items j = 0) : Polled n items tokens pending (Pi.single (j + 1) 1 + takers) where
  count := by
    have hj' : j < n := Nat.lt_of_succ_lt hj
    rw [h.count, tail_add, tail_add, tail_single hj', tail_single hj, if_pos (Nat.zero_le _),
      if_pos (Nat.zero_le _)]
  covered := by
    have hcovered := h.covered
    rw [add_comm] at hcovered ⊢
    exact hcovered.miss (Nat.lt_of_succ_lt hj) hempty

/-- The last class has an item for who looks there. -/
theorem pos_of_last (h : Polled (j + 1) items tokens pending (Pi.single j 1 + takers)) :
    0 < items j := by
  have hcovered := h.covered
  rw [add_comm (Pi.single j 1)] at hcovered
  exact hcovered.pos_of_last

end Polled

end Polling
