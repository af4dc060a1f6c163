import Mathlib.Algebra.BigOperators.Group.List.Basic
import Mathlib.Algebra.Group.Prod
import Mathlib.Algebra.Order.Ring.Nat
import Mathlib.Algebra.Order.Group.Multiset
import Mathlib.Data.List.Perm.Basic
import Mathlib.Data.Multiset.Range
import Mathlib.Tactic.Abel

/-!
# Ledgers

Resources pass between holders: stores, queues, and any number of parties that are each in the
middle of something. What a holder has is valued in a commutative monoid, and a step that only
passes resources on keeps the total (`total_exchange`).

`Holding` values credits together with items: an item that stands in a queue holds a credit.
-/

namespace Ledger

variable {π M α : Type}

/-! ## Parties -/

section Exchange

variable {P : π → Prop} {ps qs : List π} {i : Nat}

/-- What holds of every party and of what one of them becomes. -/
theorem forall_exchange (h : ∀ p ∈ ps, P p) (hq : ∀ q ∈ qs, P q) :
    ∀ p ∈ qs ++ ps.eraseIdx i, P p := by
  intro p hp
  rcases List.mem_append.1 hp with hp | hp
  · exact hq p hp
  · exact h p (List.mem_of_mem_eraseIdx hp)

theorem mem_iff_of_getElem? {p q : π} (h : ps[i]? = some p) : q ∈ ps ↔
    q = p ∨ q ∈ ps.eraseIdx i := by
  obtain ⟨hi, rfl⟩ := List.getElem?_eq_some_iff.1 h
  rw [← (List.getElem_cons_eraseIdx_perm hi).mem_iff, List.mem_cons]

end Exchange

section Parties

variable [AddCommMonoid M] {f : π → M} {ps qs : List π}

/-- What the parties have together. -/
def total (f : π → M) (ps : List π) : M := (ps.map f).sum

@[simp] theorem total_nil : total f [] = 0 := rfl

@[simp] theorem total_cons (p : π) : total f (p :: ps) = f p + total f ps := by
  simp [total]

@[simp] theorem total_append : total f (ps ++ qs) = total f ps + total f qs := by
  simp [total]

theorem total_eq_zero (h : ∀ p ∈ ps, f p = 0) : total f ps = 0 := by
  refine List.sum_eq_zero fun m hm => ?_
  obtain ⟨p, hp, rfl⟩ := List.mem_map.1 hm
  exact h p hp

/-- One party apart from the others. -/
theorem total_split {i : Nat} {p : π} (h : ps[i]? = some p) :
    total f ps = f p + total f (ps.eraseIdx i) := by
  obtain ⟨hi, rfl⟩ := List.getElem?_eq_some_iff.1 h
  have hperm := (List.getElem_cons_eraseIdx_perm hi).symm
  have hsum := (hperm.map f).sum_eq
  rwa [List.map_cons, List.sum_cons] at hsum

/-- **Exchange**: where one party goes on as the parties `qs`, and what it gives or takes is found
elsewhere, the total stays. -/
theorem total_exchange {i : Nat} {p : π} {w w' : M} (h : ps[i]? = some p)
    (hx : f p + w = total f qs + w') : total f ps + w = total f (qs ++ ps.eraseIdx i) + w' := by
  rw [total_split h, total_append, add_right_comm, hx, add_right_comm]

/-- **Accounts**: what the parties have and what is elsewhere stay equal to a constant and what was
taken from outside, if each step of a party balances. -/
theorem account_exchange [IsRightCancelAdd M] {i : Nat} {p : π} {e e' c t t' : M}
    (h : ps[i]? = some p)
    (hbalance : f p + (e + t') = total f qs + (e' + t)) (hacc : total f ps + e = c + t) :
    total f (qs ++ ps.eraseIdx i) + e' = c + t' := by
  have hexchange := total_exchange h hbalance
  refine add_right_cancel (b := t) ?_
  calc total f (qs ++ ps.eraseIdx i) + e' + t
      = total f ps + (e + t') := by rw [hexchange, add_assoc]
    _ = total f ps + e + t' := (add_assoc _ _ _).symm
    _ = c + t' + t := by rw [hacc, add_right_comm]

end Parties

/-! ## Credits and items -/

/-- Credits, and items that each came from the same source. -/
abbrev Holding (α : Type) := ℕ × Multiset α

/-- Items without credits. -/
def items (l : List α) : Holding α := (0, l)

/-- Items that each hold a credit. -/
def queue (l : List α) : Holding α := (l.length, l)

/-- Credits without items. -/
def credits (n : ℕ) : Holding α := (n, 0)

@[simp] theorem items_nil : items ([] : List α) = 0 := rfl

@[simp] theorem queue_nil : queue ([] : List α) = 0 := rfl

@[simp] theorem items_append (l m : List α) : items (l ++ m) = items l + items m := by
  simp [items]

@[simp] theorem queue_append (l m : List α) : queue (l ++ m) = queue l + queue m := by
  simp [queue]

theorem queue_cons (a : α) (l : List α) : queue (a :: l) = queue [a] + queue l :=
  queue_append [a] l

theorem credits_add (m n : ℕ) : (credits (m + n) : Holding α) = credits m + credits n := by
  simp [credits]

theorem credits_pred {n : ℕ} (h : n ≠ 0) : (credits n : Holding α) = credits
    (n - 1) + credits 1 := by
  have hone : n - 1 + 1 = n := Nat.succ_pred_eq_of_ne_zero h
  rw [← credits_add, hone]

/-- An item and its credit. -/
theorem queue_singleton (a : α) : queue [a] = items [a] + credits 1 := by
  simp [queue, items, credits]

/-- What was taken once is returned once at most. -/
theorem nodup_of_items_add {l : List α} {h k : Holding α} (heq : items l + h = k) (hk : k.2.Nodup) :
    l.Nodup := by
  have hsnd : (l : Multiset α) + h.2 = k.2 := congrArg Prod.snd heq
  have hle : (l : Multiset α) ≤ k.2 := by
    rw [← hsnd]
    exact Multiset.le_add_right _ _
  exact Multiset.coe_nodup.1 (Multiset.nodup_of_le hle hk)

/-- Where only `h` stands between what is there and what there should be, all is there exactly when
`h` is nothing. -/
theorem settled_iff {m n : ℕ} {l r : List α} {h : Holding α} (hcredits : m + h.1 = n)
    (hitems : (l : Multiset α) + h.2 = r) : m = n ∧ l.Perm r ↔ h = 0 := by
  constructor
  · rintro ⟨hm, hperm⟩
    have hcoe : (l : Multiset α) = r := Multiset.coe_eq_coe.2 hperm
    have hfst : h.1 = 0 := by omega
    have hsnd : h.2 = 0 := by
      rw [hcoe] at hitems
      exact add_eq_left.1 hitems
    exact Prod.ext hfst hsnd
  · intro hzero
    rw [hzero] at hcredits hitems
    rw [Prod.snd_zero, add_zero] at hitems
    exact ⟨hcredits, Multiset.coe_eq_coe.1 hitems⟩

end Ledger
