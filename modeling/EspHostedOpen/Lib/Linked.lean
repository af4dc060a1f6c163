import Mathlib.Data.List.Nodup

/-!
# Singly linked lists

`Linked next null p l` says that the nodes from `p` on are those of `l`, where `next` is the link of
a node and `null` the end. It says this of one list only (`Linked.unique`), and that one has no node
twice (`Linked.nodup`). What is proved about it is what the queue macros do: a node goes in at the
front or at the end, or is cut out.
-/

variable {α : Type}

/-- The nodes from `p` on. -/
def Linked (next : α → α) (null : α) : α → List α → Prop
  | p, [] => p = null
  | p, a :: l => p = a ∧ a ≠ null ∧ Linked next null (next a) l

namespace Linked

variable {next next' : α → α} {null p a b : α} {l l' : List α}

theorem congr (h : ∀ a ∈ l, next' a = next a) (hl : Linked next null p l) :
    Linked next' null p l := by
  induction l generalizing p with
  | nil => exact hl
  | cons a l ih =>
    obtain ⟨rfl, hne, hl⟩ := hl
    refine ⟨rfl, hne, ?_⟩
    rw [h p List.mem_cons_self]
    exact ih (fun b hb => h b (List.mem_cons_of_mem p hb)) hl

theorem null_notMem (hl : Linked next null p l) : null ∉ l := by
  induction l generalizing p with
  | nil => exact List.not_mem_nil
  | cons a l ih =>
    obtain ⟨-, hne, hl⟩ := hl
    exact List.not_mem_cons_of_ne_of_not_mem hne.symm (ih hl)

theorem unique (hl : Linked next null p l) (hl' : Linked next null p l') : l = l' := by
  induction l generalizing p l' with
  | nil =>
    cases l' with
    | nil => rfl
    | cons a l' => exact absurd (hl'.1.symm.trans hl) hl'.2.1
  | cons a l ih =>
    obtain ⟨rfl, hne, hl⟩ := hl
    cases l' with
    | nil => exact absurd hl' hne
    | cons b l' =>
      obtain ⟨rfl, -, hl'⟩ := hl'
      rw [ih hl hl']

/-- The nodes from a node of the list on. -/
theorem from_mem {u : List α} (hl : Linked next null p (u ++ a :: l)) : Linked next null a
    (a :: l) := by
  induction u generalizing p with
  | nil =>
    obtain ⟨rfl, h⟩ := hl
    exact ⟨rfl, h⟩
  | cons b u ih => exact ih hl.2.2

/-- A node that came twice would have two lists behind it. -/
theorem nodup (hl : Linked next null p l) : l.Nodup := by
  induction l generalizing p with
  | nil => exact List.nodup_nil
  | cons a l ih =>
    obtain ⟨rfl, hne, hl⟩ := hl
    refine List.nodup_cons.2 ⟨fun hmem => ?_, ih hl⟩
    obtain ⟨u, v, rfl⟩ := List.append_of_mem hmem
    have htail := congrArg List.length (unique (from_mem hl).2.2 hl)
    simp only [List.length_append, List.length_cons] at htail
    omega

theorem eq_null_iff (hl : Linked next null p l) : p = null ↔ l = [] := by
  cases l with
  | nil => exact iff_of_true hl rfl
  | cons a l => exact iff_of_false (fun h => hl.2.1 (hl.1.symm.trans h)) (List.cons_ne_nil a l)

/-- A node goes in at the front. -/
theorem push (hl : Linked next null p l) (hne : a ≠ null) (ha : next' a = p)
    (h : ∀ b ∈ l, next' b = next b) :
    Linked next' null a (a :: l) :=
  ⟨rfl, hne, by rw [ha]; exact hl.congr h⟩

/-- A node goes in at the end of a list that is not empty. -/
theorem snoc (hl : Linked next null p (l ++ [b])) (hne : a ≠ null) (hb : next' b = a)
    (ha : next' a = null)
    (h : ∀ c ∈ l, next' c = next c) : Linked next' null p (l ++ [b, a]) := by
  induction l generalizing p with
  | nil => exact ⟨hl.1, hl.2.1, hb, hne, ha⟩
  | cons c l ih =>
    obtain ⟨rfl, hc, hl⟩ := hl
    refine ⟨rfl, hc, ?_⟩
    rw [h p List.mem_cons_self]
    exact ih hl fun d hd => h d (List.mem_cons_of_mem p hd)

/-- The node behind another is cut out. -/
theorem cut (hl : Linked next null p (l ++ b :: a :: l')) (hb : next' b = next a)
    (h : ∀ c ∈ l ++ l', next' c = next c) : Linked next' null p (l ++ b :: l') := by
  induction l generalizing p with
  | nil =>
    obtain ⟨rfl, hne, -, -, hl⟩ := hl
    exact ⟨rfl, hne, by rw [hb]; exact hl.congr h⟩
  | cons c l ih =>
    obtain ⟨rfl, hc, hl⟩ := hl
    refine ⟨rfl, hc, ?_⟩
    rw [h p List.mem_cons_self]
    exact ih hl fun d hd => h d (List.mem_cons_of_mem p hd)

end Linked
