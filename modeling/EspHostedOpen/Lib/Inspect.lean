/-!
# Computations that inspect a store

A computation asks for one cell after the other, each chosen by what it has seen, and answers in the
end. `run` is its answer on a given store and `reads` lists the cells it asked for. The answer
depends on these cells alone (`run_congr`).
-/

inductive Inspect (ι β α : Type)
  | ret (a : α)
  | read (i : ι) (next : β → Inspect ι β α)

namespace Inspect

variable {ι β α γ : Type}

/-- Read one cell. -/
def cell (i : ι) : Inspect ι β β := .read i .ret

/-- One computation after the other. -/
def bind : Inspect ι β α → (α → Inspect ι β γ) → Inspect ι β γ
  | ret a, f => f a
  | read i next, f => .read i fun b => (next b).bind f

instance : Monad (Inspect ι β) where
  pure := .ret
  bind := bind

/-- Read several cells. -/
def cells : List ι → Inspect ι β (List β)
  | [] => pure []
  | i :: is => do
    let b ← cell i
    let bs ← cells is
    pure (b :: bs)

def run (store : ι → β) : Inspect ι β α → α
  | ret a => a
  | read i next => (next (store i)).run store

def reads (store : ι → β) : Inspect ι β α → List ι
  | ret _ => []
  | read i next => i :: (next (store i)).reads store

variable {store store' : ι → β}

@[simp] theorem run_pure (a : α) : (pure a : Inspect ι β α).run store = a := rfl

@[simp] theorem reads_pure (a : α) : (pure a : Inspect ι β α).reads store = [] := rfl

@[simp] theorem run_cell (i : ι) : (cell i : Inspect ι β β).run store = store i := rfl

@[simp] theorem reads_cell (i : ι) : (cell i : Inspect ι β β).reads store = [i] := rfl

@[simp] theorem run_bind (p : Inspect ι β α) (f : α → Inspect ι β γ) :
    (p >>= f).run store = (f (p.run store)).run store := by
  show (p.bind f).run store = _
  induction p with
  | ret a => rfl
  | read i next ih => exact ih (store i)

@[simp] theorem reads_bind (p : Inspect ι β α) (f : α → Inspect ι β γ) :
    (p >>= f).reads store = p.reads store ++ (f (p.run store)).reads store := by
  show (p.bind f).reads store = _
  induction p with
  | ret a => rfl
  | read i next ih => exact congrArg (i :: ·) (ih (store i))

@[simp] theorem run_map (f : α → γ) (p : Inspect ι β α) : (f <$> p).run store = f (p.run store) :=
    run_bind p _

@[simp] theorem reads_map (f : α → γ) (p : Inspect ι β α) : (f <$> p).reads store = p.reads store :=
  (reads_bind p _).trans (List.append_nil _)

@[simp] theorem run_cells (is : List ι) : (cells is : Inspect ι β (List β)).run store =
    is.map store := by
  induction is with
  | nil => rfl
  | cons i is ih => simp only [cells, run_bind, run_cell, run_pure, ih, List.map_cons]

@[simp] theorem reads_cells (is : List ι) : (cells is : Inspect ι β (List β)).reads store = is := by
  induction is with
  | nil => rfl
  | cons i is ih =>
    simp only [cells, reads_bind, reads_cell, reads_pure, ih, List.singleton_append,
      List.append_nil]

/-- **The answer depends on the cells read alone.** -/
theorem run_congr {p : Inspect ι β α} (h : ∀ i ∈ p.reads store, store i = store' i) :
    p.run store = p.run store' ∧ p.reads store = p.reads store' := by
  induction p with
  | ret a => exact ⟨rfl, rfl⟩
  | read i next ih =>
    have hi : store i = store' i := h i List.mem_cons_self
    obtain ⟨hrun, hreads⟩ := ih (store i) fun j hj => h j (List.mem_cons_of_mem _ hj)
    simp only [run, reads, ← hi]
    exact ⟨hrun, congrArg (i :: ·) hreads⟩

/-- All cells read meet `R`, and the answer meets `Q`. -/
def Within (R : ι → Prop) (store : ι → β) (p : Inspect ι β α) (Q : α → Prop) : Prop :=
  (∀ i ∈ p.reads store, R i) ∧ Q (p.run store)

variable {R : ι → Prop} {p : Inspect ι β α} {Q : α → Prop}

@[simp] theorem within_pure (a : α) : Within R store (pure a : Inspect ι β α) Q ↔ Q a :=
  ⟨And.right, fun h => ⟨nofun, h⟩⟩

@[simp] theorem within_cell (i : ι) {Q : β → Prop} :
    Within R store (cell i : Inspect ι β β) Q ↔ R i ∧ Q (store i) := by
  rw [Within, reads_cell, List.forall_mem_singleton, run_cell]

theorem within_bind {f : α → Inspect ι β γ} {Q : γ → Prop} :
    Within R store (p >>= f) Q ↔ Within R store p fun a => Within R store (f a) Q := by
  rw [Within, Within, Within, reads_bind, run_bind, List.forall_mem_append, and_assoc]

theorem within_map {f : α → γ} {Q : γ → Prop} :
    Within R store (f <$> p) Q ↔ Within R store p fun a => Q (f a) := by
  rw [Within, Within, reads_map, run_map]

@[simp] theorem within_cells (is : List ι) {Q : List β → Prop} :
    Within R store (cells is : Inspect ι β (List β)) Q ↔ (∀ i ∈ is, R i) ∧ Q (is.map store) := by
  rw [Within, reads_cells, run_cells]

/-- What the cells outside `R` hold does not matter. -/
theorem within_congr (h : ∀ i, R i → store i = store' i) : Within R store p Q ↔
    Within R store' p Q := by
  constructor
  · rintro ⟨hreads, hrun⟩
    obtain ⟨hrun', hreads'⟩ := run_congr fun i hi => h i (hreads i hi)
    rw [hreads'] at hreads
    rw [hrun'] at hrun
    exact ⟨hreads, hrun⟩
  · rintro ⟨hreads, hrun⟩
    obtain ⟨hrun', hreads'⟩ := run_congr fun i hi => (h i (hreads i hi)).symm
    rw [hreads'] at hreads
    rw [hrun'] at hrun
    exact ⟨hreads, hrun⟩

end Inspect
