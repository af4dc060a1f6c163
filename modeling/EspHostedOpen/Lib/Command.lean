/-!
# Commands with an environment, a state and a trace

`Cmd ρ σ ε α` is straight-line code that reads an environment `ρ` (link-time facts, the answers of
the outside world), updates a state `σ` and leaves a trace of events `ε` in the order they happen.

One judgement with its rules: `Emits E r c`, every event of `c` in the environment `r` satisfies
`E`. Everything else is read off by evaluation, with the simp lemmas of each operation.
-/

/-- What a command returns: its value, the state it leaves and the events it caused. -/
structure Outcome (σ ε α : Type) where
  val : α
  state : σ
  events : List ε

def Cmd (ρ σ ε α : Type) : Type := ρ → σ → Outcome σ ε α

namespace Cmd

variable {ρ σ ε α β : Type}

instance : Monad (Cmd ρ σ ε) where
  pure a := fun _ s => ⟨a, s, []⟩
  bind c k := fun r s =>
    let o := c r s
    let o' := k o.val r o.state
    ⟨o'.val, o'.state, o.events ++ o'.events⟩

/-- Read the environment. -/
def ask (f : ρ → α) : Cmd ρ σ ε α := fun r s => ⟨f r, s, []⟩

/-- Read the state. -/
def get (f : σ → α) : Cmd ρ σ ε α := fun _ s => ⟨f s, s, []⟩

/-- Update the state. -/
def modify (f : σ → σ) : Cmd ρ σ ε Unit := fun _ s => ⟨(), f s, []⟩

/-- Cause an event. -/
def emit (e : ε) : Cmd ρ σ ε Unit := fun _ s => ⟨(), s, [e]⟩

/-! ## Evaluation

The lemmas for what yields a value are proved by unfolding and not by `rfl`: simp would apply a
`rfl` lemma under an `if` without touching the `Decidable` instance, and no further lemma would
match. -/

@[simp] theorem pure_eval (a : α) (r : ρ) (s : σ) :
    (pure a : Cmd ρ σ ε α) r s = ⟨a, s, []⟩ := rfl

@[simp] theorem bind_eval (c : Cmd ρ σ ε α) (k : α → Cmd ρ σ ε β) (r : ρ) (s : σ) :
    (c >>= k) r s = ⟨(k (c r s).val r (c r s).state).val, (k (c r s).val r (c r s).state).state,
      (c r s).events ++ (k (c r s).val r (c r s).state).events⟩ := rfl

@[simp] theorem map_eval (f : α → β) (c : Cmd ρ σ ε α) (r : ρ) (s : σ) :
    (f <$> c) r s = ⟨f (c r s).val, (c r s).state, (c r s).events⟩ := by
  show Outcome.mk _ _ ((c r s).events ++ []) = _
  rw [List.append_nil]
  rfl

@[simp] theorem ask_eval (f : ρ → α) (r : ρ) (s : σ) :
    (ask f : Cmd ρ σ ε α) r s = ⟨f r, s, []⟩ := by
  rw [ask]

@[simp] theorem get_eval (f : σ → α) (r : ρ) (s : σ) :
    (get f : Cmd ρ σ ε α) r s = ⟨f s, s, []⟩ := by
  rw [get]

@[simp] theorem modify_eval (f : σ → σ) (r : ρ) (s : σ) :
    (modify f : Cmd ρ σ ε Unit) r s = ⟨(), f s, []⟩ := rfl

@[simp] theorem emit_eval (e : ε) (r : ρ) (s : σ) :
    (emit e : Cmd ρ σ ε Unit) r s = ⟨(), s, [e]⟩ := rfl

@[simp] theorem ite_eval (p : Prop) [Decidable p] (c d : Cmd ρ σ ε α) (r : ρ) (s : σ) :
    (if p then c else d) r s = if p then c r s else d r s := by
  split <;> rfl

/-! ## Events -/

/-- In the environment `r`, every event of `c` satisfies `E`. -/
def Emits (E : ε → Prop) (r : ρ) (c : Cmd ρ σ ε α) : Prop :=
  ∀ s, ∀ e ∈ (c r s).events, E e

namespace Emits

variable {E : ε → Prop} {r : ρ}

theorem pure (a : α) : Emits E r (Pure.pure a : Cmd ρ σ ε α) := by
  intro s e he
  cases he

theorem bind {c : Cmd ρ σ ε α} {k : α → Cmd ρ σ ε β} (hc : Emits E r c)
    (hk : ∀ a, Emits E r (k a)) : Emits E r (c >>= k) := by
  intro s e he
  rcases List.mem_append.1 he with he | he
  · exact hc s e he
  · exact hk _ _ e he

theorem map {c : Cmd ρ σ ε α} (f : α → β) (hc : Emits E r c) : Emits E r (f <$> c) :=
  bind hc fun a => pure (f a)

/-- What is read from the environment is known in the rest of the command. -/
theorem ask_bind {f : ρ → α} {k : α → Cmd ρ σ ε β} (hk : Emits E r (k (f r))) :
    Emits E r (Cmd.ask f >>= k) := by
  intro s e he
  rw [bind_eval, ask_eval, List.nil_append] at he
  exact hk s e he

theorem get (f : σ → α) : Emits E r (Cmd.get f : Cmd ρ σ ε α) := by
  intro s e he
  cases he

theorem modify (f : σ → σ) : Emits E r (Cmd.modify f : Cmd ρ σ ε Unit) := by
  intro s e he
  cases he

theorem emit {e : ε} (h : E e) : Emits E r (Cmd.emit e : Cmd ρ σ ε Unit) := by
  intro s e' he
  rw [List.mem_singleton.1 he]
  exact h

theorem ite {p : Prop} [Decidable p] {c d : Cmd ρ σ ε α} (hc : p → Emits E r c)
    (hd : ¬p → Emits E r d) : Emits E r (if p then c else d) := by
  split
  · exact hc ‹_›
  · exact hd ‹_›

end Emits

end Cmd
