/-!
# Runs of partial, labelled transition systems

A system is a step function `σ → α → Option σ`: an action is enabled where it answers `some`. `run`
executes a list of actions, and `Reach step G s₀ s` says that `s` is reached from `s₀` by steps that
each meet the guard `G`, a condition on the action and the state *before* it.

`Reach.invariant` is the one induction of the development's safety arguments: what holds at the
start and survives every guarded step holds in every state reached.
-/

namespace Transition

variable {σ α : Type}

/-- Execute the actions in order; `none` as soon as one is not enabled. -/
def run (step : σ → α → Option σ) : σ → List α → Option σ
  | s, [] => some s
  | s, a :: as => (step s a).bind fun s' => run step s' as

/-- `s` is reached from `s₀` by steps that all meet `G`. -/
inductive Reach (step : σ → α → Option σ) (G : σ → α → Prop) (s₀ : σ) : σ → Prop
  | init : Reach step G s₀ s₀
  | step {s s' : σ} {a : α} : Reach step G s₀ s → G s a → step s a = some s' → Reach step G s₀ s'

/-- No condition on the steps. -/
def Free : σ → α → Prop := fun _ _ => True

variable {step : σ → α → Option σ} {G G' : σ → α → Prop} {s₀ : σ}

namespace Reach

/-- **Invariance**: an initial property preserved by every guarded step from a reached state holds
in every reached state. -/
theorem invariant {I : σ → Prop} (h₀ : I s₀)
    (hstep : ∀ {s s' a}, I s → G s a → step s a = some s' → I s') {s : σ}
    (h : Reach step G s₀ s) : I s := by
  induction h with
  | init => exact h₀
  | step _ hG hs ih => exact hstep ih hG hs

/-- Runs under a stronger guard are runs under a weaker one. -/
theorem mono (hG : ∀ {s a}, G s a → G' s a) {s : σ} (h : Reach step G s₀ s) :
    Reach step G' s₀ s := by
  induction h with
  | init => exact .init
  | step _ hg hs ih => exact ih.step (hG hg) hs

theorem free {s : σ} (h : Reach step G s₀ s) : Reach step Free s₀ s :=
  h.mono fun _ => trivial

theorem trans {s t : σ} (h : Reach step G s₀ s) (h' : Reach step G s t) : Reach step G s₀ t := by
  induction h' with
  | init => exact h
  | step _ hg hs ih => exact ih.step hg hs

end Reach

/-- A successful execution of an action list is a run. -/
theorem reach_of_run {as : List α} : ∀ {s t : σ}, run step s as = some t → Reach step Free s t := by
  induction as with
  | nil => intro s t h; cases h; exact .init
  | cons a as ih =>
    intro s t h
    obtain ⟨s', hs, ht⟩ := Option.bind_eq_some_iff.1 h
    exact (Reach.init.step trivial hs).trans (ih ht)

theorem run_append {as bs : List α} : ∀ {s : σ},
    run step s (as ++ bs) = (run step s as).bind fun t => run step t bs := by
  induction as with
  | nil => intro s; rfl
  | cons a as ih =>
    intro s
    rw [List.cons_append, run, run, Option.bind_assoc]
    exact Option.bind_congr fun _ _ => ih

/-- **Run induction**: what holds of the empty run and survives one more step holds of every run. -/
theorem run_induction {P : List α → σ → Prop} (h₀ : P [] s₀)
    (hstep : ∀ {as s s' a}, run step s₀ as = some s → P as s → step s a = some s' →
      P (as ++ [a]) s')
    {as : List α} {s : σ} (h : run step s₀ as = some s) : P as s := by
  have hextend : ∀ {bs : List α} {t : σ} {as : List α}, run step s₀ as = some t → P as t →
      run step t bs = some s → P (as ++ bs) s := by
    intro bs
    induction bs with
    | nil =>
      intro t as _ hP ht
      cases ht
      rwa [List.append_nil]
    | cons b bs ih =>
      intro t as hrun hP ht
      obtain ⟨t', hb, hrest⟩ := Option.bind_eq_some_iff.1 ht
      have hrun' : run step s₀ (as ++ [b]) = some t' := by
        rw [run_append, hrun, Option.bind_some, run, hb]
        rfl
      have hnext := ih hrun' (hstep hrun hP hb) hrest
      rwa [List.append_assoc] at hnext
  exact @hextend as s₀ [] rfl h₀ h

/-! ## Properties along a run -/

/-- Every state that the run passes through, the first and the last among them, satisfies `I`. -/
def AllStates (step : σ → α → Option σ) (I : σ → Prop) : σ → List α → Prop
  | s, [] => I s
  | s, a :: as => I s ∧ ∀ s' ∈ step s a, AllStates step I s' as

/-- Every step of the run meets `G`. -/
def AllSteps (step : σ → α → Option σ) (G : σ → α → Prop) : σ → List α → Prop
  | _, [] => True
  | s, a :: as => G s a ∧ ∀ s' ∈ step s a, AllSteps step G s' as

theorem AllStates.head {I : σ → Prop} {s : σ} {as : List α} (h : AllStates step I s as) : I s := by
  cases as with
  | nil => exact h
  | cons => exact h.1

theorem AllStates.last {I : σ → Prop} {as : List α} : ∀ {s t : σ}, AllStates step I s as →
    run step s as = some t → I t := by
  induction as with
  | nil =>
    intro s t h hrun
    cases hrun
    exact h
  | cons a as ih =>
    intro s t h hrun
    obtain ⟨s', hs, hrest⟩ := Option.bind_eq_some_iff.1 hrun
    exact ih (h.2 s' hs) hrest

/-- **The exact condition**: where a guard says of each step whether it keeps `I`, the states of a
run satisfy `I` exactly when the steps meet the guard. `J` is what every step keeps anyway, and an
action that is not enabled meets the guard. -/
theorem allStates_iff_allSteps_of_stuck {I J : σ → Prop}
    (hJ : ∀ {s s' a}, J s → step s a = some s' → J s')
    (hI : ∀ {s s' a}, J s → I s → step s a = some s' → (I s' ↔ G s a))
    (hstuck : ∀ {s a}, step s a = none → G s a) {as : List α} :
    ∀ {s : σ}, J s → I s → (AllStates step I s as ↔ AllSteps step G s as) := by
  induction as with
  | nil => exact fun _ hIs => iff_of_true hIs trivial
  | cons a as ih =>
    intro s hJs hIs
    constructor
    · rintro ⟨-, hrest⟩
      constructor
      · cases hs : step s a with
        | none => exact hstuck hs
        | some s' => exact (hI hJs hIs hs).1 (hrest s' hs).head
      · intro s' hs
        exact (ih (hJ hJs hs) (hrest s' hs).head).1 (hrest s' hs)
    · rintro ⟨hG, hrest⟩
      refine ⟨hIs, fun s' hs => ?_⟩
      exact (ih (hJ hJs hs) ((hI hJs hIs hs).2 hG)).2 (hrest s' hs)

/-- The exact condition in a system whose actions are always enabled. -/
theorem allStates_iff_allSteps {I J : σ → Prop}
    (hJ : ∀ {s s' a}, J s → step s a = some s' → J s')
    (hI : ∀ {s s' a}, J s → I s → step s a = some s' → (I s' ↔ G s a))
    (hen : ∀ s a, (step s a).isSome = true) {as : List α} {s : σ} (hJs : J s) (hIs : I s) :
    AllStates step I s as ↔ AllSteps step G s as := by
  refine allStates_iff_allSteps_of_stuck hJ hI (fun {s a} hs => ?_) hJs hIs
  have hsome := hen s a
  rw [hs] at hsome
  cases hsome

theorem allSteps_of_forall {G : σ → α → Prop} (h : ∀ s a, G s a) {as : List α} :
    ∀ {s : σ}, AllSteps step G s as := by
  induction as with
  | nil => exact trivial
  | cons a as ih => exact ⟨h _ _, fun _ _ => ih⟩

/-- **The exact condition, within runs of a kind**: of the runs whose steps all meet `C`. There the
guard keeps an invariant `J` that implies `I`, and a step from a state of `J` to a state of `I`
meets the guard. -/
theorem allStates_iff_allSteps_within {I J : σ → Prop} {C : σ → α → Prop} (hJI : ∀ {s}, J s → I s)
    (hkeep : ∀ {s s' a}, J s → C s a → G s a → step s a = some s' → J s')
    (hneeds : ∀ {s s' a}, J s → C s a → I s' → step s a = some s' → G s a)
    (hstuck : ∀ {s a}, step s a = none → G s a) {as : List α} :
    ∀ {s : σ}, J s → AllSteps step C s as →
      (AllStates step I s as ↔ AllSteps step G s as) := by
  induction as with
  | nil => exact fun hJs _ => iff_of_true (hJI hJs) trivial
  | cons a as ih =>
    rintro s hJs ⟨hC, hCrest⟩
    have hguard : AllStates step I s (a :: as) → G s a := by
      rintro ⟨-, hrest⟩
      cases hs : step s a with
      | none => exact hstuck hs
      | some s' => exact hneeds hJs hC (hrest s' hs).head hs
    constructor
    · intro h
      have hG := hguard h
      exact ⟨hG, fun s' hs => (ih (hkeep hJs hC hG hs) (hCrest s' hs)).1 (h.2 s' hs)⟩
    · rintro ⟨hG, hrest⟩
      refine ⟨hJI hJs, fun s' hs => ?_⟩
      exact (ih (hkeep hJs hC hG hs) (hCrest s' hs)).2 (hrest s' hs)

/-- **The exact condition, by an invariant**: the same of all runs. -/
theorem allStates_iff_allSteps_of_kept {I J : σ → Prop} (hJI : ∀ {s}, J s → I s)
    (hkeep : ∀ {s s' a}, J s → G s a → step s a = some s' → J s')
    (hneeds : ∀ {s s' a}, J s → I s' → step s a = some s' → G s a)
    (hstuck : ∀ {s a}, step s a = none → G s a) {as : List α} {s : σ} (hJs : J s) :
    AllStates step I s as ↔ AllSteps step G s as :=
  allStates_iff_allSteps_within (C := Free) hJI (fun hJs _ => hkeep hJs)
    (fun hJs _ => hneeds hJs) hstuck hJs (allSteps_of_forall fun _ _ => trivial)

/-- The same where `I` alone tells that the step meets the guard. -/
theorem allStates_iff_allSteps_of_invariant {I J : σ → Prop} (hJI : ∀ {s}, J s → I s)
    (hkeep : ∀ {s s' a}, J s → G s a → step s a = some s' → J s')
    (hneeds : ∀ {s s' a}, I s → I s' → step s a = some s' → G s a)
    (hstuck : ∀ {s a}, step s a = none → G s a) {as : List α} {s : σ} (hJs : J s) :
    AllStates step I s as ↔ AllSteps step G s as :=
  allStates_iff_allSteps_of_kept hJI hkeep (fun hJs => hneeds (hJI hJs)) hstuck hJs

/-! ## Tallies -/

/-- How many steps of a run satisfy `p`. -/
def tally (step : σ → α → Option σ) (p : σ → α → Bool) : σ → List α → Nat
  | _, [] => 0
  | s, a :: as => (p s a).toNat + ((step s a).map fun s' => tally step p s' as).getD 0

theorem tally_cons {p : σ → α → Bool} {s s' : σ} {a : α} (h : step s a = some s') (as : List α) :
    tally step p s (a :: as) = (p s a).toNat + tally step p s' as := by
  rw [tally, h]
  rfl

/-- **Balance**: what every step keeps in balance, a run keeps in balance. -/
theorem tally_balance {p q : σ → α → Bool} {w : σ → Nat}
    (hstep : ∀ {s s' a}, step s a = some s' → w s + (p s a).toNat = w s' + (q s a).toNat)
    {as : List α} : ∀ {s t : σ}, run step s as = some t →
      w s + tally step p s as = w t + tally step q s as := by
  induction as with
  | nil =>
    intro s t h
    cases h
    rfl
  | cons a as ih =>
    intro s t h
    obtain ⟨s', hs, ht⟩ := Option.bind_eq_some_iff.1 h
    have hrest := ih ht
    have hone := hstep hs
    rw [tally_cons hs, tally_cons hs]
    omega

/-- **Budget**: what every step pays for, a run pays for. -/
theorem tally_budget {p : σ → α → Bool} {v : σ → Nat}
    (hstep : ∀ {s s' a}, step s a = some s' → (p s a).toNat + v s' ≤ v s)
    {as : List α} : ∀ {s t : σ}, run step s as = some t → tally step p s as + v t ≤ v s := by
  induction as with
  | nil =>
    intro s t h
    cases h
    exact Nat.le_of_eq (Nat.zero_add _)
  | cons a as ih =>
    intro s t h
    obtain ⟨s', hs, ht⟩ := Option.bind_eq_some_iff.1 h
    have hrest := ih ht
    have hone := hstep hs
    rw [tally_cons hs]
    omega

/-- A tally that looks at the actions only counts them. -/
theorem tally_eq_countP {p : α → Bool} {as : List α} : ∀ {s t : σ}, run step s as = some t →
    tally step (fun _ a => p a) s as = as.countP p := by
  induction as with
  | nil =>
    intro s t h
    rfl
  | cons a as ih =>
    intro s t h
    obtain ⟨s', hs, ht⟩ := Option.bind_eq_some_iff.1 h
    have hrest := ih ht
    rw [tally_cons hs, List.countP_cons, hrest]
    cases p a <;> simp [Nat.add_comm]

/-! ## Tested runs -/

/-- The steps that a decidable test admits. -/
def guarded (ok : σ → α → Bool) (step : σ → α → Option σ) (s : σ) (a : α) : Option σ :=
  if ok s a then step s a else none

/-- What runs under a test runs without it. -/
theorem run_of_guarded_run {ok : σ → α → Bool} {as : List α} :
    ∀ {s t : σ}, run (guarded ok step) s as = some t → run step s as = some t := by
  induction as with
  | nil => exact fun h => h
  | cons a as ih =>
    intro s t h
    obtain ⟨s', hs, ht⟩ := Option.bind_eq_some_iff.1 h
    unfold guarded at hs
    split at hs
    · exact Option.bind_eq_some_iff.2 ⟨s', hs, ih ht⟩
    · cases hs

/-- A successful execution under a test that implies the guard is a guarded run. -/
theorem reach_of_guarded_run {ok : σ → α → Bool} (hG : ∀ s a, ok s a = true → G s a) {as : List α} :
    ∀ {s t : σ}, run (guarded ok step) s as = some t → Reach step G s t := by
  induction as with
  | nil =>
    intro s t h
    cases h
    exact .init
  | cons a as ih =>
    intro s t h
    obtain ⟨s', hs, ht⟩ := Option.bind_eq_some_iff.1 h
    unfold guarded at hs
    split at hs
    · exact (Reach.init.step (hG s a ‹_›) hs).trans (ih ht)
    · cases hs

/-- Under a test that implies the guard, every step of an execution meets it. -/
theorem allSteps_of_guarded_run {ok : σ → α → Bool} (hG : ∀ s a, ok s a = true → G s a)
    {as : List α} :
    ∀ {s t : σ}, run (guarded ok step) s as = some t → AllSteps step G s as := by
  induction as with
  | nil => exact fun _ => trivial
  | cons a as ih =>
    intro s t h
    obtain ⟨s', hs, ht⟩ := Option.bind_eq_some_iff.1 h
    unfold guarded at hs
    split at hs
    · refine ⟨hG s a ‹_›, fun s'' hs'' => ?_⟩
      obtain rfl : s' = s'' := Option.some_inj.1 (hs.symm.trans hs'')
      exact ih ht
    · cases hs

end Transition
