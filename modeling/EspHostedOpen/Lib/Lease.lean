import Mathlib.Data.Set.Card

/-!
# Locks and leases

Two invariants of shared resources, over arbitrary types of agents and resources:

* `Exclusive owner critical` — a lock is owned by exactly the agent in its critical section;
* `Leased inUse lease` — a resource is in use iff exactly one client has it leased.

For each, the lemmas say what the operations of a client do to it: taking and giving the lock,
granting and ending a lease, and everything else.
-/

namespace Sharing

/-! ## Locks -/

section Lock

variable {A : Type}

/-- The owner of the lock is the agent in its critical section. -/
def Exclusive (owner : Option A) (critical : A → Prop) : Prop := ∀ a, critical a ↔ owner = some a

namespace Exclusive

variable {owner : Option A} {critical critical' : A → Prop} {a b : A}

theorem unique (h : Exclusive owner critical) (ha : critical a) (hb : critical b) : a = b :=
  Option.some_inj.1 (((h a).1 ha).symm.trans ((h b).1 hb))

theorem congr (h : Exclusive owner critical) (hsame : ∀ b, critical' b ↔ critical b) :
    Exclusive owner critical' := fun b => (hsame b).trans (h b)

/-- Taking a free lock. -/
theorem acquire (h : Exclusive none critical) (ha : critical' a)
    (hsame : ∀ b, b ≠ a → (critical' b ↔ critical b)) : Exclusive (some a) critical' := by
  intro b
  by_cases hb : b = a
  · subst hb
    exact iff_of_true ha rfl
  · have hfree : ¬critical b := fun hcrit => nomatch (h b).1 hcrit
    refine iff_of_false (fun hcrit => hfree ((hsame b hb).1 hcrit)) fun heq => hb ?_
    exact (Option.some_inj.1 heq).symm

/-- Giving the lock back. -/
theorem release (h : Exclusive owner critical) (ha : critical a) (ha' : ¬critical' a)
    (hsame : ∀ b, b ≠ a → (critical' b ↔ critical b)) : Exclusive none critical' := by
  intro b
  refine iff_of_false (fun hcrit => ?_) (by rintro ⟨⟩)
  by_cases hb : b = a
  · exact ha' (hb ▸ hcrit)
  · exact hb (h.unique ((hsame b hb).1 hcrit) ha)

end Exclusive

end Lock

/-! ## Leases -/

section Pool

variable {C K : Type}

/-- A resource is in use iff one client has it, and no two clients have the same. -/
structure Leased (inUse : K → Prop) (lease : C → Option K) : Prop where
  used : ∀ {c k}, lease c = some k → inUse k
  unique : ∀ {c c' k}, lease c = some k → lease c' = some k → c = c'
  owned : ∀ {k}, inUse k → ∃ c, lease c = some k

namespace Leased

variable {inUse inUse' : K → Prop} {lease lease' : C → Option K} {c : C} {k : K}

theorem congr (h : Leased inUse lease) (huse : ∀ k, inUse' k ↔ inUse k)
    (hlease : ∀ c, lease' c = lease c) : Leased inUse' lease' := by
  have hfun : lease' = lease := funext hlease
  subst hfun
  exact
    { used := fun hc => (huse _).2 (h.used hc)
      unique := h.unique
      owned := fun hk => h.owned ((huse _).1 hk) }

/-- A free resource goes to a client without one. -/
theorem grant (h : Leased inUse lease) (hfree : ¬inUse k) (hc : lease' c = some k)
    (huse : ∀ k', inUse' k' ↔ k' = k ∨ inUse k') (hsame : ∀ c', c' ≠ c → lease' c' = lease c')
    (hnone : lease c = none) : Leased inUse' lease' := by
  refine ⟨fun {c' k'} hc' => ?_, fun {c₁ c₂ k'} h₁ h₂ => ?_, fun {k'} hk' => ?_⟩
  · by_cases heq : c' = c
    · subst heq
      exact (huse k').2 (.inl (Option.some_inj.1 (hc'.symm.trans hc)))
    · rw [hsame c' heq] at hc'
      exact (huse k').2 (.inr (h.used hc'))
  · by_cases h₁c : c₁ = c
    · by_cases h₂c : c₂ = c
      · rw [h₁c, h₂c]
      · subst h₁c
        rw [hsame c₂ h₂c] at h₂
        obtain rfl := Option.some_inj.1 (h₁.symm.trans hc)
        exact absurd (h.used h₂) hfree
    · by_cases h₂c : c₂ = c
      · subst h₂c
        rw [hsame c₁ h₁c] at h₁
        obtain rfl := Option.some_inj.1 (h₂.symm.trans hc)
        exact absurd (h.used h₁) hfree
      · rw [hsame c₁ h₁c] at h₁
        rw [hsame c₂ h₂c] at h₂
        exact h.unique h₁ h₂
  · rcases (huse k').1 hk' with rfl | hold
    · exact ⟨c, hc⟩
    · obtain ⟨c', hc'⟩ := h.owned hold
      have hne : c' ≠ c := by
        rintro rfl
        rw [hnone] at hc'
        cases hc'
      exact ⟨c', (hsame c' hne).trans hc'⟩

/-- The client gives its resource back. -/
theorem release (h : Leased inUse lease) (hc : lease c = some k) (hc' : lease' c = none)
    (huse : ∀ k', inUse' k' ↔ k' ≠ k ∧ inUse k')
    (hsame : ∀ c', c' ≠ c → lease' c' = lease c') : Leased inUse' lease' := by
  have hother : ∀ {c' k'}, lease' c' = some k' → c' ≠ c ∧ lease c' = some k' := by
    intro c' k' hk'
    have hne : c' ≠ c := by
      rintro rfl
      rw [hc'] at hk'
      cases hk'
    exact ⟨hne, (hsame c' hne).symm.trans hk'⟩
  refine ⟨fun {c' k'} hk' => ?_, fun {c₁ c₂ k'} h₁ h₂ => ?_, fun {k'} hk' => ?_⟩
  · obtain ⟨hne, hold⟩ := hother hk'
    refine (huse k').2 ⟨?_, h.used hold⟩
    rintro rfl
    exact hne (h.unique hold hc)
  · exact h.unique (hother h₁).2 (hother h₂).2
  · obtain ⟨hne, hold⟩ := (huse k').1 hk'
    obtain ⟨c', hown⟩ := h.owned hold
    refine ⟨c', (hsame c' ?_).trans hown⟩
    rintro rfl
    exact hne (Option.some_inj.1 (hown.symm.trans hc))

/-- As many resources are in use as clients have one. -/
theorem encard_eq (h : Leased inUse lease) :
    {k | inUse k}.encard = {c | lease c ≠ none}.encard := by
  have himage : some '' {k | inUse k} = lease '' {c | lease c ≠ none} := by
    ext o
    constructor
    · rintro ⟨k, hk, rfl⟩
      obtain ⟨c, hc⟩ := h.owned hk
      exact ⟨c, by simp [hc], hc⟩
    · rintro ⟨c, hc, rfl⟩
      obtain ⟨k, hk⟩ := Option.ne_none_iff_exists'.1 hc
      exact ⟨k, h.used hk, hk.symm⟩
  have hinj : Set.InjOn lease {c | lease c ≠ none} := by
    intro c hc c' _ heq
    obtain ⟨k, hk⟩ := Option.ne_none_iff_exists'.1 hc
    exact h.unique hk (heq ▸ hk)
  rw [← hinj.encard_image, ← himage, (Option.some_injective K).encard_image]

end Leased

end Pool

end Sharing
