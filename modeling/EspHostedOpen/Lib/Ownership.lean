import Mathlib.Data.List.Basic

/-!
# Traces of objects that are created, used and released

What a program does with its heap objects, in the order in which it does it. `life` follows one
object through a trace and fails at a double release, at a use after the release and at a use of
what is not there; where it ends with the object released, the trace releases it once and leaves it
alone afterwards (`releasedOnce_of_life`).

`Leads` follows all objects at once. A trace that leads from the empty heap is settled if it leaves
none of them live (`Leads.settled_iff`).
-/

namespace Ownership

variable {α : Type}

inductive Event (α : Type)
  | create (a : α)
  | use (a : α)
  | release (a : α)
  deriving DecidableEq, Repr

def Event.obj : Event α → α
  | create a | use a | release a => a

/-- Released once, and nothing done with it afterwards. -/
def ReleasedOnce (a : α) (t : List (Event α)) : Prop :=
  ∃ before after, t = before ++ .release a :: after ∧ .release a ∉ before ∧ ∀ e ∈ after, e.obj ≠ a

inductive Phase
  | absent | live | released
  deriving DecidableEq, Repr

/-- One event on the object. -/
def Phase.next : Event α → Phase → Option Phase
  | .create _, absent => some live
  | .use _, live => some live
  | .release _, live => some released
  | _, _ => none

variable {a : α} {p q : Phase} {e : Event α} {t u : List (Event α)}

theorem ReleasedOnce.mem (h : ReleasedOnce a t) : .release a ∈ t := by
  obtain ⟨before, after, rfl, -⟩ := h
  exact List.mem_append_right _ List.mem_cons_self

/-- What has been there is not created again. -/
theorem Phase.next_of_ne_absent (hp : p ≠ .absent) (h : p.next e = some q) : q ≠ .absent ∧ ∀ a,
    e ≠ .create a := by
  cases e <;> cases p <;> cases h <;> first | exact absurd rfl hp | exact ⟨nofun, nofun⟩

theorem Phase.next_absent (h : absent.next e = some q) : q = .live ∧ ∃ a, e = .create a := by
  cases e with
  | create a =>
    cases h
    exact ⟨rfl, a, rfl⟩
  | use a => cases h
  | release a => cases h

variable [DecidableEq α]

/-- The life of an object through a trace. -/
def life (a : α) : Phase → List (Event α) → Option Phase
  | p, [] => some p
  | p, e :: t => if e.obj = a then (p.next e).bind fun q => life a q t else life a p t

theorem life_cons_self (h : e.obj = a) : life a p (e :: t) = (p.next e).bind fun q =>
    life a q t := by
  rw [life, if_pos h]

theorem life_cons_ne (h : e.obj ≠ a) : life a p (e :: t) = life a p t := by
  rw [life, if_neg h]

theorem life_append : life a p (t ++ u) = (life a p t).bind fun q => life a q u := by
  induction t generalizing p with
  | nil => rfl
  | cons e t ih =>
    rw [List.cons_append, life, life]
    by_cases h : e.obj = a
    · rw [if_pos h, if_pos h, Option.bind_assoc]
      exact Option.bind_congr fun q _ => ih
    · rw [if_neg h, if_neg h]
      exact ih

theorem life_of_not_obj (h : ∀ e ∈ t, e.obj ≠ a) : life a p t = some p := by
  induction t with
  | nil => rfl
  | cons e t ih =>
    rw [life_cons_ne (h e List.mem_cons_self)]
    exact ih fun e he => h e (List.mem_cons_of_mem _ he)

/-- A live object stays live while it is only used. -/
theorem life_of_uses (h : ∀ e ∈ t, e.obj = a → e = .use a) : life a .live t = some .live := by
  induction t with
  | nil => rfl
  | cons e t ih =>
    have ht := ih fun e he => h e (List.mem_cons_of_mem _ he)
    by_cases hobj : e.obj = a
    · rw [life_cons_self hobj, h e List.mem_cons_self hobj]
      exact ht
    · rw [life_cons_ne hobj, ht]

/-- What is released stays so where nothing is done with it. -/
theorem life_released_iff : life a .released t = some .released ↔ ∀ e ∈ t, e.obj ≠ a := by
  refine ⟨fun h => ?_, life_of_not_obj⟩
  induction t with
  | nil => exact nofun
  | cons e t ih =>
    by_cases hobj : e.obj = a
    · rw [life_cons_self hobj] at h
      cases e <;> cases h
    · rw [life_cons_ne hobj] at h
      exact List.forall_mem_cons.2 ⟨hobj, ih h⟩

/-- **A live object that ends released is released once**, and left alone afterwards. -/
theorem releasedOnce_of_life (h : life a .live t = some .released) : ReleasedOnce a t := by
  induction t with
  | nil => cases h
  | cons e t ih =>
    by_cases hobj : e.obj = a
    · rw [life_cons_self hobj] at h
      cases e with
      | create b => cases h
      | use b =>
        obtain ⟨before, after, rfl, hbefore, hafter⟩ := ih h
        exact ⟨.use b :: before, after, rfl, by simpa using hbefore, hafter⟩
      | release b =>
        cases hobj
        exact ⟨[], t, rfl, List.not_mem_nil, life_released_iff.1 h⟩
    · rw [life_cons_ne hobj] at h
      obtain ⟨before, after, rfl, hbefore, hafter⟩ := ih h
      refine ⟨e :: before, after, rfl, ?_, hafter⟩
      rw [List.mem_cons, not_or]
      refine ⟨?_, hbefore⟩
      rintro rfl
      exact hobj rfl

/-- **Nothing left and nothing broken**: every object that occurs is created once and released once,
and left alone afterwards. -/
def Settled (t : List (Event α)) : Prop := ∀ e ∈ t, t.count (.create e.obj) = 1 ∧
    ReleasedOnce e.obj t

theorem life_of_ne_absent (h : life a p t = some q) (hp : p ≠ .absent) :
    q ≠ .absent ∧ t.count (.create a) = 0 := by
  induction t generalizing p with
  | nil =>
    cases h
    exact ⟨hp, rfl⟩
  | cons e t ih =>
    by_cases hobj : e.obj = a
    · rw [life_cons_self hobj] at h
      obtain ⟨r, hr, ht⟩ := Option.bind_eq_some_iff.1 h
      obtain ⟨hr', hne⟩ := Phase.next_of_ne_absent hp hr
      rw [List.count_cons_of_ne (hne a)]
      exact ih ht hr'
    · rw [life_cons_ne hobj] at h
      have hne : e ≠ .create a := by
        rintro rfl
        exact hobj rfl
      rw [List.count_cons_of_ne hne]
      exact ih h hp

/-- An object that is not there in the end was never there. -/
theorem not_obj_of_life (h : life a .absent t = some .absent) : ∀ e ∈ t, e.obj ≠ a := by
  induction t with
  | nil => exact nofun
  | cons e t ih =>
    by_cases hobj : e.obj = a
    · rw [life_cons_self hobj] at h
      obtain ⟨r, hr, ht⟩ := Option.bind_eq_some_iff.1 h
      obtain ⟨rfl, -⟩ := Phase.next_absent hr
      exact absurd rfl (life_of_ne_absent ht nofun).1
    · rw [life_cons_ne hobj] at h
      exact List.forall_mem_cons.2 ⟨hobj, ih h⟩

/-- An object that ends released was created once. -/
theorem createdOnce_of_life (h : life a .absent t = some .released) :
    t.count (.create a) = 1 ∧ ReleasedOnce a t := by
  induction t with
  | nil => cases h
  | cons e t ih =>
    by_cases hobj : e.obj = a
    · rw [life_cons_self hobj] at h
      obtain ⟨r, hr, ht⟩ := Option.bind_eq_some_iff.1 h
      obtain ⟨rfl, b, rfl⟩ := Phase.next_absent hr
      obtain rfl : b = a := hobj
      obtain ⟨before, after, rfl, hbefore, hafter⟩ := releasedOnce_of_life ht
      refine ⟨?_, .create b :: before, after, rfl, by simpa using hbefore, hafter⟩
      rw [List.count_cons_self, (life_of_ne_absent ht nofun).2]
    · rw [life_cons_ne hobj] at h
      obtain ⟨hcount, before, after, rfl, hbefore, hafter⟩ := ih h
      have hne : e ≠ .create a ∧ e ≠ .release a := by
        constructor <;> rintro rfl <;> exact hobj rfl
      refine ⟨?_, e :: before, after, rfl, ?_, hafter⟩
      · rw [List.count_cons_of_ne hne.1, hcount]
      · rw [List.mem_cons, not_or]
        exact ⟨fun heq => hne.2 heq.symm, hbefore⟩

theorem life_released (h : life a .released t = some q) : q = .released := by
  induction t with
  | nil =>
    cases h
    rfl
  | cons e t ih =>
    by_cases hobj : e.obj = a
    · rw [life_cons_self hobj] at h
      cases e <;> cases h
    · rw [life_cons_ne hobj] at h
      exact ih h

/-- What ends live has not been released. -/
theorem not_release_of_life (h : life a p t = some .live) : .release a ∉ t := by
  intro hmem
  obtain ⟨before, after, rfl⟩ := List.append_of_mem hmem
  rw [life_append] at h
  obtain ⟨r, -, hr⟩ := Option.bind_eq_some_iff.1 h
  have hnext := (life_cons_self (e := .release a) rfl).symm.trans hr
  cases r with
  | absent => cases hnext
  | live => cases life_released hnext
  | released => cases hnext

/-! ## All objects -/

/-- The trace leads from the phases `φ` to the phases `ψ`. -/
def Leads (φ : α → Phase) (t : List (Event α)) (ψ : α → Phase) : Prop := ∀ a, life a
    (φ a) t = some (ψ a)

variable {φ χ ψ : α → Phase}

theorem Leads.nil : Leads φ [] φ := fun _ => rfl

theorem Leads.append (h : Leads φ t χ) (hu : Leads χ u ψ) : Leads φ (t ++ u) ψ := by
  intro a
  rw [life_append, h a]
  exact hu a

/-- What is live may be used. -/
theorem Leads.use (h : φ a = .live) : Leads φ [.use a] φ := by
  intro b
  by_cases hab : a = b
  · subst hab
    exact (life_cons_self rfl).trans (by rw [h]; rfl)
  · exact life_cons_ne hab

/-- Something done for each item of a list, with an object for each: no other item's events are its
own. -/
theorem life_flatMap {ι : Type} {f : ι → List (Event α)} {l : List ι} {i : ι} (hnodup : l.Nodup)
    (hi : i ∈ l)
    (hne : ∀ j, j ≠ i → ∀ e ∈ f j, e.obj ≠ a) : life a p (l.flatMap f) = life a p (f i) := by
  have hrest : ∀ l' : List ι, i ∉ l' → ∀ q, life a q (l'.flatMap f) = some q := by
    intro l' hl' q
    refine life_of_not_obj fun e he => ?_
    obtain ⟨j, hj, hej⟩ := List.mem_flatMap.1 he
    exact hne j (fun hji => hl' (hji ▸ hj)) e hej
  induction l with
  | nil => cases hi
  | cons j l ih =>
    obtain ⟨hj, hl⟩ := List.nodup_cons.1 hnodup
    rw [List.flatMap_cons, life_append]
    by_cases hji : j = i
    · subst hji
      rw [Option.bind_congr fun q _ => hrest l hj q, Option.bind_fun_some]
    · rw [life_of_not_obj (hne j hji)]
      exact ih hl ((List.mem_cons.1 hi).resolve_left fun hij => hji hij.symm)

/-- **What is settled**: a trace that breaks nothing is settled if and only if it leaves nothing
behind. -/
theorem Leads.settled_iff (h : Leads (fun _ => .absent) t ψ) : Settled t ↔ ∀ a, ψ a ≠ .live := by
  constructor
  · intro hsettled a hlive
    have ha := h a
    rw [hlive] at ha
    by_cases hobj : ∃ e ∈ t, e.obj = a
    · obtain ⟨e, he, rfl⟩ := hobj
      exact not_release_of_life ha (hsettled e he).2.mem
    · have habsent : life a .absent t = some .absent :=
        life_of_not_obj fun e he heq => hobj ⟨e, he, heq⟩
      cases habsent.symm.trans ha
  · intro hnone e he
    have hlife := h e.obj
    cases hphase : ψ e.obj with
    | absent =>
      rw [hphase] at hlife
      exact absurd rfl (not_obj_of_life hlife e he)
    | live => exact absurd hphase (hnone e.obj)
    | released =>
      rw [hphase] at hlife
      exact createdOnce_of_life hlife

end Ownership
