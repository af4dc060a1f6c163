import Mathlib.Data.List.Basic

/-!
# Bit-fields in a word

A word that carries several values side by side: each `Part` has a place, a width and a value, and
`pack` ors them into a word that starts at zero. Where the places do not overlap, every value is
read back from its own place (`Layout.extract_pack`), whatever the order they were put in.
-/

namespace BitFields

variable {n : Nat}

/-- Put `x` at bit `p`, over a place that is clear. -/
def place (p : Nat) {w : Nat} (x : BitVec w) (v : BitVec n) : BitVec n := v ||| x.setWidth n <<< p

theorem getLsbD_place (p : Nat) {w : Nat} (x : BitVec w) (v : BitVec n) (i : Nat) :
    (place p x v).getLsbD i =
      (v.getLsbD i || (decide (i < n) && decide (p ≤ i) && x.getLsbD (i - p))) := by
  rw [place, BitVec.getLsbD_or, BitVec.getLsbD_shiftLeft, BitVec.getLsbD_setWidth]
  by_cases hi : i < n
  · have hsub : i - p < n := Nat.lt_of_le_of_lt (Nat.sub_le i p) hi
    by_cases hp : i < p
    · simp [Nat.not_le.2 hp]
    · simp [hi, hsub, hp, Nat.not_lt.1 hp]
  · simp [hi]

/-- A place apart from `p` is left as it is. -/
theorem extract_place_of_apart {p q w u : Nat} (x : BitVec w) (v : BitVec n)
    (h : q + u ≤ p ∨ p + w ≤ q) : (place p x v).extractLsb' q u = v.extractLsb' q u := by
  apply BitVec.eq_of_getLsbD_eq
  intro i hi
  rw [BitVec.getLsbD_extractLsb', BitVec.getLsbD_extractLsb', getLsbD_place]
  rcases h with hbelow | habove
  · have hp : ¬p ≤ q + i := by omega
    simp [hp]
  · have hout : x.getLsbD (q + i - p) = false := BitVec.getLsbD_of_ge _ _ (by omega)
    simp [hout]

/-- The value comes back from a place that was clear. -/
theorem extract_place {p w : Nat} (x : BitVec w) {v : BitVec n} (hfit : p + w ≤ n)
    (hclear : v.extractLsb' p w = 0) : (place p x v).extractLsb' p w = x := by
  apply BitVec.eq_of_getLsbD_eq
  intro i hi
  have hzero : v.getLsbD (p + i) = false := by
    have hbit := congrArg (fun y => y.getLsbD i) hclear
    simpa [BitVec.getLsbD_extractLsb', hi] using hbit
  rw [BitVec.getLsbD_extractLsb', getLsbD_place, hzero, Nat.add_sub_cancel_left]
  have hin : p + i < n := by omega
  simp [hi, hin]

/-! ## Several parts -/

structure Part where
  pos : Nat
  width : Nat
  val : BitVec width

namespace Part

def Fits (n : Nat) (a : Part) : Prop := a.pos + a.width ≤ n

def Apart (a b : Part) : Prop := a.pos + a.width ≤ b.pos ∨ b.pos + b.width ≤ a.pos

/-- A single bit. -/
def bit (b : Bool) (p : Nat) : Part := ⟨p, 1, .ofBool b⟩

/-- The place alone. -/
def span (a : Part) : Nat × Nat := (a.pos, a.width)

theorem Apart.symm {a b : Part} (h : a.Apart b) : b.Apart a := Or.symm h

end Part

def SpansApart (a b : Nat × Nat) : Prop := a.1 + a.2 ≤ b.1 ∨ b.1 + b.2 ≤ a.1

instance : DecidableRel SpansApart := fun a b => inferInstanceAs
    (Decidable (a.1 + a.2 ≤ b.1 ∨ b.1 + b.2 ≤ a.1))

/-- Parts side by side in a word of `n` bits. -/
structure Layout (n : Nat) (parts : List Part) : Prop where
  apart : parts.Pairwise Part.Apart
  fits : ∀ a ∈ parts, a.Fits n

/-- A layout is a matter of the places. -/
theorem Layout.of_spans {parts : List Part} (spans : List (Nat × Nat))
    (hspans : parts.map Part.span = spans)
    (hapart : spans.Pairwise SpansApart) (hfits : ∀ s ∈ spans, s.1 + s.2 ≤ n) : Layout n parts := by
  subst hspans
  refine ⟨(List.pairwise_map (R := SpansApart)).1 hapart, ?_⟩
  intro a ha
  exact hfits a.span (List.mem_map_of_mem ha)

/-- The parts on top of a word. -/
def packOn (v : BitVec n) (parts : List Part) : BitVec n := parts.foldl
    (fun v a => place a.pos a.val v) v

/-- **The packed word.** -/
def pack (parts : List Part) : BitVec n := packOn 0 parts

theorem extract_packOn_of_apart {parts : List Part} {p w : Nat}
    (h : ∀ a ∈ parts, p + w ≤ a.pos ∨ a.pos + a.width ≤ p) (v : BitVec n) :
    (packOn v parts).extractLsb' p w = v.extractLsb' p w := by
  induction parts generalizing v with
  | nil => rfl
  | cons a parts ih =>
    have hhead := h a List.mem_cons_self
    have htail := ih (fun b hb => h b (List.mem_cons_of_mem a hb)) (place a.pos a.val v)
    exact htail.trans (extract_place_of_apart a.val v hhead)

theorem extract_packOn {parts : List Part} (hapart : parts.Pairwise Part.Apart) {a : Part}
    (ha : a ∈ parts)
    (hfit : a.Fits n) {v : BitVec n} (hclear : v.extractLsb' a.pos a.width = 0) :
    (packOn v parts).extractLsb' a.pos a.width = a.val := by
  induction parts generalizing v with
  | nil => cases ha
  | cons b parts ih =>
    obtain ⟨hb, hparts⟩ := List.pairwise_cons.1 hapart
    rcases List.mem_cons.1 ha with rfl | ha'
    · -- nothing that follows touches the place
      have hrest := extract_packOn_of_apart (fun c hc => hb c hc) (place a.pos a.val v)
      exact hrest.trans (extract_place a.val hfit hclear)
    · refine ih hparts ha' ?_
      exact (extract_place_of_apart b.val v (hb a ha').symm).trans hclear

/-- **The round trip of a packed word.** -/
theorem Layout.extract_pack {parts : List Part} (h : Layout n parts) {a : Part} (ha : a ∈ parts) :
    (pack parts : BitVec n).extractLsb' a.pos a.width = a.val :=
  extract_packOn h.apart ha (h.fits a ha) (by simp)

theorem Layout.getLsbD_pack {parts : List Part} (h : Layout n parts) {b : Bool} {p : Nat}
    (hb : Part.bit b p ∈ parts) : (pack parts : BitVec n).getLsbD p = b := by
  have hbit : (pack parts : BitVec n).extractLsb' p 1 = .ofBool b := h.extract_pack hb
  rw [BitVec.getLsbD_eq_extractLsb', hbit]
  cases b <;> rfl

end BitFields
