import EspHostedOpen.Lib.Bytes

/-!
# Records with a length in their header

A record is a header of fixed size and a value whose length the header says. `head?` takes the first
record off a string, if all of it is there, and `records` takes as many as there are: what it leaves
is empty exactly when the string is a sequence of complete records.

`byteAt` is what a C parser sees: the string, and behind its end whatever the memory holds.
-/

namespace Records

open ByteCodec

/-- The size of the header, and the length of the value by the header. -/
structure Format where
  header : Nat
  pos : 0 < header
  length : List UInt8 → Nat

structure Record where
  header : List UInt8
  value : List UInt8
  deriving DecidableEq, Repr

/-- The bytes of a record. -/
def Record.bytes (r : Record) : List UInt8 := r.header ++ r.value

namespace Format

variable {f : Format} {bytes rest : List UInt8} {r : Record}

/-- The first record and what follows it, if the record is complete. -/
def head? (f : Format) (bytes : List UInt8) : Option (Record × List UInt8) :=
  let header := bytes.take f.header
  let len := f.length header
  if f.header + len ≤ bytes.length then
    some (⟨header, slice f.header len bytes⟩, bytes.drop (f.header + len))
  else none

theorem head?_inv (h : f.head? bytes = some (r, rest)) :
    bytes = r.bytes ++ rest ∧ r.header.length = f.header ∧ r.value.length = f.length r.header := by
  unfold head? at h
  dsimp only at h
  split at h
  · rename_i hlen
    cases h
    refine ⟨?_, ?_, length_slice hlen⟩
    · rw [Record.bytes, slice, ← List.drop_drop, List.append_assoc, List.take_append_drop,
        List.take_append_drop]
    · rw [List.length_take]
      omega
  · cases h

theorem head?_append (hheader : r.header.length = f.header)
    (hvalue : r.value.length = f.length r.header)
    (rest : List UInt8) : f.head? (r.bytes ++ rest) = some (r, rest) := by
  have htake : (r.bytes ++ rest).take f.header = r.header := by
    rw [Record.bytes, List.append_assoc]
    exact List.take_left' hheader
  have hlen : r.bytes.length = f.header + f.length r.header := by
    rw [Record.bytes, List.length_append, hheader, hvalue]
  have hslice : slice f.header (f.length r.header) (r.bytes ++ rest) = r.value := by
    rw [Record.bytes, List.append_assoc, slice_append_right _ _ (Nat.le_of_eq hheader), hheader,
      Nat.sub_self]
    exact slice_prefix rest hvalue
  unfold head?
  dsimp only
  rw [htake, hslice, if_pos (by rw [List.length_append]; omega), List.drop_left' hlen]

/-- Where the first record is not complete, the header is cut short or announces more than there
is. -/
theorem head?_eq_none_iff :
    f.head? bytes = none ↔ bytes.length < f.header + f.length (bytes.take f.header) := by
  unfold head?
  dsimp only
  split <;> simp only [reduceCtorEq, false_iff, true_iff] <;> omega

theorem head?_nil : f.head? [] = none :=
  head?_eq_none_iff.2 (Nat.add_pos_left f.pos _)

theorem length_rest (h : f.head? bytes = some (r, rest)) :
    bytes.length = f.header + r.value.length + rest.length := by
  obtain ⟨rfl, hheader, -⟩ := head?_inv h
  rw [Record.bytes, List.length_append, List.length_append, hheader]

/-! ## All of them -/

/-- The complete records in front, and what is left. -/
def records (f : Format) (bytes : List UInt8) : List Record × List UInt8 :=
  match _h : f.head? bytes with
  | none => ([], bytes)
  | some (r, rest) => (r :: (f.records rest).1, (f.records rest).2)
termination_by bytes.length
decreasing_by all_goals (have hlen := length_rest _h; have hpos := f.pos; omega)

theorem records_none (h : f.head? bytes = none) : f.records bytes = ([], bytes) := by
  rw [records]
  split
  · rfl
  · rename_i h'
    cases h.symm.trans h'

theorem records_some (h : f.head? bytes = some (r, rest)) :
    f.records bytes = (r :: (f.records rest).1, (f.records rest).2) := by
  rw [records]
  split
  · rename_i h'
    cases h.symm.trans h'
  · rename_i h'
    cases h.symm.trans h'
    rfl

theorem records_nil : f.records [] = ([], []) := records_none head?_nil

/-- Nothing but complete records. -/
def Complete (f : Format) (bytes : List UInt8) : Prop := (f.records bytes).2 = []

/-- **Induction along the records**, with what stops them as the base. -/
theorem records_induction (f : Format) {P : List UInt8 → Prop}
    (stop : ∀ bytes, f.head? bytes = none → P bytes)
    (step : ∀ bytes r rest, f.head? bytes = some (r, rest) → P rest → P bytes)
    (bytes : List UInt8) :
    P bytes := by
  have hall : ∀ n, ∀ bytes : List UInt8, bytes.length ≤ n → P bytes := by
    intro n
    induction n with
    | zero =>
      intro bytes hlen
      rw [List.length_eq_zero_iff.1 (Nat.le_zero.1 hlen)]
      exact stop [] head?_nil
    | succ n ih =>
      intro bytes hlen
      cases h : f.head? bytes with
      | none => exact stop bytes h
      | some p =>
        obtain ⟨r, rest⟩ := p
        have hsum := length_rest h
        have hpos := f.pos
        exact step bytes r rest h (ih rest (by omega))
  exact hall bytes.length bytes (Nat.le_refl _)

theorem records_split (f : Format) (bytes : List UInt8) :
    bytes = (f.records bytes).1.flatMap Record.bytes ++ (f.records bytes).2 ∧
      ∀ r ∈ (f.records bytes).1, r.header.length = f.header := by
  induction bytes using f.records_induction with
  | stop bytes h =>
    rw [records_none h]
    exact ⟨rfl, nofun⟩
  | step bytes r rest h ih =>
    obtain ⟨hbytes, hheader, -⟩ := head?_inv h
    obtain ⟨hsplit, hall⟩ := ih
    rw [records_some h]
    constructor
    · rw [List.flatMap_cons, List.append_assoc, ← hsplit, ← hbytes]
    · intro q hq
      rcases List.mem_cons.1 hq with rfl | hq
      · exact hheader
      · exact hall q hq

theorem Complete.eq_flatMap (h : f.Complete bytes) :
    bytes = (f.records bytes).1.flatMap Record.bytes := by
  obtain ⟨hsplit, -⟩ := f.records_split bytes
  rwa [h, List.append_nil] at hsplit

end Format

/-! ## In memory -/

/-- The string, and behind it whatever is there. -/
def byteAt (s : List UInt8) (beyond : Nat → UInt8) (i : Nat) : UInt8 := s[i]?.getD (beyond i)

theorem byteAt_drop (s : List UInt8) (beyond : Nat → UInt8) (pos : Nat) {i : Nat}
    (h : i < (s.drop pos).length) : byteAt s beyond (pos + i) = (s.drop pos)[i] := by
  rw [byteAt, ← List.getElem?_drop, List.getElem?_eq_getElem h]
  rfl

/-- Bytes read one by one inside the string are a slice of it. -/
theorem map_byteAt (s : List UInt8) (beyond : Nat → UInt8) {pos n : Nat} (h : pos + n ≤ s.length) :
    (List.range n).map (fun i => byteAt s beyond (pos + i)) = slice pos n s := by
  refine List.ext_getElem ?_ fun i hi hi' => ?_
  · rw [List.length_map, List.length_range, length_slice h]
  · rw [List.length_map, List.length_range] at hi
    have hin : i < (s.drop pos).length := by
      rw [List.length_drop]
      omega
    rw [List.getElem_map, List.getElem_range, byteAt_drop s beyond pos hin]
    simp [slice]

end Records
