import Mathlib.Data.List.Basic

/-!
# Frames on a stream

A `Reader` takes the first frame off a stream as soon as all of it is there. What it reads does not
depend on the pieces in which the stream comes in (`foldl_feed`), and a stream of frames is read
back frame by frame (`read_frames`): one of them may be anything that is one frame for the reader,
without a consequence for the others.
-/

namespace Framing

variable {β φ : Type}

structure Reader (β φ : Type) where
  next : List β → Option (φ × List β)
  shorter : ∀ {bs : List β} {f : φ} {rest : List β}, next bs = some (f, rest) →
    rest.length < bs.length
  more : ∀ {bs : List β} {f : φ} {rest : List β}, next bs = some (f, rest) →
    ∀ later : List β, next (bs ++ later) = some (f, rest ++ later)

namespace Reader

variable {r : Reader β φ} {bs rest later : List β} {f : φ}

theorem next_nil (r : Reader β φ) : r.next [] = none := by
  cases h : r.next [] with
  | none => rfl
  | some p => exact absurd (r.shorter h) (Nat.not_lt_zero _)

/-- The frames that are there, `n` at most, and what is left. -/
def readN (r : Reader β φ) : Nat → List β → List φ × List β
  | 0, bs => ([], bs)
  | n + 1, bs =>
    match r.next bs with
    | none => ([], bs)
    | some (f, rest) => (f :: (r.readN n rest).1, (r.readN n rest).2)

/-- All frames that are there, and what is left. -/
def read (r : Reader β φ) (bs : List β) : List φ × List β := r.readN bs.length bs

theorem readN_none (h : r.next bs = none) (n : Nat) : r.readN n bs = ([], bs) := by
  cases n with
  | zero => rfl
  | succ n => rw [readN, h]

theorem readN_some (h : r.next bs = some (f, rest)) (n : Nat) :
    r.readN (n + 1) bs = (f :: (r.readN n rest).1, (r.readN n rest).2) := by
  rw [readN, h]

/-- A frame takes something off, so the length of the stream bounds their number. -/
theorem readN_eq {n : Nat} (hn : bs.length ≤ n) : r.readN n bs = r.read bs := by
  have hgen : ∀ {m n : Nat} {bs : List β}, bs.length ≤ m → bs.length ≤ n →
    r.readN m bs = r.readN n bs := by
    intro m
    induction m with
    | zero =>
      intro n bs hm _
      have hnone : r.next bs = none := by
        cases hnext : r.next bs with
        | none => rfl
        | some p => exact absurd (r.shorter hnext) (by omega)
      rw [readN_none hnone, readN_none hnone]
    | succ m ih =>
      intro n bs hm hn
      cases hnext : r.next bs with
      | none => rw [readN_none hnext, readN_none hnext]
      | some p =>
        have hlt := r.shorter hnext
        obtain ⟨n, rfl⟩ : ∃ n', n = n' + 1 := ⟨n - 1, by omega⟩
        have hrest : r.readN m p.2 = r.readN n p.2 := ih (by omega) (by omega)
        rw [readN_some hnext, readN_some hnext, hrest]
  exact hgen hn (Nat.le_refl _)

theorem read_none (h : r.next bs = none) : r.read bs = ([], bs) := readN_none h _

theorem read_some (h : r.next bs = some (f, rest)) :
    r.read bs = (f :: (r.read rest).1, (r.read rest).2) := by
  have hlt := r.shorter h
  obtain ⟨n, hn⟩ : ∃ n, bs.length = n + 1 := ⟨bs.length - 1, by omega⟩
  rw [read, hn, readN_some h, readN_eq (by omega)]

/-- **Induction over what is read**. -/
theorem read_induction (r : Reader β φ) {P : List β → Prop} (stop : ∀ bs, r.next bs = none → P bs)
    (step : ∀ bs f rest, r.next bs = some (f, rest) → P rest → P bs) (bs : List β) : P bs := by
  induction hn : bs.length using Nat.strongRecOn generalizing bs with
  | _ n ih =>
    cases hnext : r.next bs with
    | none => exact stop bs hnext
    | some p =>
      have hlt := r.shorter hnext
      exact step bs p.1 p.2 hnext (ih _ (by omega) _ rfl)

/-- What comes later does not change what has been read. -/
theorem read_append (r : Reader β φ) (bs later : List β) :
    r.read (bs ++ later) =
      ((r.read bs).1 ++ (r.read ((r.read bs).2 ++ later)).1,
      (r.read ((r.read bs).2 ++ later)).2) := by
  induction bs using r.read_induction with
  | stop bs h =>
    rw [read_none h]
    rfl
  | step bs f rest h ih => rw [read_some (r.more h later), read_some h, ih, List.cons_append]

/-! ## In pieces -/

/-- A piece comes in behind what was left. -/
def feed (r : Reader β φ) (s : List φ × List β) (piece : List β) : List φ × List β :=
  (s.1 ++ (r.read (s.2 ++ piece)).1, (r.read (s.2 ++ piece)).2)

/-- **The pieces do not matter**. -/
theorem foldl_feed (r : Reader β φ) (pieces : List (List β)) (bs : List β) :
    pieces.foldl r.feed (r.read bs) = r.read (bs ++ pieces.flatten) := by
  induction pieces generalizing bs with
  | nil => rw [List.foldl_nil, List.flatten_nil, List.append_nil]
  | cons piece pieces ih =>
    have hfeed : r.feed (r.read bs) piece = r.read (bs ++ piece) := (r.read_append bs piece).symm
    rw [List.foldl_cons, hfeed, ih, List.flatten_cons, List.append_assoc]

theorem foldl_feed_start (r : Reader β φ) (pieces : List (List β)) :
    pieces.foldl r.feed ([], []) = r.read pieces.flatten := by
  rw [← read_none r.next_nil, foldl_feed, List.nil_append]

theorem next_read (r : Reader β φ) (bs : List β) : r.next (r.read bs).2 = none := by
  induction bs using r.read_induction with
  | stop bs h => rwa [read_none h]
  | step bs f rest h ih => rwa [read_some h]

/-! ## Frame by frame -/

/-- The string is one frame. -/
def Frames (r : Reader β φ) (bs : List β) (f : φ) : Prop := r.next bs = some (f, [])

theorem Frames.next (h : r.Frames bs f) (later : List β) : r.next (bs ++ later) = some (f, later) :=
    r.more h later

section Stream

variable {ι : Type} {enc : ι → List β} {frame : ι → φ} {items : List ι}

/-- **A stream of frames is read frame by frame**, whatever comes behind it. -/
theorem read_frames (h : ∀ i ∈ items, r.Frames (enc i) (frame i)) (later : List β) :
    r.read (items.flatMap enc ++ later) =
      (items.map frame ++ (r.read later).1, (r.read later).2) := by
  induction items with
  | nil => rfl
  | cons i items ih =>
    rw [List.flatMap_cons, List.append_assoc, read_some ((h i List.mem_cons_self).next _),
      ih fun j hj => h j (List.mem_cons_of_mem i hj)]
    rfl

/-- **In the middle of a stream of frames**: the first of them are read, and the others are still
there. -/
theorem read_part (h : ∀ i ∈ items, r.Frames (enc i) (frame i)) : ∀ {bs later : List β},
    bs ++ later = items.flatMap enc →
      ∃ k, (r.read bs).1 = (items.take k).map frame ∧ (r.read bs).2 ++ later =
        (items.drop k).flatMap enc := by
  induction items with
  | nil =>
    intro bs later hstream
    obtain ⟨rfl, rfl⟩ := List.append_eq_nil_iff.1 hstream
    refine ⟨0, ?_⟩
    rw [read_none r.next_nil]
    exact ⟨rfl, rfl⟩
  | cons i items ih =>
    intro bs later hstream
    cases hnext : r.next bs with
    | none =>
      refine ⟨0, ?_⟩
      rw [read_none hnext]
      exact ⟨rfl, hstream⟩
    | some p =>
      obtain ⟨f, rest⟩ := p
      have hmore := r.more hnext later
      rw [hstream, List.flatMap_cons, (h i List.mem_cons_self).next] at hmore
      obtain ⟨hframe, htail⟩ := Prod.mk.inj (Option.some.inj hmore)
      obtain ⟨k, htake, hdrop⟩ := ih (fun j hj => h j (List.mem_cons_of_mem i hj)) htail.symm
      refine ⟨k + 1, ?_⟩
      rw [read_some hnext, htake, ← hframe]
      exact ⟨rfl, hdrop⟩

/-- Nothing that is there as a whole is held back. -/
theorem length_left_lt (h : ∀ i ∈ items, r.Frames (enc i) (frame i)) {bs later : List β} {k : Nat}
    (hleft : (r.read bs).2 ++ later = (items.drop k).flatMap enc) :
    ∀ i ∈ (items.drop k).head?, (r.read bs).2.length < (enc i).length := by
  intro i hi
  obtain ⟨rest, hrest⟩ := List.head?_eq_some_iff.1 hi
  have hmem : i ∈ items := List.mem_of_mem_drop (hrest ▸ List.mem_cons_self)
  rw [hrest, List.flatMap_cons] at hleft
  by_contra hlong
  have htake := congrArg (List.take (enc i).length) hleft
  rw [List.take_append_of_le_length (by omega), List.take_left] at htake
  have hnone := r.next_read bs
  rw [← List.take_append_drop (enc i).length (r.read bs).2, htake, (h i hmem).next] at hnone
  cases hnone

/-- Where nothing is to come any more, nothing is left. -/
theorem drop_eq_nil (h : ∀ i ∈ items, r.Frames (enc i) (frame i)) {bs : List β} {k : Nat}
    (hleft : (r.read bs).2 = (items.drop k).flatMap enc) : items.drop k = [] := by
  have hshort := length_left_lt h ((List.append_nil _).trans hleft)
  cases hdrop : items.drop k with
  | nil => rfl
  | cons i rest =>
    rw [hdrop] at hleft hshort
    have hlt := hshort i rfl
    rw [hleft, List.flatMap_cons, List.length_append] at hlt
    omega

end Stream

end Reader

end Framing
