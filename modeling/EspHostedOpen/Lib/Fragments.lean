import Mathlib.Data.List.Basic

/-!
# Messages cut into fragments

A message is cut into fragments that carry its key and a flag on all but the last. `assemble` puts a
stream of fragments together again: the messages completed, the part of the one that is not, and its
key.

`assemble_stream` is the round trip, `done_eq_take` says which messages a prefix of the stream
completes, and `Fitting` is what a receiver with a buffer of fixed size may rely on in front of
every fragment.
-/

namespace Fragments

variable {κ α : Type}

structure Fragment (κ α : Type) where
  key : κ
  payload : List α
  more : Bool
  deriving DecidableEq

/-- The fragments of one message. -/
def cut (key : κ) : List (List α) → List (Fragment κ α)
  | [] => []
  | [p] => [⟨key, p, false⟩]
  | p :: q :: ps => ⟨key, p, true⟩ :: cut key (q :: ps)

/-- The messages completed, and the one under way. -/
structure Assembly (κ α : Type) where
  done : List (List α) := []
  part : List α := []
  key : Option κ := none

namespace Assembly

def add (a : Assembly κ α) (f : Fragment κ α) : Assembly κ α :=
  if f.more then { a with part := a.part ++ f.payload, key := some f.key }
  else { done := a.done ++ [a.part ++ f.payload] }

section Add

variable {a : Assembly κ α} {f : Fragment κ α}

theorem add_more (h : f.more = true) :
    a.add f = { a with part := a.part ++ f.payload, key := some f.key } := if_pos h

theorem add_last (h : f.more = false) : a.add f = { done := a.done ++ [a.part ++ f.payload] } :=
  if_neg (by rw [h]; exact Bool.false_ne_true)

/-- A fragment completes a message iff it is a last one. -/
theorem length_done_add (a : Assembly κ α) (f : Fragment κ α) :
    (a.add f).done.length = a.done.length + (if f.more then 0 else 1) ∧ a.done <+:
    (a.add f).done := by
  cases h : f.more with
  | true =>
    rw [add_more h]
    exact ⟨rfl, List.prefix_rfl⟩
  | false =>
    rw [add_last h]
    exact ⟨by simp, List.prefix_append _ _⟩

end Add

end Assembly

def assemble (fs : List (Fragment κ α)) : Assembly κ α := fs.foldl Assembly.add {}

theorem assemble_snoc (fs : List (Fragment κ α)) (f : Fragment κ α) :
    assemble (fs ++ [f]) = (assemble fs).add f := by
  rw [assemble, List.foldl_append]
  rfl

/-! ## Which messages are complete -/

/-- The number of messages that a stream completes. -/
def completed (fs : List (Fragment κ α)) : Nat := fs.countP fun f => !f.more

theorem length_done_foldl (fs : List (Fragment κ α)) (a : Assembly κ α) :
    (fs.foldl Assembly.add a).done.length = a.done.length + completed fs ∧
      a.done <+: (fs.foldl Assembly.add a).done := by
  induction fs generalizing a with
  | nil => exact ⟨rfl, List.prefix_rfl⟩
  | cons f fs ih =>
    obtain ⟨hlen, hprefix⟩ := a.length_done_add f
    obtain ⟨hlen', hprefix'⟩ := ih (a.add f)
    refine ⟨?_, hprefix.trans hprefix'⟩
    have hcount : completed (f :: fs) = completed fs + if f.more then 0 else 1 := by
      rw [completed, List.countP_cons, completed]
      cases f.more <;> rfl
    rw [List.foldl_cons, hlen', hlen, hcount]
    omega

/-- The prefix `pre` of a stream completes its first messages. -/
theorem done_eq_take {pre post fs : List (Fragment κ α)} (h : pre ++ post = fs) :
    (assemble pre).done = (assemble fs).done.take (completed pre) := by
  subst h
  obtain ⟨hlen, -⟩ := length_done_foldl pre ({} : Assembly κ α)
  obtain ⟨-, hprefix⟩ := length_done_foldl post (assemble pre)
  have hcount : completed pre = (assemble pre).done.length := by
    rw [assemble, hlen]
    exact (Nat.zero_add _).symm
  have hfold : assemble (pre ++ post) = post.foldl Assembly.add (assemble pre) := List.foldl_append
  rw [hcount, hfold]
  exact List.prefix_iff_eq_take.1 hprefix

/-! ## The round trip -/

/-- The messages of a stream, each by its key and its pieces. -/
def stream (msgs : List (κ × List (List α))) : List (Fragment κ α) :=
  msgs.flatMap fun m => cut m.1 m.2

theorem foldl_cut {ps : List (List α)} (h : ps ≠ []) (key : κ) (a : Assembly κ α) :
    (cut key ps).foldl Assembly.add a = { done := a.done ++ [a.part ++ ps.flatten] } := by
  induction ps generalizing a with
  | nil => exact absurd rfl h
  | cons p ps ih =>
    cases ps with
    | nil =>
      rw [cut, List.foldl_cons, List.foldl_nil, Assembly.add_last rfl]
      simp
    | cons q ps =>
      rw [cut, List.foldl_cons, Assembly.add_more rfl, ih (List.cons_ne_nil q ps)]
      simp

/-- **Round trip**: the stream assembles to the messages. -/
theorem assemble_stream {msgs : List (κ × List (List α))} (h : ∀ m ∈ msgs, m.2 ≠ []) :
    assemble (stream msgs) = { done := msgs.map fun m => m.2.flatten } := by
  have hgen : ∀ a : Assembly κ α, a.part = [] → a.key = none →
      (stream msgs).foldl Assembly.add a = { done := a.done ++ msgs.map fun m => m.2.flatten } := by
    induction msgs with
    | nil =>
      rintro ⟨done, part, key⟩ rfl rfl
      simp [stream]
    | cons m msgs ih =>
      intro a hpart hkey
      have hm : m.2 ≠ [] := h m List.mem_cons_self
      rw [stream, List.flatMap_cons, List.foldl_append, foldl_cut hm]
      have hrest := ih (fun m' hm' => h m' (List.mem_cons_of_mem m hm'))
        { done := a.done ++ [a.part ++ m.2.flatten] } rfl rfl
      rw [stream] at hrest
      rw [hrest, hpart]
      simp
  exact hgen {} rfl rfl

/-! ## What a receiver relies on -/

/-- From `a` on: a fragment carries the key of the message under way, the message fits into `cap`,
and it is not empty once it is complete. -/
def Fitting (cap : Nat) : Assembly κ α → List (Fragment κ α) → Prop
  | _, [] => True
  | a, f :: fs =>
    (∀ k ∈ a.key, f.key = k) ∧ (a.part ++ f.payload).length ≤ cap ∧
      (f.more = false → a.part ++ f.payload ≠ []) ∧ Fitting cap (a.add f) fs

theorem fitting_cut {cap : Nat} {ps : List (List α)} (h : ps ≠ []) {key : κ} {a : Assembly κ α}
    (hkey : ∀ k ∈ a.key, key = k) (hpos : a.part ++ ps.flatten ≠ [])
    (hcap : (a.part ++ ps.flatten).length ≤ cap) {fs : List (Fragment κ α)}
    (hrest : ∀ b : Assembly κ α, b.part = [] → b.key = none → Fitting cap b fs) :
    Fitting cap a (cut key ps ++ fs) := by
  induction ps generalizing a with
  | nil => exact absurd rfl h
  | cons p ps ih =>
    have hp : (a.part ++ p).length ≤ cap := by
      rw [List.flatten_cons, ← List.append_assoc, List.length_append] at hcap
      omega
    cases ps with
    | nil =>
      refine ⟨hkey, hp, fun _ => ?_, hrest _ ?_ ?_⟩
      · simpa using hpos
      · rw [Assembly.add_last rfl]
      · rw [Assembly.add_last rfl]
    | cons q ps =>
      refine ⟨hkey, hp, by rintro ⟨⟩, ?_⟩
      refine ih (List.cons_ne_nil q ps) ?_ ?_ ?_
      · rintro k ⟨⟩
        rfl
      · rwa [List.flatten_cons, ← List.append_assoc] at hpos
      · rwa [List.flatten_cons, ← List.append_assoc] at hcap

/-- A stream of messages that fit. -/
theorem fitting_stream {cap : Nat} {msgs : List (κ × List (List α))}
    (h : ∀ m ∈ msgs, m.2.flatten ≠ [] ∧ m.2.flatten.length ≤ cap) {a : Assembly κ α}
    (hpart : a.part = [])
    (hkey : a.key = none) : Fitting cap a (stream msgs) := by
  induction msgs generalizing a with
  | nil => trivial
  | cons m msgs ih =>
    obtain ⟨hpos, hcap⟩ := h m List.mem_cons_self
    have hne : m.2 ≠ [] := fun hnil => hpos (by rw [hnil, List.flatten_nil])
    rw [stream, List.flatMap_cons]
    refine fitting_cut hne ?_ ?_ ?_ fun b hb hb' =>
      ih (fun m' hm' => h m' (List.mem_cons_of_mem m hm')) hb hb'
    · rw [hkey]
      rintro k ⟨⟩
    · rwa [hpart]
    · rwa [hpart]

/-- What fits is also so from the front of the stream. -/
theorem Fitting.of_append {cap : Nat} {pre post : List (Fragment κ α)} {a : Assembly κ α}
    (h : Fitting cap a (pre ++ post)) : Fitting cap a pre := by
  induction pre generalizing a with
  | nil => trivial
  | cons f pre ih =>
    obtain ⟨hkey, hcap, hpos, hrest⟩ := h
    exact ⟨hkey, hcap, hpos, ih hrest⟩

/-! ## Pieces of one size -/

/-- The pieces of `n` into which a message is cut; the last may be shorter. -/
def pieces (n : Nat) (msg : List α) : List (List α) :=
  if 0 < n ∧ n < msg.length then msg.take n :: pieces n (msg.drop n) else [msg]
termination_by msg.length
decreasing_by simp only [List.length_drop]; omega

variable {n : Nat} {msg : List α}

theorem pieces_cons (hn : 0 < n) (h : n < msg.length) : pieces n msg = msg.take n :: pieces n
    (msg.drop n) := by
  rw [pieces, if_pos ⟨hn, h⟩]

theorem pieces_short (h : msg.length ≤ n) : pieces n msg = [msg] := by
  rw [pieces, if_neg fun hlt => Nat.not_lt.2 h hlt.2]

theorem pieces_ne_nil (n : Nat) (msg : List α) : pieces n msg ≠ [] := by
  rw [pieces]
  split <;> exact List.cons_ne_nil _ _

theorem flatten_pieces (n : Nat) (msg : List α) : (pieces n msg).flatten = msg := by
  induction msg using pieces.induct n with
  | case1 msg h ih => rw [pieces_cons h.1 h.2, List.flatten_cons, ih, List.take_append_drop]
  | case2 msg h => rw [pieces, if_neg h, List.flatten_singleton]

/-- The first fragment and the others. -/
theorem cut_pieces_cons (hn : 0 < n) (h : n < msg.length) (key : κ) :
    cut key (pieces n msg) = ⟨key, msg.take n, true⟩ :: cut key (pieces n (msg.drop n)) := by
  rw [pieces_cons hn h]
  obtain ⟨p, ps, hps⟩ := List.exists_cons_of_ne_nil (pieces_ne_nil n (msg.drop n))
  rw [hps]
  rfl

theorem cut_pieces_short (h : msg.length ≤ n) (key : κ) : cut key
    (pieces n msg) = [⟨key, msg, false⟩] := by
  rw [pieces_short h]
  rfl

end Fragments
