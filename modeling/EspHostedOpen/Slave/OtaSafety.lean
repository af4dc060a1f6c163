import EspHostedOpen.Slave.Ota

/-!
# What an OTA session guarantees

Two properties of every history of OTA requests and results.

* `activate_honest_iff`: OTAActivate answers as it should except where there is nothing to activate.
  Its `switch` leaves with the `ESP_OK` set before it, and a failed OTABegin does not take
  `OTA_COMPLETED` back.
* `image_guarded`: what is written was checked, as long as nobody writes on after a refused first
  chunk: the flag that asks for the check is cleared before the check. `bypass_unguarded` is the
  other direction.
-/

namespace EspHostedOpen.Ota

open Transition

/-! ## Activation -/

/-- The session of the most recent successful OTABegin has ended well, and nothing failed since. -/
def History.Ready (h : History) : Prop :=
  h.beginFailed = false ∧ ∃ x ∈ h.session, x.ended = true ∧ x.endFailed = false

/-- OTAActivate, in `s` with the results `r`: `SUCCESS` only for a session that has ended and whose
partition is the boot partition; otherwise, an error that changes nothing where nothing is ready. -/
def Honest (s : State) (r : Results) : Prop :=
  let o := reqOtaActivateHandler r s.ota
  let h := s.hist.observe .otaActivate o
  (o.reply = some success → ∃ x ∈ h.session, x.ended = true ∧ x.bootSet = true) ∧
    (¬s.hist.Ready → o.reply ≠ some success ∧ h.boot = s.hist.boot ∧ o.state.otaStatus =
      s.ota.otaStatus)

/-- What the statics know about the session. -/
structure Tracked (s : State) : Prop where
  handle : ∀ x ∈ s.hist.session, x.handle = s.ota.handle
  partition : s.hist.beginFailed = false → ∀ x ∈ s.hist.session,
    s.ota.updatePartition = some x.partition
  /-- A session that has ended well is completed or activated. -/
  status : ∀ x ∈ s.hist.session, x.ended = true → x.endFailed = false →
    s.ota.otaStatus = .completed ∨ s.ota.otaStatus = .activated
  boot : s.hist.beginFailed = false → s.ota.otaStatus = .activated → ∀ x ∈ s.hist.session,
    x.bootSet = true

theorem tracked_init : Tracked {} where
  handle := by rintro x ⟨⟩
  partition := by rintro - x ⟨⟩
  status := by rintro x ⟨⟩
  boot := by rintro - - x ⟨⟩

/-- How far a session has come, apart from its chunks. -/
def Session.progress (x : Session) : Partition × Handle × Bool × Bool × Bool :=
  (x.partition, x.handle, x.ended, x.endFailed, x.bootSet)

theorem progress_check (x : Session) (data : List UInt8) (err : EspErr) :
    (x.call (.checkImageValidity data err)).progress = x.progress := by
  simp only [Session.call]
  split <;> rfl

theorem progress_write (x : Session) (hd : Handle) (data : List UInt8) (err : EspErr) :
    (x.call (.otaWrite hd data err)).progress = x.progress := by
  simp only [Session.call]
  split <;> rfl

theorem call_endFails {x : Session} {hd : Handle} {err : EspErr} (hhandle : x.handle = hd)
    (herr : err ≠ espOk) : x.call (.otaEnd hd err) = { x with endFailed := true } := by
  rw [Session.call, if_neg fun hne => hne hhandle.symm, if_neg herr]

theorem call_ends {x : Session} {hd : Handle} (hhandle : x.handle = hd) :
    x.call (.otaEnd hd espOk) = { x with ended := true, endFailed := false } := by
  rw [Session.call, if_neg fun hne => hne hhandle.symm, if_pos rfl]

/-- Chunks change neither the statics that count nor the progress. -/
theorem Tracked.chunk {s : State} (h : Tracked s) {f : Session → Session}
    (hf : ∀ x, (f x).progress = x.progress) (b : Bool) :
    Tracked ⟨{ s.ota with firstOtaWrite := b },
    { s.hist with session := s.hist.session.map f }⟩ := by
  have hpart : ∀ x, (f x).partition = x.partition := fun x => congrArg Prod.fst (hf x)
  have hhandle : ∀ x, (f x).handle = x.handle := fun x => congrArg (·.2.1) (hf x)
  have hended : ∀ x, (f x).ended = x.ended := fun x => congrArg (·.2.2.1) (hf x)
  have hfailed : ∀ x, (f x).endFailed = x.endFailed := fun x => congrArg (·.2.2.2.1) (hf x)
  have hboot : ∀ x, (f x).bootSet = x.bootSet := fun x => congrArg (·.2.2.2.2) (hf x)
  refine ⟨fun y hy => ?_, fun hok y hy => ?_, fun y hy => ?_, fun hok hact y hy => ?_⟩
  all_goals obtain ⟨x, hx, rfl⟩ := Option.map_eq_some_iff.1 hy
  · exact (hhandle x).trans (h.handle x hx)
  · rw [hpart]
    exact h.partition hok x hx
  · rw [hended, hfailed]
    exact h.status x hx
  · rw [hboot]
    exact h.boot hok hact x hx

/-- **One step** keeps the statics in line with the session. -/
theorem tracked_step {s s' : State} {a : Request × Results} (h : Tracked s)
    (hs : step s a = some s') :
    Tracked s' := by
  obtain ⟨req, r⟩ := a
  cases step_effect hs with
  | noMem | idle | bootFails => exact h
  | beginNoMem => exact ⟨h.handle, by rintro ⟨⟩, h.status, by rintro ⟨⟩⟩
  | beginFails => exact ⟨h.handle, by rintro ⟨⟩, h.status, by rintro ⟨⟩⟩
  | begins =>
    refine ⟨fun x hx => ?_, fun _ x hx => ?_, fun x hx hended => ?_, ?_⟩
    · cases hx
      rfl
    · cases hx
      rfl
    · cases hx
      cases hended
    · rintro - ⟨⟩
  | refuses => exact ⟨h.handle, h.partition, h.status, h.boot⟩
  | accepts => exact h.chunk (fun x => by rw [progress_write, progress_check]) false
  | writes => exact h.chunk (fun x => progress_write x _ _ _) s.ota.firstOtaWrite
  | endFails herr =>
    refine ⟨fun y hy => ?_, fun hok y hy => ?_, fun y hy hended hfine => ?_, by rintro - ⟨⟩⟩
    all_goals obtain ⟨x, hx, rfl⟩ := Option.map_eq_some_iff.1 hy
    all_goals rw [call_endFails (h.handle x hx) herr] at *
    · exact h.handle x hx
    · exact h.partition hok x hx
    · cases hfine
  | ends =>
    refine ⟨fun y hy => ?_, fun hok y hy => ?_, fun _ _ _ _ => .inl rfl, by rintro - ⟨⟩⟩
    all_goals obtain ⟨x, hx, rfl⟩ := Option.map_eq_some_iff.1 hy
    all_goals rw [call_ends (h.handle x hx)]
    · exact h.handle x hx
    · exact h.partition hok x hx
  | activates hstatus =>
    refine ⟨fun y hy => ?_, fun hok y hy => ?_, fun _ _ _ _ => .inr rfl, fun hok _ y hy => ?_⟩
    all_goals obtain ⟨x, hx, rfl⟩ := Option.map_eq_some_iff.1 hy
    · have hhandle : (x.call (.setBootPartition s.ota.updatePartition espOk)).handle =
        x.handle := by
        simp only [Session.call]
        split <;> rfl
      exact hhandle.trans (h.handle x hx)
    · have hpart : (x.call (.setBootPartition s.ota.updatePartition espOk)).partition =
        x.partition := by
        simp only [Session.call]
        split <;> rfl
      rw [hpart]
      exact h.partition hok x hx
    · rw [Session.call, if_pos ⟨rfl, h.partition hok x hx⟩]

theorem tracked_of_run {as : List (Request × Results)} {s : State} (h : run step {} as = some s) :
    Tracked s :=
  (reach_of_run h).invariant tracked_init fun hs _ hstep => tracked_step hs hstep

/-- **Exactly when OTAActivate is honest**, after every history: the reply cannot be allocated, the
boot partition of a completed session cannot be set, or the session is ready. -/
theorem activate_honest_iff {as : List (Request × Results)} {s : State}
    (h : run step {} as = some s)
    (r : Results) :
    Honest s r ↔ r.calloc = false ∨
      (s.ota.otaStatus = .completed ∧ r.setBootPartition ≠ espOk) ∨ s.hist.Ready := by
  have htracked := tracked_of_run h
  by_cases hcalloc : r.calloc = false
  · refine iff_of_true ?_ (.inl hcalloc)
    rw [Honest, activate_noMem hcalloc]
    exact ⟨by rintro ⟨⟩, fun _ => ⟨by rintro ⟨⟩, rfl, rfl⟩⟩
  · by_cases hstatus : s.ota.otaStatus = .completed
    · by_cases hok : r.setBootPartition = espOk
      · -- the boot partition is set: the session must be ready
        obtain ⟨reply, hreply⟩ := activate_sets hcalloc hstatus hok
        rw [Honest, hreply]
        constructor
        · intro hhonest
          by_contra hcond
          have hready : ¬s.hist.Ready := fun hready => hcond (.inr (.inr hready))
          have hkept := (hhonest.2 hready).2.2
          rw [hstatus] at hkept
          cases hkept
        · rintro (hmem | ⟨-, herr⟩ | hready)
          · exact absurd hmem hcalloc
          · exact absurd hok herr
          · refine ⟨fun _ => ?_, fun hnot => absurd hready hnot⟩
            obtain ⟨hbegin, x, hx, hended, -⟩ := hready
            refine ⟨{ x with bootSet := true }, ?_, hended, rfl⟩
            have hcall : x.call (.setBootPartition s.ota.updatePartition espOk) =
              { x with bootSet := true } :=
              if_pos ⟨rfl, htracked.partition hbegin x hx⟩
            exact Option.map_eq_some_iff.2 ⟨x, hx, hcall⟩
      · refine iff_of_true ?_ (.inr (.inl ⟨hstatus, hok⟩))
        rw [Honest, activate_bootFails hcalloc hstatus hok, observe_bootFails hok]
        have hne : some r.setBootPartition ≠ some success := fun heq => hok (Option.some_inj.1 heq)
        exact ⟨fun heq => absurd heq hne, fun _ => ⟨hne, rfl, rfl⟩⟩
    · -- nothing is done, and the reply is `SUCCESS`
      rw [Honest, activate_idle hcalloc hstatus]
      constructor
      · intro hhonest
        by_contra hcond
        have hready : ¬s.hist.Ready := fun hready => hcond (.inr (.inr hready))
        exact (hhonest.2 hready).1 rfl
      · rintro (hmem | ⟨hcompleted, -⟩ | hready)
        · exact absurd hmem hcalloc
        · exact absurd hcompleted hstatus
        · refine ⟨fun _ => ?_, fun hnot => absurd hready hnot⟩
          obtain ⟨hbegin, x, hx, hended, hfine⟩ := hready
          rcases htracked.status x hx hended hfine with hcompleted | hactivated
          · exact absurd hcompleted hstatus
          · exact ⟨x, hx, hended, htracked.boot hbegin hactivated x hx⟩

theorem activate_honest_ready :
    ∃ s, run step {} [(.otaBegin, {}), (.otaEnd, {})] = some s ∧ Honest s {} := by
  refine ⟨_, rfl, (@activate_honest_iff [(.otaBegin, {}), (.otaEnd, {})] _ rfl {}).2 ?_⟩
  exact .inr (.inr ⟨rfl, _, rfl, rfl, rfl⟩)

/-- A fresh slave answers `SUCCESS`. One whose second OTABegin failed does so too, and boots from
the partition of the failed one. -/
theorem activate_not_honest :
    ((reqOtaActivateHandler {} {}).reply = some success ∧ ¬Honest {} {}) ∧
      ∃ s, run step {} [(.otaBegin, {}), (.otaEnd, {}),
          (.otaBegin, { nextUpdatePartition := some 1, otaBegin := espFail })] = some s ∧
        (s.hist.observe .otaActivate (reqOtaActivateHandler {} s.ota)).boot = some 1 ∧
          ¬Honest s {} := by
  refine ⟨⟨rfl, fun h => ?_⟩, _, rfl, rfl, fun h => ?_⟩
  · have hready : ¬History.Ready {} := by
      rintro ⟨-, x, ⟨⟩, -⟩
    exact (h.2 hready).1 rfl
  · refine (h.2 ?_).1 rfl
    rintro ⟨⟨⟩, -⟩

/-! ## The image check -/

/-- The first chunk written in the session holds a full application header and passed the check. -/
def History.Guarded (h : History) : Prop :=
  ∀ x ∈ h.session, ∀ data ∈ x.written.head?, otaImageHeaderSize ≤ data.length ∧ data ∈ x.checked

/-- Nothing is written in the session yet, and the next chunk will not be checked: the first was
refused. -/
def CheckSpent (s : State) : Prop :=
  s.ota.firstOtaWrite = false ∧ ∃ x ∈ s.hist.session, x.written = []

/-- Nobody writes on after a refused first chunk. -/
def NoBypass (s : State) : Request × Results → Prop
  | (.otaWrite _, r) => r.calloc = true → ¬CheckSpent s
  | _ => True

/-- The chunks of a session, and its handle. -/
def Session.chunks (x : Session) : Handle × List (List UInt8) × List (List UInt8) :=
  (x.handle, x.checked, x.written)

theorem chunks_end (x : Session) (hd : Handle) (err : EspErr) :
    (x.call (.otaEnd hd err)).chunks = x.chunks := by
  simp only [Session.call]
  split
  · rfl
  · split <;> rfl

theorem chunks_setBoot (x : Session) (p : Option Partition) (err : EspErr) :
    (x.call (.setBootPartition p err)).chunks = x.chunks := by
  simp only [Session.call]
  split <;> rfl

/-- The flag and the chunks of the session. -/
structure Watched (s : State) : Prop where
  handle : ∀ x ∈ s.hist.session, x.handle = s.ota.handle
  fresh : s.ota.firstOtaWrite = true → ∀ x ∈ s.hist.session, x.written = []
  unchecked : ∀ x ∈ s.hist.session, x.written = [] → x.checked = []
  guarded : s.hist.Guarded

theorem watched_init : Watched {} where
  handle := by rintro x ⟨⟩
  fresh := by rintro ⟨⟩
  unchecked := by rintro x ⟨⟩
  guarded := by rintro x ⟨⟩

/-- Neither chunks nor the flag change. -/
theorem Watched.progress {s s' : State} (h : Watched s) {f : Session → Session}
    (hf : ∀ x, (f x).chunks = x.chunks) (hhandle : s'.ota.handle = s.ota.handle)
    (hfirst : s'.ota.firstOtaWrite = s.ota.firstOtaWrite)
    (hsession : s'.hist.session = s.hist.session.map f) : Watched s' := by
  have hsame : ∀ x, (f x).handle = x.handle := fun x => congrArg Prod.fst (hf x)
  have hchecked : ∀ x, (f x).checked = x.checked := fun x => congrArg (·.2.1) (hf x)
  have hwritten : ∀ x, (f x).written = x.written := fun x => congrArg (·.2.2) (hf x)
  refine ⟨fun y hy => ?_, fun hflag y hy => ?_, fun y hy => ?_, fun y hy data hdata => ?_⟩
  all_goals
    rw [hsession] at hy
    obtain ⟨x, hx, rfl⟩ := Option.map_eq_some_iff.1 hy
  · rw [hsame, hhandle]
    exact h.handle x hx
  · rw [hwritten]
    exact h.fresh (hfirst.symm.trans hflag) x hx
  · rw [hwritten, hchecked]
    exact h.unchecked x hx
  · rw [hwritten] at hdata
    rw [hchecked]
    exact h.guarded x hx data hdata

theorem call_write {x : Session} {hd : Handle} (hhandle : x.handle = hd) (data : List UInt8)
    (err : EspErr) : x.call (.otaWrite hd data err) = { x with written := x.written ++ [data] } :=
  if_pos hhandle.symm

/-- **One step** that does not write past the check. -/
theorem watched_step {s s' : State} {a : Request × Results} (h : Watched s) (hguard : NoBypass s a)
    (hs : step s a = some s') : Watched s' := by
  obtain ⟨req, r⟩ := a
  cases step_effect hs with
  | noMem | idle | bootFails => exact h
  | beginNoMem | beginFails => exact ⟨h.handle, h.fresh, h.unchecked, h.guarded⟩
  | begins =>
    refine ⟨fun x hx => ?_, fun _ x hx => ?_, fun x hx _ => ?_, fun x hx data hdata => ?_⟩
    all_goals cases hx
    · rfl
    · rfl
    · rfl
    · cases hdata
  | refuses => exact ⟨h.handle, by rintro ⟨⟩, h.unchecked, h.guarded⟩
  | @accepts data hfirst hlen =>
    refine ⟨fun y hy => ?_, by rintro ⟨⟩, fun y hy hnil => ?_, fun y hy chunk hchunk => ?_⟩
    all_goals
      obtain ⟨x, hx, rfl⟩ := Option.map_eq_some_iff.1 hy
      have hhandle : (x.call (.checkImageValidity data espOk)).handle = s.ota.handle :=
        h.handle x hx
      rw [call_write hhandle] at *
    · exact hhandle
    · exact absurd hnil (List.append_ne_nil_of_right_ne_nil _ (List.cons_ne_nil _ _))
    · -- the first one, and it has just been checked
      have hnone : (x.call (.checkImageValidity data espOk)).written = [] := h.fresh hfirst x hx
      rw [hnone] at hchunk
      cases hchunk
      exact ⟨hlen, List.mem_cons_self⟩
  | @writes data hcalloc hfirst =>
    refine ⟨fun y hy => ?_, fun hflag => ?_, fun y hy hnil => ?_, fun y hy chunk hchunk => ?_⟩
    · obtain ⟨x, hx, rfl⟩ := Option.map_eq_some_iff.1 hy
      rw [call_write (h.handle x hx)]
      exact h.handle x hx
    · exact absurd (hfirst.symm.trans hflag) Bool.false_ne_true
    · obtain ⟨x, hx, rfl⟩ := Option.map_eq_some_iff.1 hy
      rw [call_write (h.handle x hx)] at hnil
      exact absurd hnil (List.append_ne_nil_of_right_ne_nil _ (List.cons_ne_nil _ _))
    · obtain ⟨x, hx, rfl⟩ := Option.map_eq_some_iff.1 hy
      rw [call_write (h.handle x hx)] at hchunk ⊢
      have hsome : x.written ≠ [] := fun hnil => hguard hcalloc ⟨hfirst, x, hx, hnil⟩
      refine h.guarded x hx chunk ?_
      rwa [List.head?_append_of_ne_nil _ hsome] at hchunk
  | endFails | ends => exact h.progress (fun x => chunks_end x _ _) rfl rfl rfl
  | activates => exact h.progress (fun x => chunks_setBoot x _ _) rfl rfl rfl

theorem watched_of_reach {s : State} (h : Reach step NoBypass {} s) : Watched s :=
  h.invariant watched_init fun hs hguard hstep => watched_step hs hguard hstep

/-- **The check is not bypassed** in any state of a run in which nobody writes on after a refused
first chunk. -/
theorem image_guarded {s : State} (h : Reach step NoBypass {} s) : s.hist.Guarded :=
  (watched_of_reach h).guarded

/-- **The condition is exact**: the first write past a refused chunk breaks it. -/
theorem bypass_unguarded {s s' : State} {a : Request × Results} (h : Reach step NoBypass {} s)
    (hs : step s a = some s') (hbypass : ¬NoBypass s a) : ¬s'.hist.Guarded := by
  have hwatched := watched_of_reach h
  obtain ⟨req, r⟩ := a
  cases req with
  | otaWrite data =>
    obtain ⟨hcalloc, hspent⟩ := Classical.not_imp.1 hbypass
    obtain ⟨hfirst, x, hx, hnil⟩ := Classical.not_not.1 hspent
    intro hguarded
    cases step_effect hs with
    | noMem hnone => exact Bool.false_ne_true (hnone.symm.trans hcalloc)
    | refuses _ hflag => exact Bool.false_ne_true (hfirst.symm.trans hflag)
    | accepts hflag => exact Bool.false_ne_true (hfirst.symm.trans hflag)
    | writes =>
      have hmem := hguarded _ (Option.map_eq_some_iff.2 ⟨x, hx, rfl⟩) data
      rw [call_write (hwatched.handle x hx), hnil] at hmem
      have hchecked : data ∈ x.checked := (hmem rfl).2
      rw [hwatched.unchecked x hx hnil] at hchecked
      cases hchecked
  | _ => exact absurd trivial hbypass

/-! ## Two runs -/

/-- The shortest chunk that holds a header. -/
def headerChunk : List UInt8 := List.replicate otaImageHeaderSize 0

/-- The test behind `image_guarded_checked`. -/
def writesChecked (s : State) (_ : Request × Results) : Bool :=
  s.ota.firstOtaWrite || s.hist.session.map Session.written != some []

theorem noBypass_of_writesChecked (s : State) (a : Request × Results)
    (h : writesChecked s a = true) :
    NoBypass s a := by
  obtain ⟨req, r⟩ := a
  cases req with
  | otaWrite data =>
    rintro - ⟨hfirst, x, hx, hnil⟩
    have hwritten : s.hist.session.map Session.written = some [] :=
      Option.map_eq_some_iff.2 ⟨x, hx, hnil⟩
    rw [writesChecked, hfirst, hwritten] at h
    cases h
  | _ => trivial

set_option maxRecDepth 4000 in
/-- A checked first chunk, and one behind it. -/
theorem image_guarded_checked :
    ∃ s, run (guarded writesChecked step) {}
        [(.otaBegin, {}), (.otaWrite headerChunk, {}), (.otaWrite [1], {})] = some s ∧
      s.hist.session.map Session.written = some [headerChunk, [1]] ∧ s.hist.Guarded := by
  have hrun : ∃ s, run (guarded writesChecked step) {}
        [(.otaBegin, {}), (.otaWrite headerChunk, {}), (.otaWrite [1], {})] = some s ∧
      s.hist.session.map Session.written = some [headerChunk, [1]] := ⟨_, rfl, rfl⟩
  obtain ⟨s, hs, hwritten⟩ := hrun
  exact ⟨s, hs, hwritten, image_guarded (reach_of_guarded_run noBypass_of_writesChecked hs)⟩

/-- A first chunk without a header is refused; sent again, it is written. -/
theorem image_not_guarded :
    ∃ s, run step {} [(.otaBegin, {}), (.otaWrite [1], {}), (.otaWrite [1], {})] = some s ∧
      s.hist.session.map Session.written = some [[1]] ∧ ¬s.hist.Guarded := by
  refine ⟨_, rfl, rfl, fun h => ?_⟩
  have hlen := (h _ rfl [1] rfl).1
  exact absurd hlen (by decide)

end EspHostedOpen.Ota
