import EspHostedOpen.Lib.Transition
import EspHostedOpen.Proto.Messages

/-!
# Over-the-air updates (`slave_control.c`)

The four OTA handlers over their statics, with `H_OTA_CHECK_IMAGE_VALIDITY`. What the flash, the
partition table, the heap and the timer answer is an argument of each request. A handler leaves its
reply, new statics and the calls it made; `History` is what those calls amount to, kept beside the
statics and read by none of the handlers.
-/

namespace EspHostedOpen.Ota

open Transition

/-! ## Statics, requests and results -/

inductive OtaStatus
  | notStarted | inProgress | failed | completed | activated
  deriving DecidableEq, Repr

/-- An `esp_partition_t *` that is not null. -/
abbrev Partition := Nat

/-- `esp_ota_handle_t`. -/
abbrev Handle := Nat

/-- `ota_status`, `update_partition`, `handle`, `first_ota_write`. -/
structure OtaState where
  otaStatus : OtaStatus := .notStarted
  updatePartition : Option Partition := none
  handle : Handle := 0
  firstOtaWrite : Bool := false
  deriving DecidableEq, Repr

inductive Request
  | otaBegin
  | otaWrite (data : List UInt8)
  | otaEnd
  | otaActivate
  deriving DecidableEq, Repr

/-- What the calls of a handler answer, those it makes. -/
structure Results where
  calloc : Bool := true
  nextUpdatePartition : Option Partition := some 0
  otaBegin : EspErr := espOk
  newHandle : Handle := 1
  checkImageValidity : EspErr := espOk
  otaWrite : EspErr := espOk
  otaEnd : EspErr := espOk
  setBootPartition : EspErr := espOk
  timerCreate : Bool := true
  timerStart : Bool := true

/-- The calls that `History` follows, with their outcome. -/
inductive OtaCall
  | otaBegin (p : Partition) (h : Handle) (err : EspErr)
  | checkImageValidity (data : List UInt8) (err : EspErr)
  | otaWrite (h : Handle) (data : List UInt8) (err : EspErr)
  | otaEnd (h : Handle) (err : EspErr)
  | setBootPartition (p : Option Partition) (err : EspErr)
  deriving DecidableEq, Repr

/-- What a handler leaves. `reply` is `resp_payload->resp`, `none` without a payload. -/
structure Outcome where
  reply : Option EspErr
  state : OtaState
  calls : List OtaCall
  deriving DecidableEq, Repr

/-- `SUCCESS`. -/
def success : EspErr := 0

/-- `OTA_IMAGE_HEADER_SIZE`: image header, segment header and application descriptor. -/
def otaImageHeaderSize : Nat := 24 + 8 + 256

/-! ## Handlers -/

def reqOtaBeginHandler (r : Results) (s : OtaState) : Outcome :=
  if r.calloc = false then ⟨none, s, []⟩
  else
    let s := { s with updatePartition := r.nextUpdatePartition }
    match r.nextUpdatePartition with
    | none => ⟨some (-1), s, []⟩
    | some p =>
      if r.otaBegin ≠ espOk then ⟨some r.otaBegin, s, [.otaBegin p s.handle r.otaBegin]⟩
      else
        ⟨some success,
          { s with handle := r.newHandle, otaStatus := .inProgress, firstOtaWrite := true },
          [.otaBegin p r.newHandle espOk]⟩

/-- The end of `req_ota_write_handler`. -/
def writeChunk (r : Results) (data : List UInt8) (s : OtaState) (calls : List OtaCall) : Outcome :=
  ⟨some r.otaWrite, s, calls ++ [.otaWrite s.handle data r.otaWrite]⟩

/-- `none` where `update_partition->type` is read through a null pointer. -/
def reqOtaWriteHandler (r : Results) (data : List UInt8) (s : OtaState) : Option Outcome :=
  if r.calloc = false then some ⟨none, s, []⟩
  else if s.firstOtaWrite then
    let s := { s with firstOtaWrite := false }
    if data.length < otaImageHeaderSize then some ⟨some espErrInvalidSize, s, []⟩
    else if s.updatePartition = none then none
    else if r.checkImageValidity ≠ espOk then
      some ⟨some r.checkImageValidity, s, [.checkImageValidity data r.checkImageValidity]⟩
    else some (writeChunk r data s [.checkImageValidity data espOk])
  else some (writeChunk r data s [])

def reqOtaEndHandler (r : Results) (s : OtaState) : Outcome :=
  if r.calloc = false then ⟨none, s, []⟩
  else if r.otaEnd ≠ espOk then
    ⟨some r.otaEnd, { s with otaStatus := .failed }, [.otaEnd s.handle r.otaEnd]⟩
  else ⟨some success, { s with otaStatus := .completed }, [.otaEnd s.handle espOk]⟩

/-- The `switch` leaves with `ret` as it was set before it, `ESP_OK`. -/
def reqOtaActivateHandler (r : Results) (s : OtaState) : Outcome :=
  if r.calloc = false then ⟨none, s, []⟩
  else
    match s.otaStatus with
    | .inProgress | .notStarted | .failed | .activated => ⟨some espOk, s, []⟩
    | .completed =>
      let calls := [.setBootPartition s.updatePartition r.setBootPartition]
      if r.setBootPartition ≠ espOk then ⟨some r.setBootPartition, s, calls⟩
      else
        let s := { s with otaStatus := .activated }
        if r.timerCreate = false then ⟨some (-1), s, calls⟩
        else if r.timerStart = false then ⟨some (-2), s, calls⟩
        else ⟨some success, s, calls⟩

def handleRequest (r : Results) (s : OtaState) : Request → Option Outcome
  | .otaBegin => some (reqOtaBeginHandler r s)
  | .otaWrite data => reqOtaWriteHandler r data s
  | .otaEnd => some (reqOtaEndHandler r s)
  | .otaActivate => some (reqOtaActivateHandler r s)

/-! ## History -/

/-- What happened since the most recent successful `esp_ota_begin`: whether `esp_ota_end` succeeded
on its handle, whether it failed there afterwards, whether its partition was made the boot
partition, the chunks that passed the check and those that were written. -/
structure Session where
  partition : Partition
  handle : Handle
  ended : Bool := false
  endFailed : Bool := false
  bootSet : Bool := false
  checked : List (List UInt8) := []
  written : List (List UInt8) := []
  deriving DecidableEq, Repr

/-- The session, whether an OTABegin failed since it was opened, and the boot partition last set. -/
structure History where
  session : Option Session := none
  beginFailed : Bool := false
  boot : Option Partition := none
  deriving DecidableEq, Repr

/-- What a call does to the session. -/
def Session.call (x : Session) : OtaCall → Session
  | .otaBegin .. => x
  | .checkImageValidity data err =>
    if err = espOk then { x with checked := data :: x.checked } else x
  | .otaWrite h data _ => if h = x.handle then { x with written := x.written ++ [data] } else x
  | .otaEnd h err =>
    if h ≠ x.handle then x
    else if err = espOk then { x with ended := true, endFailed := false }
    else { x with endFailed := true }
  | .setBootPartition p err =>
    if err = espOk ∧ p = some x.partition then { x with bootSet := true } else x

def History.call (h : History) : OtaCall → History
  | .otaBegin p hd err =>
    if err = espOk then { h with session := some { partition := p, handle := hd }, beginFailed :=
    false }
    else h
  | .setBootPartition p err =>
    { h with
      session := h.session.map (·.call (.setBootPartition p err))
      boot := if err = espOk then p else h.boot }
  | c => { h with session := h.session.map (·.call c) }

/-- A request and its outcome: an OTABegin that is not answered `SUCCESS` has failed. -/
def History.observe (h : History) (req : Request) (o : Outcome) : History :=
  let h' := o.calls.foldl History.call h
  if req = .otaBegin ∧ o.reply ≠ some success then { h' with beginFailed := true } else h'

/-! ## Runs -/

structure State where
  ota : OtaState := {}
  hist : History := {}
  deriving DecidableEq, Repr

/-- A request with its results. A fault leaves nothing to go on with. -/
def step (s : State) (a : Request × Results) : Option State :=
  (handleRequest a.2 s.ota a.1).map fun o => ⟨o.state, s.hist.observe a.1 o⟩

/-! ## What a handler can do -/

/-- The outcomes, request by request, in a state and a history. -/
inductive Effect (s : State) (r : Results) : Request → State → Prop
  /-- No memory for the reply. -/
  | noMem {req} (hcalloc : r.calloc = false) (hreq : req ≠ .otaBegin) : Effect s r req s
  | beginNoMem : Effect s r .otaBegin { s with hist := { s.hist with beginFailed := true } }
  | beginFails {p} :
    Effect s r .otaBegin
      ⟨{ s.ota with updatePartition := p }, { s.hist with beginFailed := true }⟩
  | begins {p} :
    Effect s r .otaBegin
      ⟨{ otaStatus := .inProgress, updatePartition :=
          some p, handle := r.newHandle, firstOtaWrite := true },
        { s.hist with session := some { partition := p, handle :=
            r.newHandle }, beginFailed := false }⟩
  /-- The first chunk is refused, the flag is cleared. -/
  | refuses {data} (hcalloc : r.calloc = true) (hfirst : s.ota.firstOtaWrite = true) :
    Effect s r (.otaWrite data) { s with ota := { s.ota with firstOtaWrite := false } }
  /-- The first chunk is accepted. -/
  | accepts {data} (hfirst : s.ota.firstOtaWrite = true) (hlen : otaImageHeaderSize ≤ data.length) :
    Effect s r (.otaWrite data)
      ⟨{ s.ota with firstOtaWrite := false },
        { s.hist with session := s.hist.session.map fun x =>
            (x.call (.checkImageValidity data espOk)).call (.otaWrite s.ota.handle
                data r.otaWrite) }⟩
  /-- Any other chunk is written. -/
  | writes {data} (hcalloc : r.calloc = true) (hfirst : s.ota.firstOtaWrite = false) :
    Effect s r (.otaWrite data)
      ⟨s.ota, { s.hist with session := s.hist.session.map (·.call
          (.otaWrite s.ota.handle data r.otaWrite)) }⟩
  | endFails (herr : r.otaEnd ≠ espOk) :
    Effect s r .otaEnd
      ⟨{ s.ota with otaStatus := .failed },
        { s.hist with session := s.hist.session.map (·.call (.otaEnd s.ota.handle r.otaEnd)) }⟩
  | ends :
    Effect s r .otaEnd
      ⟨{ s.ota with otaStatus := .completed },
        { s.hist with session := s.hist.session.map (·.call (.otaEnd s.ota.handle espOk)) }⟩
  /-- Nothing to activate: the reply is `SUCCESS` all the same. -/
  | idle (hstatus : s.ota.otaStatus ≠ .completed) : Effect s r .otaActivate s
  | bootFails (hstatus : s.ota.otaStatus = .completed) (herr : r.setBootPartition ≠ espOk) :
    Effect s r .otaActivate s
  | activates (hstatus : s.ota.otaStatus = .completed) :
    Effect s r .otaActivate
      ⟨{ s.ota with otaStatus := .activated },
        { s.hist with
          session := s.hist.session.map (·.call (.setBootPartition s.ota.updatePartition espOk))
          boot := s.ota.updatePartition }⟩

/-- A call that does not touch the session. -/
theorem map_call_id {o : Option Session} {c : OtaCall} (h : ∀ x : Session, x.call c = x) :
    o.map (·.call c) = o := by
  have hid : (fun x : Session => x.call c) = id := funext h
  rw [hid, Option.map_id, id]

theorem begin_effect (s : State) (r : Results) :
    Effect s r .otaBegin
      ⟨(reqOtaBeginHandler r s.ota).state,
      s.hist.observe .otaBegin (reqOtaBeginHandler r s.ota)⟩ := by
  unfold reqOtaBeginHandler
  split
  · exact .beginNoMem
  · split
    · rename_i hnone
      rw [hnone]
      exact .beginFails
    · rename_i p hp
      rw [hp]
      split
      · rename_i herr
        have hreply : ¬some r.otaBegin = some success := fun h => herr (Option.some_inj.1 h)
        simp only [History.observe, History.call, List.foldl_cons, List.foldl_nil,
          if_neg herr, hreply, not_false_eq_true, and_self, if_true, ne_eq]
        exact .beginFails
      · exact .begins

theorem write_effect {s : State} {r : Results} {data : List UInt8} {o : Outcome}
    (h : reqOtaWriteHandler r data s.ota = some o) :
    Effect s r (.otaWrite data) ⟨o.state, s.hist.observe (.otaWrite data) o⟩ := by
  unfold reqOtaWriteHandler at h
  split at h
  · cases h
    exact .noMem ‹_› (by rintro ⟨⟩)
  · rename_i hcalloc
    have hmem : r.calloc = true := by simpa using hcalloc
    split at h
    · rename_i hfirst
      dsimp only at h
      split at h
      · cases h
        exact .refuses hmem hfirst
      · rename_i hlen
        split at h
        · cases h
        · split at h
          · rename_i herr
            cases h
            have hsame : s.hist.session.map (·.call (.checkImageValidity data
                r.checkImageValidity)) =
                s.hist.session := map_call_id fun x => if_neg herr
            have hhist : s.hist.observe (.otaWrite data) ⟨some r.checkImageValidity,
                { s.ota with firstOtaWrite := false },
                [.checkImageValidity data r.checkImageValidity]⟩ = s.hist := by
              simp only [History.observe, List.foldl_cons, List.foldl_nil, History.call, hsame]
              exact if_neg (by rintro ⟨⟨⟩, -⟩)
            rw [hhist]
            exact .refuses hmem hfirst
          · cases h
            have heff := @Effect.accepts s r data hfirst (Nat.not_lt.1 hlen)
            simpa [writeChunk, History.observe, History.call, Function.comp_def] using heff
    · rename_i hfirst
      cases h
      exact .writes hmem (by simpa using hfirst)

theorem end_effect (s : State) (r : Results) :
    Effect s r .otaEnd
      ⟨(reqOtaEndHandler r s.ota).state, s.hist.observe .otaEnd (reqOtaEndHandler r s.ota)⟩ := by
  unfold reqOtaEndHandler
  split
  · exact .noMem ‹_› (by rintro ⟨⟩)
  · split
    · exact .endFails ‹_›
    · exact .ends

section Activate

variable {r : Results} {s : OtaState}

theorem activate_noMem (hcalloc : r.calloc = false) :
    reqOtaActivateHandler r s = ⟨none, s, []⟩ := by
  rw [reqOtaActivateHandler, if_pos hcalloc]

theorem activate_idle (hcalloc : r.calloc ≠ false) (hstatus : s.otaStatus ≠ .completed) :
    reqOtaActivateHandler r s = ⟨some espOk, s, []⟩ := by
  rw [reqOtaActivateHandler, if_neg hcalloc]
  cases hcase : s.otaStatus with
  | completed => exact absurd hcase hstatus
  | _ => rfl

theorem activate_bootFails (hcalloc : r.calloc ≠ false) (hstatus : s.otaStatus = .completed)
    (herr : r.setBootPartition ≠ espOk) :
    reqOtaActivateHandler r s =
      ⟨some r.setBootPartition, s, [.setBootPartition s.updatePartition r.setBootPartition]⟩ := by
  rw [reqOtaActivateHandler, if_neg hcalloc, hstatus]
  exact if_pos herr

/-- Whatever becomes of the timer. -/
theorem activate_sets (hcalloc : r.calloc ≠ false) (hstatus : s.otaStatus = .completed)
    (hok : r.setBootPartition = espOk) :
    ∃ reply, reqOtaActivateHandler r s =
      ⟨reply, { s with otaStatus := .activated }, [.setBootPartition s.updatePartition espOk]⟩ := by
  rw [reqOtaActivateHandler, if_neg hcalloc, hstatus]
  dsimp only
  rw [if_neg (fun h => h hok), hok]
  split
  · exact ⟨_, rfl⟩
  · split <;> exact ⟨_, rfl⟩

end Activate

/-- A call of `esp_ota_set_boot_partition` that fails leaves no trace. -/
theorem observe_bootFails {h : History} {reply : Option EspErr}
    {s : OtaState} {p : Option Partition}
    {err : EspErr} (herr : err ≠ espOk) :
    h.observe .otaActivate ⟨reply, s, [.setBootPartition p err]⟩ = h := by
  have hsame : h.session.map (·.call (.setBootPartition p err)) = h.session :=
    map_call_id fun x => if_neg fun hok => herr hok.1
  simp only [History.observe, List.foldl_cons, List.foldl_nil, History.call, hsame, if_neg herr]
  exact if_neg (by rintro ⟨⟨⟩, -⟩)

theorem activate_effect (s : State) (r : Results) :
    Effect s r .otaActivate
      ⟨(reqOtaActivateHandler r s.ota).state,
        s.hist.observe .otaActivate (reqOtaActivateHandler r s.ota)⟩ := by
  by_cases hcalloc : r.calloc = false
  · rw [activate_noMem hcalloc]
    exact .noMem hcalloc (by rintro ⟨⟩)
  · by_cases hstatus : s.ota.otaStatus = .completed
    · by_cases hok : r.setBootPartition = espOk
      · obtain ⟨reply, hreply⟩ := activate_sets hcalloc hstatus hok
        rw [hreply]
        exact .activates hstatus
      · rw [activate_bootFails hcalloc hstatus hok, observe_bootFails hok]
        exact .bootFails hstatus hok
    · rw [activate_idle hcalloc hstatus]
      exact .idle hstatus

/-- **Inversion**: every step is one of these. -/
theorem step_effect {s s' : State} {a : Request × Results} (h : step s a = some s') :
    Effect s a.2 a.1 s' := by
  obtain ⟨o, ho, rfl⟩ := Option.map_eq_some_iff.1 h
  obtain ⟨req, r⟩ := a
  cases req with
  | otaBegin =>
    cases ho
    exact begin_effect s r
  | otaWrite data => exact write_effect ho
  | otaEnd =>
    cases ho
    exact end_effect s r
  | otaActivate =>
    cases ho
    exact activate_effect s r

end EspHostedOpen.Ota
