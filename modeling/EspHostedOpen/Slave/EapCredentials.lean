import EspHostedOpen.Lib.Transition
import EspHostedOpen.Proto.Messages
import Mathlib.Logic.Function.Basic

/-!
# EAP credentials (`slave_wifi_enterprise.c`)

The co-processor keeps the certificates and keys of the host in four buffers and hands the pointers
to the EAP client library, which does not copy: it keeps those of the last set that succeeded until
they are cleared or enterprise mode is disabled. What a call of `malloc` or of the library comes to
is arbitrary.

A handler is taken in steps: a `CLEAR_CERT`, a length with the buffer allocated for it, a call of
the library. A length and its pointer are assigned in one step. Each allocation has a name of its
own, so that a pointer to a freed buffer is not taken for one to a buffer allocated later at its
place.
-/

namespace EspHostedOpen.EapCredentials

open Transition

inductive Buffer
  | caCert
  | clientCert
  | privateKey
  | privateKeyPassword
  deriving DecidableEq, Repr

/-- What the library is asked. `esp_wifi_deinit` is not a call of the EAP client. -/
inductive LibCall
  | espEapClientSetCaCert
  | espEapClientClearCaCert
  | espEapClientSetCertificateAndKey
  | espEapClientClearCertificateAndKey
  | espWifiStaEnterpriseDisable
  | espWifiDeinit
  deriving DecidableEq, Repr

inductive Op
  | clear (b : Buffer)                           -- `CLEAR_CERT`
  | store (b : Buffer) (len : Int32)             -- the length, and `malloc` if it is not 0
  | lib (c : LibCall)
  deriving DecidableEq, Repr

abbrev Pointers := Buffer → Option Nat

structure State where
  ptr : Pointers := fun _ => none                -- `g_ca_cert` and the others
  len : Buffer → Int32 := fun _ => 0
  lib : Pointers := fun _ => none                -- what the library holds
  next : Nat := 0                                -- the next allocation's name
  freed : List Nat := []
  todo : List Op := []                           -- the rest of the handler

/-- A field of bytes of a request: whether its data is there, and the length that is sent beside
it. -/
structure Field where
  data : Bool
  len : Int32
  deriving DecidableEq, Repr

/-- The requests that touch the buffers. -/
inductive Request
  | eapSetCaCert (caCert : Field)
  | eapClearCaCert
  | eapSetCertificateAndKey (clientCert privateKey privateKeyPassword : Field)
  | eapClearCertificateAndKey
  | wifiStaEnterpriseDisable
  | wifiDeinit
  deriving DecidableEq, Repr

/-! ## The handlers -/

def freeGCaCert : List Op := [.clear .caCert]

def freeAllGEapCertAndKey : List Op :=
    [.clear .clientCert, .clear .privateKey, .clear .privateKeyPassword]

def reqEapSetCaCert (caCert : Field) : List Op :=
  if !caCert.data ∨ caCert.len ≤ 0 then []
  else freeGCaCert ++ [.store .caCert caCert.len, .lib .espEapClientSetCaCert]

def reqEapClearCaCert : List Op := freeGCaCert ++ [.lib .espEapClientClearCaCert]

/-- The check that `req_eap_set_certificate_and_key` makes of each field: bytes that have a
length. -/
def Field.refused (f : Field) : Prop := (f.data ∧ f.len ≤ 0) ∨ (f.len > 0 ∧ !f.data)

instance (f : Field) : Decidable f.refused := inferInstanceAs (Decidable (_ ∨ _))

def reqEapSetCertificateAndKey (clientCert privateKey privateKeyPassword : Field) : List Op :=
  if clientCert.refused ∨ privateKey.refused ∨ privateKeyPassword.refused then []
  else
    freeAllGEapCertAndKey ++ [.store .clientCert clientCert.len, .store .privateKey privateKey.len,
      .store .privateKeyPassword privateKeyPassword.len, .lib .espEapClientSetCertificateAndKey]

def reqEapClearCertificateAndKey : List Op :=
  freeAllGEapCertAndKey ++ [.lib .espEapClientClearCertificateAndKey]

def reqWifiStaEnterpriseDisable : List Op :=
  freeGCaCert ++ freeAllGEapCertAndKey ++ [.lib .espWifiStaEnterpriseDisable]

/-- `req_wifi_deinit`, with `H_WIFI_ENTERPRISE_SUPPORT`. -/
def reqWifiDeinit : List Op := freeGCaCert ++ freeAllGEapCertAndKey ++ [.lib .espWifiDeinit]

def handler : Request → List Op
  | .eapSetCaCert caCert => reqEapSetCaCert caCert
  | .eapClearCaCert => reqEapClearCaCert
  | .eapSetCertificateAndKey clientCert privateKey privateKeyPassword =>
    reqEapSetCertificateAndKey clientCert privateKey privateKeyPassword
  | .eapClearCertificateAndKey => reqEapClearCertificateAndKey
  | .wifiStaEnterpriseDisable => reqWifiStaEnterpriseDisable
  | .wifiDeinit => reqWifiDeinit

/-- What a handler still does where it finds no memory for the buffer: the private key and its
password free what there is, the certificates do not. -/
def onNoMem : Buffer → List Op
  | .caCert | .clientCert => []
  | .privateKey | .privateKeyPassword => freeAllGEapCertAndKey

/-- What the library holds after a call. -/
def LibCall.held (ptr lib : Pointers) : LibCall → Bool → Pointers
  | .espEapClientSetCaCert, true => Function.update lib .caCert (ptr .caCert)
  | .espEapClientClearCaCert, _ => Function.update lib .caCert none
  | .espEapClientSetCertificateAndKey, true => fun b => if b = .caCert then lib b else ptr b
  | .espEapClientClearCertificateAndKey, _ => fun b => if b = .caCert then lib b else none
  | .espWifiStaEnterpriseDisable, true => fun _ => none
  | _, _ => lib

/-- One step of a handler; `ok` is whether the allocation or the call of the library succeeds. -/
def exec (s : State) (todo : List Op) (ok : Bool) : Op → State
  | .clear b =>
    { s with
      ptr := Function.update s.ptr b none
      len := Function.update s.len b 0
      freed := (s.ptr b).toList ++ s.freed
      todo := todo }
  | .store b n =>
    let len := Function.update s.len b n
    if n = 0 then { s with len := len, todo := todo }
    else if ok then
      { s with ptr := Function.update s.ptr b (some s.next), len := len, next :=
        s.next + 1, todo := todo }
    else { s with ptr := Function.update s.ptr b none, len := len, todo := onNoMem b }
  | .lib c => { s with lib := c.held s.ptr s.lib ok, todo := todo }

/-- A request comes in, for which the response can be allocated or not, or the handler goes on. -/
inductive Action
  | request (r : Request) (resp : Bool)
  | go (ok : Bool)
  deriving DecidableEq, Repr

def step (s : State) : Action → Option State
  | .request r resp =>
    if s.todo = [] then some { s with todo := if resp then handler r else [] } else none
  | .go ok =>
    match s.todo with
    | [] => none
    | op :: todo => some (exec s todo ok op)

def boot : State := {}

/-- **The credentials are alive**: what the library holds has not been freed, and there is a buffer
beside each length that is not 0. -/
structure Alive (s : State) : Prop where
  held : ∀ b p, s.lib b = some p → p ∉ s.freed
  lengths : ∀ b, s.len b ≠ 0 → s.ptr b ≠ none

/-- The library holds nothing of a buffer that is cleared, and there is memory for what is
stored. -/
def Harmless (s : State) : Action → Prop
  | .request .. => True
  | .go ok =>
    match s.todo with
    | .clear b :: _ => s.lib b = none
    | .store _ n :: _ => n ≠ 0 → ok = true
    | _ => True

/-! ## Who holds what -/

/-- What a handler has before it: a buffer is stored where there is none. -/
def Prepared : Pointers → List Op → Prop
  | _, [] => True
  | ptr, .clear b :: todo => Prepared (Function.update ptr b none) todo
  | ptr, .store b _ :: todo => ptr b = none ∧ ∀ q, Prepared (Function.update ptr b q) todo
  | ptr, .lib _ :: todo => Prepared ptr todo

/-- What holds in every run: each buffer has its own allocation, and the library holds the buffers
that there are, or freed ones. -/
structure Owned (s : State) : Prop where
  fresh : ∀ b p, s.ptr b = some p → p < s.next ∧ p ∉ s.freed
  freed : ∀ p ∈ s.freed, p < s.next
  distinct : ∀ b b' p, s.ptr b = some p → s.ptr b' = some p → b = b'
  lib : ∀ b p, s.lib b = some p → s.ptr b = some p ∨ p ∈ s.freed
  prepared : Prepared s.ptr s.todo

variable {s s' : State} {a : Action} {b b' : Buffer} {p : Nat} {ptr lib : Pointers}
    {todo : List Op} {ok : Bool}

theorem prepared_handler (r : Request) : Prepared ptr (handler r) := by
  cases r with
  | eapSetCaCert caCert =>
    show Prepared ptr (reqEapSetCaCert caCert)
    unfold reqEapSetCaCert
    split
    · trivial
    · exact ⟨Function.update_self .., fun _ => trivial⟩
  | eapClearCaCert => trivial
  | eapSetCertificateAndKey clientCert privateKey privateKeyPassword =>
    show Prepared ptr (reqEapSetCertificateAndKey clientCert privateKey privateKeyPassword)
    unfold reqEapSetCertificateAndKey
    split
    · trivial
    · simp [Prepared, freeAllGEapCertAndKey]
  | eapClearCertificateAndKey => trivial
  | wifiStaEnterpriseDisable => trivial
  | wifiDeinit => trivial

theorem prepared_onNoMem (b : Buffer) : Prepared ptr (onNoMem b) := by
  cases b <;> trivial

/-- What the library gets from a call it had before, or there is. -/
theorem held_cases (c : LibCall) (h : c.held ptr lib ok b = some p) :
    lib b = some p ∨ ptr b = some p := by
  cases c with
  | espEapClientSetCaCert =>
    cases ok with
    | false => exact .inl h
    | true =>
      by_cases hb : b = .caCert
      · subst hb
        exact .inr (by simpa [LibCall.held] using h)
      · exact .inl (by simpa [LibCall.held, hb] using h)
  | espEapClientClearCaCert =>
    by_cases hb : b = .caCert
    · simp [LibCall.held, hb] at h
    · exact .inl (by simpa [LibCall.held, hb] using h)
  | espEapClientSetCertificateAndKey =>
    cases ok with
    | false => exact .inl h
    | true =>
      by_cases hb : b = .caCert
      · exact .inl (by simpa [LibCall.held, hb] using h)
      · exact .inr (by simpa [LibCall.held, hb] using h)
  | espEapClientClearCertificateAndKey =>
    by_cases hb : b = .caCert
    · exact .inl (by simpa [LibCall.held, hb] using h)
    · simp [LibCall.held, hb] at h
  | espWifiStaEnterpriseDisable =>
    cases ok with
    | false => exact .inl h
    | true => cases h
  | espWifiDeinit => exact .inl h

theorem ptr_of_clear (h : Function.update ptr b none b' = some p) : b' ≠ b ∧ ptr b' = some p := by
  by_cases hb : b' = b
  · rw [hb, Function.update_self] at h
    cases h
  · rw [Function.update_of_ne hb] at h
    exact ⟨hb, h⟩

theorem ptr_of_alloc {q : Nat} (h : Function.update ptr b (some q) b' = some p) :
    (b' = b ∧ q = p) ∨ (b' ≠ b ∧ ptr b' = some p) := by
  by_cases hb : b' = b
  · rw [hb, Function.update_self] at h
    exact .inl ⟨hb, Option.some_inj.1 h⟩
  · rw [Function.update_of_ne hb] at h
    exact .inr ⟨hb, h⟩

theorem mem_freed_clear : p ∈ (exec s todo ok (.clear b)).freed ↔ s.ptr b = some p ∨
    p ∈ s.freed := by
  simp [exec]

/-- What the library holds and has not been freed is still there. -/
theorem Owned.ptr_of_lib (h : Owned s) (hlib : s.lib b = some p) (hp : p ∉ s.freed) :
    s.ptr b = some p :=
  (h.lib b p hlib).resolve_right hp

/-! ## One step -/

theorem Owned.clear (h : Owned s) (htodo : Prepared (Function.update s.ptr b none) todo) :
    Owned (exec s todo ok (.clear b)) where
  fresh := by
    intro b' p hp
    obtain ⟨hne, hp⟩ := ptr_of_clear hp
    refine ⟨(h.fresh b' p hp).1, fun hmem => ?_⟩
    rcases mem_freed_clear.1 hmem with hb | hfreed
    · exact hne (h.distinct b' b p hp hb)
    · exact (h.fresh b' p hp).2 hfreed
  freed := by
    intro p hmem
    rcases mem_freed_clear.1 hmem with hb | hfreed
    · exact (h.fresh b p hb).1
    · exact h.freed p hfreed
  distinct := fun b' b'' p hp hp' => h.distinct b' b'' p (ptr_of_clear hp).2 (ptr_of_clear hp').2
  lib := by
    intro b' p hlib
    rcases h.lib b' p hlib with hp | hfreed
    · by_cases hb : b' = b
      · subst hb
        exact .inr (mem_freed_clear.2 (.inl hp))
      · exact .inl ((Function.update_of_ne hb _ _).trans hp)
    · exact .inr (mem_freed_clear.2 (.inr hfreed))
  prepared := htodo

/-- A new allocation is nobody else's. -/
theorem Owned.alloc (h : Owned s) (hnone : s.ptr b = none) {len : Buffer → Int32}
    (htodo : Prepared (Function.update s.ptr b (some s.next)) todo) :
    Owned { s with
      ptr := Function.update s.ptr b (some s.next), len := len,
      next := s.next + 1, todo := todo } where
  fresh := by
    intro b' p hp
    rcases ptr_of_alloc hp with ⟨-, rfl⟩ | ⟨-, hp⟩
    · exact ⟨Nat.lt_succ_self _, fun hmem => Nat.lt_irrefl _ (h.freed _ hmem)⟩
    · exact ⟨Nat.lt_succ_of_lt (h.fresh b' p hp).1, (h.fresh b' p hp).2⟩
  freed := fun p hmem => Nat.lt_succ_of_lt (h.freed p hmem)
  distinct := by
    intro b' b'' p hp hp'
    rcases ptr_of_alloc hp with ⟨rfl, rfl⟩ | ⟨-, hp⟩
    · rcases ptr_of_alloc hp' with ⟨rfl, -⟩ | ⟨-, hp'⟩
      · rfl
      · exact absurd (h.fresh b'' s.next hp').1 (Nat.lt_irrefl _)
    · rcases ptr_of_alloc hp' with ⟨-, rfl⟩ | ⟨-, hp'⟩
      · exact absurd (h.fresh b' s.next hp).1 (Nat.lt_irrefl _)
      · exact h.distinct b' b'' p hp hp'
  lib := by
    intro b' p hlib
    refine (h.lib b' p hlib).imp_left fun hp => ?_
    have hb : b' ≠ b := by
      rintro rfl
      cases hnone.symm.trans hp
    exact (Function.update_of_ne hb _ _).trans hp
  prepared := htodo

theorem Owned.store {n : Int32} (h : Owned s) (hnone : s.ptr b = none)
    (htodo : ∀ q, Prepared (Function.update s.ptr b q) todo) : Owned (exec s todo ok
      (.store b n)) := by
  have hsame : Function.update s.ptr b none = s.ptr := by
    rw [← hnone, Function.update_eq_self]
  unfold exec
  dsimp only
  split
  · exact ⟨h.fresh, h.freed, h.distinct, h.lib, hsame ▸ htodo none⟩
  · split
    · exact h.alloc hnone (htodo _)
    · rw [hsame]
      exact ⟨h.fresh, h.freed, h.distinct, h.lib, prepared_onNoMem b⟩

theorem Owned.libCall {c : LibCall} (h : Owned s) (htodo : Prepared s.ptr todo) :
    Owned (exec s todo ok (.lib c)) where
  fresh := h.fresh
  freed := h.freed
  distinct := h.distinct
  lib := by
    intro b p hheld
    rcases held_cases c hheld with hlib | hp
    · exact h.lib b p hlib
    · exact .inl hp
  prepared := htodo

theorem Owned.step (h : Owned s) (hstep : step s a = some s') : Owned s' := by
  cases a with
  | request r resp =>
    obtain ⟨-, hs⟩ := Option.ite_none_right_eq_some.1 hstep
    cases hs
    refine ⟨h.fresh, h.freed, h.distinct, h.lib, ?_⟩
    cases resp with
    | false => trivial
    | true => exact prepared_handler r
  | go ok =>
    have hprepared := h.prepared
    unfold EapCredentials.step at hstep
    dsimp only at hstep
    split at hstep
    · cases hstep
    · rename_i op todo htodo
      rw [htodo] at hprepared
      cases hstep
      cases op with
      | clear b => exact h.clear hprepared
      | store b n => exact h.store hprepared.1 hprepared.2
      | lib c => exact h.libCall hprepared

/-! ## What a step does to the credentials -/

theorem alive_clear_iff (h : Owned s) (halive : Alive s) : Alive (exec s todo ok (.clear b)) ↔
    s.lib b = none := by
  constructor
  · intro halive'
    by_contra hlib
    obtain ⟨p, hp⟩ := Option.ne_none_iff_exists'.1 hlib
    have hptr := h.ptr_of_lib hp (halive.held b p hp)
    exact halive'.held b p hp (mem_freed_clear.2 (.inl hptr))
  · intro hnone
    constructor
    · intro b' p hp hmem
      rcases mem_freed_clear.1 hmem with hptr | hfreed
      · obtain rfl := h.distinct b' b p (h.ptr_of_lib hp (halive.held b' p hp)) hptr
        cases hnone.symm.trans hp
      · exact halive.held b' p hp hfreed
    · intro b' hlen hptr
      by_cases hb : b' = b
      · subst hb
        exact hlen (Function.update_self ..)
      · exact halive.lengths b' (fun hzero => hlen ((Function.update_of_ne hb _ _).trans hzero))
          ((Function.update_of_ne hb _ _).symm.trans hptr)

theorem alive_store_iff {n : Int32} (halive : Alive s) :
    Alive (exec s todo ok (.store b n)) ↔ (n ≠ 0 → ok = true) := by
  have hold : ∀ {b'}, b' ≠ b → Function.update s.len b n b' ≠ 0 → s.ptr b' ≠ none := by
    intro b' hb hlen
    rw [Function.update_of_ne hb] at hlen
    exact halive.lengths b' hlen
  unfold exec
  dsimp only
  by_cases hn : n = 0
  · rw [if_pos hn]
    refine iff_of_true ⟨halive.held, fun b' hlen => ?_⟩ (absurd hn)
    by_cases hb : b' = b
    · subst hb
      exact absurd ((Function.update_self ..).trans hn) hlen
    · exact hold hb hlen
  · rw [if_neg hn]
    cases ok with
    | true =>
      refine iff_of_true ⟨halive.held, fun b' hlen hptr => ?_⟩ fun _ => rfl
      by_cases hb : b' = b
      · subst hb
        cases (Function.update_self ..).symm.trans hptr
      · exact hold hb hlen ((Function.update_of_ne hb _ _).symm.trans hptr)
    | false =>
      refine iff_of_false (fun h => h.lengths b (fun hzero => hn ?_) (Function.update_self ..))
        fun h => ?_
      · exact (Function.update_self ..).symm.trans hzero
      · cases h hn

theorem alive_libCall {c : LibCall} (h : Owned s) (halive : Alive s) :
    Alive (exec s todo ok (.lib c)) where
  held := by
    intro b p hheld
    rcases held_cases c hheld with hlib | hp
    · exact halive.held b p hlib
    · exact (h.fresh b p hp).2
  lengths := halive.lengths

theorem alive_step_iff (h : Owned s) (halive : Alive s) (hstep : step s a = some s') :
    Alive s' ↔ Harmless s a := by
  cases a with
  | request r resp =>
    obtain ⟨-, hs⟩ := Option.ite_none_right_eq_some.1 hstep
    cases hs
    exact iff_of_true ⟨halive.held, halive.lengths⟩ trivial
  | go ok =>
    unfold EapCredentials.step at hstep
    unfold Harmless
    dsimp only at hstep ⊢
    split at hstep
    · cases hstep
    · rename_i op todo htodo
      cases hstep
      rw [htodo]
      cases op with
      | clear b => exact alive_clear_iff h halive
      | store b n => exact alive_store_iff halive
      | lib c => exact iff_of_true (alive_libCall h halive) trivial

/-- What cannot be done does no harm. -/
theorem harmless_of_stuck (h : step s a = none) : Harmless s a := by
  cases a with
  | request r resp => trivial
  | go ok =>
    unfold EapCredentials.step at h
    unfold Harmless
    dsimp only at h ⊢
    split at h
    · rename_i htodo
      rw [htodo]
      trivial
    · cases h

theorem owned_boot : Owned boot where
  fresh := nofun
  freed := nofun
  distinct := nofun
  lib := nofun
  prepared := trivial

theorem alive_boot : Alive boot := ⟨nofun, fun _ h => absurd rfl h⟩

/-- **When the credentials stay alive**: throughout a run, if and only if none of its steps clears a
buffer that the library holds, or finds no memory for one. -/
theorem credentials_alive_iff (as : List Action) : AllStates step Alive boot as ↔
    AllSteps step Harmless boot as :=
  allStates_iff_allSteps_of_stuck Owned.step alive_step_iff harmless_of_stuck owned_boot alive_boot

/-- The host sets a CA certificate and then clears it. -/
def setThenClear : List Action :=
  [.request (.eapSetCaCert ⟨true, 10⟩) true, .go true, .go true, .go true,
    .request .eapClearCaCert true, .go true]

/-- **The certificate is freed while the library holds it.** -/
theorem not_alive_setThenClear : ¬AllStates step Alive boot setThenClear := by
  intro h
  have hlast := h.last (show run step boot setThenClear = some _ from rfl)
  exact hlast.held .caCert 0 rfl (by decide)

end EspHostedOpen.EapCredentials
