import EspHostedOpen.Lib.Ownership
import EspHostedOpen.Slave.SerialTx
import EspHostedOpen.Slave.Tlv

/-!
# A request on its way through the heap (`protocomm_pserial.c`, `slave_control.c`)

What `rpc_req_handler` and what it calls do with the objects that they allocate for one item of the
queue: the request and the response as trees, the packed response, and the buffer of the TLVs, which
`serial_write_data` frees. Which endpoint `protocomm_req_handle` finds, and whether `rpc__unpack`
accepts the data, is arbitrary. An unpacked request is one object, freed as a whole, and data that
is not accepted leaves nothing of it.

The response is what the handlers make it, node by node. `rpc__free_unpacked` frees the nodes that
it finds: those that a count and a case of the message lead to.
-/

namespace EspHostedOpen.RpcPipeline

open Ownership

inductive Obj
  | req
  | resp                                         -- the response itself
  | node (i : Nat)                               -- the i-th that its handler allocates for it
  | out                                          -- the packed response
  | tlv                                          -- the buffer of `compose_tlv`
  | ntfy
  deriving DecidableEq, Repr

abbrev Trace := List (Ownership.Event Obj)

/-- The handlers that are registered with `protocomm_add_endpoint`. -/
inductive Endpoint
  | dataTransferHandler
  | rpcEvtHandler
  deriving DecidableEq, Repr

def rpcEpNameRsp : List UInt8 := [82, 80, 67, 82, 115, 112]       -- `RPC_EP_NAME_RSP`
def rpcEpNameEvt : List UInt8 := [82, 80, 67, 69, 118, 116]       -- `RPC_EP_NAME_EVT`

def endpoints : List (List UInt8 × Endpoint) :=
  [(rpcEpNameRsp, .dataTransferHandler), (rpcEpNameEvt, .rpcEvtHandler)]

/-- What the calls made for an item come to. -/
structure Env where
  search : List UInt8 → Option Endpoint := fun name => List.lookup name endpoints
  calloc : Bool := true                          -- of the response, or of the event
  unpack : List UInt8 → Bool                     -- `rpc__unpack` returns a request
  nodes : Nat := 0                               -- how many nodes the request's handler allocates
  held : Nat → Bool := fun _ => true             -- `rpc__free_unpacked` finds the node
  packed : List UInt8                            -- the response, packed: its size is a `size_t`
  packedSize : packed.length < 4294967296
  callocOut : Bool := true
  callocTlv : Bool := true
  tx : Nat → SerialTx.TxEnv
  seqNum : UInt16

/-! ## `slave_control.c` -/

/-- `esp_rpc_command_dispatcher`. It returns `ESP_OK` whatever the handler does. -/
def espRpcCommandDispatcher (env : Env) : Trace :=
  [.use .req, .use .resp] ++ (List.range env.nodes).flatMap fun i =>
    [.create (.node i), .use (.node i)]

/-- `rpc__get_packed_size` and `rpc__pack`. -/
def walk (env : Env) : Trace :=
  .use .resp :: (List.range env.nodes).flatMap fun i => if env.held i then [.use (.node i)] else []

/-- `esp_rpc_cleanup`. -/
def espRpcCleanup (env : Env) : Trace :=
  (.use .resp :: (List.range env.nodes).flatMap fun i =>
    if env.held i then [.release (.node i)] else []) ++
    [.release .resp]

/-- `data_transfer_handler`, up to where the size of the response is known. -/
def respond (env : Env) : Trace :=
  [.create .resp, .create .req, .use .req, .use .resp] ++ espRpcCommandDispatcher env ++
    [.release .req] ++ walk env

/-- Its rest, where the response is packed. -/
def pack (env : Env) : Trace :=
  respond env ++ [.create .out] ++ walk env ++ [.use .out] ++ espRpcCleanup env

/-- `data_transfer_handler`, and what it leaves in `*outbuf`. -/
def dataTransferHandler (env : Env) (data : List UInt8) : Except EspErr (List UInt8) × Trace :=
  if !env.calloc then (.error espFail, [])
  else if !env.unpack data then (.error espFail, [.create .resp])
  else if Int32.ofNat env.packed.length ≤ 0 then (.error espFail, respond env ++ espRpcCleanup env)
  else if !env.callocOut then (.error espErrNoMem, respond env ++ espRpcCleanup env)
  else (.ok env.packed, pack env)

/-- `rpc_evt_handler`, of the session 0 that a request has: no event has this number. -/
def rpcEvtHandler (env : Env) : Except EspErr (List UInt8) × Trace :=
  if !env.calloc then (.error espFail, []) else (.error espFail,
    [.create .ntfy, .use .ntfy, .release .ntfy])

/-! ## `protocomm_pserial.c` -/

/-- `protocomm_req_handle`. -/
def protocommReqHandle (env : Env) (request : Tlv.Request) : Except EspErr (List UInt8) × Trace :=
  match env.search request.epname with
  | none => (.error espFail, [])
  | some .dataTransferHandler => dataTransferHandler env request.data
  | some .rpcEvtHandler => rpcEvtHandler env

/-- `compose_tlv`, and the buffer that it leaves in `*out`. -/
def composeTlv (env : Env) (out : List UInt8) : Option (EspErr × List UInt8 × Trace) :=
  (Tlv.composeTlv env.callocTlv (rpcEpNameRsp ++ [0]) out out.length.toUInt32).map
    fun (ret, c, _) =>
    (ret, c.buf, if ret = espOk then [.create .tlv, .use .out, .use .tlv, .release .out] else [])

/-- `xmit`, which is `serial_write_data`. -/
def xmit (env : Env) (out : List UInt8) : Option (EspErr × Trace) :=
  (SerialTx.serialWriteData out.length env.tx env.seqNum out).map fun r =>
    (r.ret, r.events.map (SerialTx.onBuffer .tlv))

/-- `rpc_req_handler` behind its parser. -/
def answer (env : Env) (request : Tlv.Request) : Option (EspErr × Trace) :=
  match protocommReqHandle env request with
  | (.error _, t) => some (espFail, t)
  | (.ok out, t) =>
    (composeTlv env out).bind fun (ret, out, composed) =>
      if ret ≠ espOk then some (espFail, t ++ composed)
      else
        (xmit env out).map fun (ret, sent) =>
          (if ret ≠ espOk then espFail else espOk, t ++ composed ++ sent)

/-- `rpc_req_handler`, of a request of `inLen` bytes at the start of the memory. -/
def rpcReqHandler (env : Env) (m : Tlv.Memory) (fuel : Nat) (inLen : UInt32) : Option
    (EspErr × Trace) :=
  (Tlv.rpcReqHandler m fuel inLen).bind fun
    | (_, .error e) => some (e, [])
    | (_, .ok request) => answer env request

/-- The request's data is unpacked, its handler leaves no node aside, and a packed response finds
memory for its TLVs. -/
structure Clean (env : Env) (data : List UInt8) : Prop where
  unpacks : env.unpack data = true
  held : ∀ i < env.nodes, env.held i = true
  composes : 0 < Int32.ofNat env.packed.length → env.callocOut = true → env.callocTlv = true

/-! ## The heap on the way -/

/-- The phases of the objects. -/
def heap (req resp : Phase) (node : Nat → Phase) (out tlv ntfy : Phase) : Obj → Phase
  | .req => req
  | .resp => resp
  | .node i => node i
  | .out => out
  | .tlv => tlv
  | .ntfy => ntfy

theorem heap_absent : heap .absent .absent (fun _ => .absent) .absent .absent .absent = fun _ =>
    .absent := by
  funext o
  cases o <;> rfl

/-- The nodes once the handler is done, and once the response is freed. -/
def allocated (env : Env) (i : Nat) : Phase := if i < env.nodes then .live else .absent
def cleaned (env : Env) (i : Nat) : Phase :=
  if i < env.nodes then if env.held i then .released else .live else .absent

variable {env : Env} {req out tlv ntfy : Phase}

/-- Something done with each node. -/
theorem leads_nodes {n : Nat} {f : Nat → Trace} {φ ψ : Obj → Phase}
    (hf : ∀ i, ∀ e ∈ f i, e.obj = .node i)
    (hnode : ∀ i < n, life (.node i) (φ (.node i)) (f i) = some (ψ (.node i)))
    (hrest : ∀ o, (∀ i < n, o ≠ .node i) → ψ o = φ o) : Leads φ ((List.range n).flatMap f) ψ := by
  intro o
  by_cases ho : ∃ i < n, o = .node i
  · obtain ⟨i, hi, rfl⟩ := ho
    have hne : ∀ j, j ≠ i → ∀ e ∈ f j, e.obj ≠ .node i := by
      intro j hji e he heq
      exact hji (Obj.node.inj ((hf j e he).symm.trans heq))
    rw [life_flatMap List.nodup_range (List.mem_range.2 hi) hne]
    exact hnode i hi
  · rw [hrest o fun i hi heq => ho ⟨i, hi, heq⟩]
    refine life_of_not_obj fun e he heq => ?_
    obtain ⟨i, hi, hei⟩ := List.mem_flatMap.1 he
    exact ho ⟨i, List.mem_range.1 hi, heq.symm.trans (hf i e hei)⟩

/-- What is done with a node that the response holds. -/
theorem obj_of_held {b : Bool} {e : Ownership.Event Obj} : ∀ e' ∈ (if b then [e] else []),
    e'.obj = e.obj := by
  intro e' he
  cases b with
  | false => cases he
  | true => rw [List.mem_singleton.1 he]

theorem leads_dispatcher : Leads (heap .live .live (fun _ => .absent) out tlv ntfy)
    (espRpcCommandDispatcher env)
    (heap .live .live (allocated env) out tlv ntfy) := by
  refine ((Leads.use rfl).append (Leads.use rfl)).append (leads_nodes ?_ ?_ ?_)
  · intro i e he
    rcases List.mem_cons.1 he with rfl | he
    · rfl
    · rw [List.mem_singleton.1 he]
      rfl
  · intro i hi
    have hlive : allocated env i = .live := if_pos hi
    simp only [heap, hlive]
    simp [life, Event.obj, Phase.next]
  · intro o ho
    cases o with
    | node i => exact if_neg fun hi => ho i hi rfl
    | _ => rfl

theorem leads_walk : Leads (heap req .live (allocated env) out tlv ntfy) (walk env)
    (heap req .live (allocated env) out tlv ntfy) := by
  refine (Leads.use rfl).append (leads_nodes (fun i => obj_of_held) ?_ fun _ _ => rfl)
  intro i hi
  have hlive : allocated env i = .live := if_pos hi
  simp only [heap, hlive]
  cases env.held i with
  | false => rfl
  | true => exact if_pos rfl

theorem leads_cleanup : Leads (heap req .live (allocated env) out tlv ntfy) (espRpcCleanup env)
    (heap req .released (cleaned env) out tlv ntfy) := by
  have hnodes : Leads (heap req .live (allocated env) out tlv ntfy)
      ((List.range env.nodes).flatMap fun i => if env.held i then [.release (.node i)] else [])
      (heap req .live (cleaned env) out tlv ntfy) := by
    refine leads_nodes (fun i => obj_of_held) ?_ ?_
    · intro i hi
      have hlive : allocated env i = .live := if_pos hi
      have hcleaned : cleaned env i = if env.held i then .released else .live := if_pos hi
      simp only [heap, hlive, hcleaned]
      cases env.held i with
      | false => rfl
      | true => exact if_pos rfl
    · intro o ho
      cases o with
      | node i =>
        have hi : ¬i < env.nodes := fun hi => ho i hi rfl
        exact (if_neg hi).trans (if_neg hi).symm
      | _ => rfl
  have hroot : Leads (heap req .live (cleaned env) out tlv ntfy) [.release .resp]
      (heap req .released (cleaned env) out tlv ntfy) := by
    intro o
    cases o <;> rfl
  exact ((Leads.use rfl).append hnodes).append hroot

/-- The request is freed before the response is packed. -/
theorem leads_respond : Leads (fun _ => .absent) (respond env)
    (heap .released .live (allocated env) .absent .absent .absent) := by
  have hstart : Leads (heap .absent .absent (fun _ => .absent) .absent .absent .absent)
      [.create .resp, .create .req, .use .req, .use .resp]
      (heap .live .live (fun _ => .absent) .absent .absent .absent) := by
    intro o
    cases o <;> rfl
  have hfree : Leads (heap .live .live (allocated env) .absent .absent .absent) [.release .req]
      (heap .released .live (allocated env) .absent .absent .absent) := by
    intro o
    cases o <;> rfl
  rw [← heap_absent]
  exact ((hstart.append leads_dispatcher).append hfree).append leads_walk

theorem leads_packed : Leads (fun _ => .absent) (pack env)
    (heap .released .released (cleaned env) .live .absent .absent) := by
  have hout : Leads (heap .released .live (allocated env) .absent .absent .absent) [.create .out]
      (heap .released .live (allocated env) .live .absent .absent) := by
    intro o
    cases o <;> rfl
  exact (((leads_respond.append hout).append leads_walk).append (Leads.use rfl)).append
    leads_cleanup

/-- What is left where all are freed. -/
theorem heap_settled_iff : (∀ o, heap req .released (cleaned env) out tlv ntfy o ≠ .live) ↔
    req ≠ .live ∧ out ≠ .live ∧ tlv ≠ .live ∧ ntfy ≠ .live ∧ ∀ i < env.nodes,
    env.held i = true := by
  have hnode : ∀ i, cleaned env i ≠ .live ↔ i < env.nodes → env.held i = true := by
    intro i
    unfold cleaned
    by_cases hi : i < env.nodes
    · rw [if_pos hi]
      cases env.held i <;> simp [hi]
    · rw [if_neg hi]
      simp [hi]
  constructor
  · intro h
    exact ⟨h .req, h .out, h .tlv, h .ntfy, fun i hi => (hnode i).1 (h (.node i)) hi⟩
  · rintro ⟨hreq, hout, htlv, hntfy, hheld⟩ o
    cases o with
    | req => exact hreq
    | resp => exact nofun
    | node i => exact (hnode i).2 (hheld i)
    | out => exact hout
    | tlv => exact htlv
    | ntfy => exact hntfy

/-- A size that is not too small for the `ssize_t`. -/
theorem size_lt {n : Nat} (hsize : n < 4294967296) (hpos : ¬Int32.ofNat n ≤ 0) :
    0 < n ∧ n < 2147483648 := by
  rw [Int32.le_iff_toInt_le, Int32.toInt_ofNat'] at hpos
  have hzero : (0 : Int32).toInt = 0 := rfl
  have hwidth : Int32.size = 4294967296 := rfl
  rw [hzero, Int.bmod_def, hwidth] at hpos
  omega

/-- The output is copied and freed. -/
theorem composeTlv_true {bytes : List UInt8} (htlv : env.callocTlv = true)
    (hlen : bytes.length < 2147483648) :
    ∃ buf, composeTlv env bytes =
      some (espOk, buf, [.create .tlv, .use .out, .use .tlv, .release .out]) ∧ 0 < buf.length := by
  have hep : rpcEpNameRsp.length = 6 := rfl
  obtain ⟨c, outlen, hcompose, hbuf, -⟩ :=
    Tlv.composeTlv_eq (show rpcEpNameRsp.length ≤ 14 by decide) (by decide)
      (show rpcEpNameRsp.length + bytes.length + 6 < 4294967296 by omega)
  refine ⟨c.buf, ?_, ?_⟩
  · rw [composeTlv, htlv, hcompose]
    rfl
  · rw [hbuf]
    exact Nat.lt_of_lt_of_le (by decide : 0 < 3) (by simp [Records.Record.bytes, Tlv.epnameTlv])

theorem composeTlv_false {bytes : List UInt8} (htlv : env.callocTlv = false) :
    composeTlv env bytes = some (espFail, bytes, []) := by
  rw [composeTlv, htlv]
  rfl

theorem leads_composed : Leads (heap req .released (cleaned env) .live .absent ntfy)
    [.create .tlv, .use .out, .use .tlv, .release .out]
    (heap req .released (cleaned env) .released .live ntfy) := by
  intro o
  cases o <;> rfl

/-- The transport frees the buffer. -/
theorem xmit_eq {buf : List UInt8} (hpos : 0 < buf.length) :
    ∃ t, xmit env buf = some (espOk, t) ∧
      Leads (heap req .released (cleaned env) .released .live ntfy) t
        (heap req .released (cleaned env) .released .released ntfy) := by
  have hrun := SerialTx.serialWriteData_eq env.tx env.seqNum buf (SerialTx.fragments_le hpos)
  obtain ⟨before, hevents, hfree⟩ := SerialTx.freed_turns env.tx env.seqNum buf.length
  refine ⟨_, by rw [xmit, hrun]; rfl, ?_⟩
  dsimp only
  rw [hevents]
  intro o
  by_cases ho : o = .tlv
  · subst ho
    exact SerialTx.life_onBuffer Obj.tlv hfree
  · have hsame : heap req .released (cleaned env) .released .released ntfy o =
        heap req .released (cleaned env) .released .live ntfy o := by
      cases o with
      | tlv => exact absurd rfl ho
      | _ => rfl
    rw [hsame]
    exact life_of_not_obj (SerialTx.onBuffer_obj_ne fun heq => ho heq.symm)

/-- What becomes of the objects of an item, as a call's result says it: nothing is touched at a
wrong time, and nothing is left if and only if `P`. -/
def Leaves (P : Prop) (t : Trace) : Prop := ∃ ψ, Leads (fun _ => .absent) t ψ ∧
    ((∀ o, ψ o ≠ .live) ↔ P)

theorem Leaves.settled_iff {P : Prop} {t : Trace} (h : Leaves P t) : Settled t ↔ P := by
  obtain ⟨ψ, hleads, hiff⟩ := h
  exact hleads.settled_iff.trans hiff

theorem Leaves.congr {P Q : Prop} {t : Trace} (h : Leaves P t) (hiff : P ↔ Q) : Leaves Q t := by
  obtain ⟨ψ, hleads, hlive⟩ := h
  exact ⟨ψ, hleads, hlive.trans hiff⟩

/-- What the endpoint of the responses does with the data. -/
theorem dataTransferHandler_cases (env : Env) (data : List UInt8) :
    (env.calloc = false ∧ dataTransferHandler env data = (.error espFail, [])) ∨
    (env.calloc = true ∧ env.unpack data = false ∧
      dataTransferHandler env data = (.error espFail, [.create .resp])) ∨
    (env.calloc = true ∧ env.unpack data = true ∧
      ¬(0 < Int32.ofNat env.packed.length ∧ env.callocOut = true) ∧
      ∃ e, dataTransferHandler env data = (.error e, respond env ++ espRpcCleanup env)) ∨
    (env.calloc = true ∧ env.unpack data = true ∧
      (0 < Int32.ofNat env.packed.length ∧ env.callocOut = true) ∧
      dataTransferHandler env data = (.ok env.packed, pack env)) := by
  unfold dataTransferHandler
  cases env.calloc with
  | false => exact .inl ⟨rfl, rfl⟩
  | true =>
    cases env.unpack data with
    | false => exact .inr (.inl ⟨rfl, rfl, rfl⟩)
    | true =>
      by_cases hsize : Int32.ofNat env.packed.length ≤ 0
      · refine .inr
          (.inr (.inl ⟨rfl, rfl, fun h => absurd h.1 (Int32.not_lt.2 hsize), espFail, ?_⟩))
        simp [hsize]
      · cases env.callocOut with
        | false => 
          refine .inr (.inr (.inl ⟨rfl, rfl, fun h => absurd h.2 nofun, espErrNoMem, ?_⟩))
          simp [hsize]
        | true =>
          refine .inr (.inr (.inr ⟨rfl, rfl, ⟨Int32.not_le.1 hsize, rfl⟩, ?_⟩))
          simp [hsize]

theorem leaves_nothing : Leaves True [] :=
  ⟨fun _ => .absent, Leads.nil, fun _ => trivial, fun _ _ => nofun⟩

theorem leaves_ntfy : Leaves True [.create .ntfy, .use .ntfy, .release .ntfy] := by
  refine ⟨heap .absent .absent (fun _ => .absent) .absent .absent .released, ?_, fun _ => trivial,
    fun _ o => ?_⟩
  · intro o
    cases o <;> rfl
  · cases o <;> exact nofun

theorem leaves_resp : Leaves False [.create .resp] := by
  refine ⟨heap .absent .live (fun _ => .absent) .absent .absent .absent, ?_, fun h =>
    h .resp rfl, False.elim⟩
  intro o
  cases o <;> rfl

theorem leaves_failed : Leaves (∀ i < env.nodes, env.held i = true)
    (respond env ++ espRpcCleanup env) := by
  refine ⟨_, leads_respond.append leads_cleanup, heap_settled_iff.trans ?_⟩
  exact ⟨fun h => h.2.2.2.2, fun h => ⟨nofun, nofun, nofun, nofun, h⟩⟩

theorem leaves_uncomposed : Leaves False (pack env) :=
  ⟨_, leads_packed, fun h => h .out rfl, False.elim⟩

theorem answer_leaves (env : Env) (request : Tlv.Request) :
    ∃ ret t, answer env request = some (ret, t) ∧
      Leaves (env.search request.epname = some .dataTransferHandler → env.calloc = true →
        Clean env request.data) t := by
  unfold answer protocommReqHandle
  cases hsearch : env.search request.epname with
  | none => exact ⟨espFail, [], rfl, leaves_nothing.congr ⟨fun _ => nofun, fun _ => trivial⟩⟩
  | some endpoint =>
    cases endpoint with
    | rpcEvtHandler =>
      unfold rpcEvtHandler
      cases env.calloc with
      | false => exact ⟨espFail, [], rfl, leaves_nothing.congr ⟨fun _ => nofun, fun _ => trivial⟩⟩
      | true => exact ⟨espFail, _, rfl, leaves_ntfy.congr ⟨fun _ => nofun, fun _ => trivial⟩⟩
    | dataTransferHandler =>
      dsimp only
      rcases dataTransferHandler_cases env request.data
        with ⟨hcalloc, heq⟩ | ⟨hcalloc, hunpack, heq⟩ |
        ⟨hcalloc, hunpack, hout, e, heq⟩ | ⟨hcalloc, hunpack, hout, heq⟩
      · rw [heq]
        refine ⟨espFail, [], rfl, leaves_nothing.congr ⟨fun _ _ h => ?_, fun _ => trivial⟩⟩
        cases h.symm.trans hcalloc
      · rw [heq]
        refine ⟨espFail, _, rfl, leaves_resp.congr ⟨False.elim, fun h => ?_⟩⟩
        cases (h rfl hcalloc).unpacks.symm.trans hunpack
      · rw [heq]
        refine ⟨espFail, _, rfl,
          leaves_failed.congr ⟨fun hheld _ _ => ?_, fun h => (h rfl hcalloc).held⟩⟩
        exact ⟨hunpack, hheld, fun hsize h => absurd ⟨hsize, h⟩ hout⟩
      · rw [heq]
        dsimp only
        cases htlv : env.callocTlv with
        | false =>
          rw [composeTlv_false htlv]
          refine ⟨espFail, pack env ++ [], rfl, ?_⟩
          rw [List.append_nil]
          refine leaves_uncomposed.congr ⟨False.elim, fun h => ?_⟩
          cases ((h rfl hcalloc).composes hout.1 hout.2).symm.trans htlv
        | true =>
          have hlen := size_lt env.packedSize (Int32.not_le.2 hout.1)
          obtain ⟨buf, hcompose, hbuf⟩ := composeTlv_true htlv hlen.2
          obtain ⟨sent, hxmit, hleads⟩ := xmit_eq hbuf
          rw [hcompose]
          refine ⟨espOk, pack env ++ [.create .tlv, .use .out, .use .tlv, .release .out] ++
            sent, ?_, _,
            (leads_packed.append leads_composed).append hleads, heap_settled_iff.trans ?_⟩
          · simp only [Option.bind_some, ne_eq, not_true_eq_false, if_false, hxmit, Option.map_some]
          · exact ⟨fun h _ _ => ⟨hunpack, h.2.2.2.2, fun _ _ => htlv⟩,
              fun h => ⟨nofun, nofun, nofun, nofun, (h rfl hcalloc).held⟩⟩

/-- **What the pipeline leaves**: nothing is used or freed at a wrong time, and all is freed, if and
only if an item whose data reaches `data_transfer_handler` is unpacked, loses no node and finds
memory for its TLVs. -/
theorem rpcReqHandler_settled_iff (env : Env) {m : Tlv.Memory} {fuel : Nat} {inLen : UInt32}
    {r : Except EspErr Tlv.Request}
    (hparse : (Tlv.rpcReqHandler m fuel inLen).map Prod.snd = some r) :
    ∃ ret t, rpcReqHandler env m fuel inLen = some (ret, t) ∧
      (Settled t ↔ ∀ request, r = .ok request → env.search request.epname =
        some .dataTransferHandler →
        env.calloc = true → Clean env request.data) := by
  obtain ⟨⟨p, r'⟩, hrun, hr⟩ := Option.map_eq_some_iff.1 hparse
  obtain rfl : r' = r := hr
  rw [rpcReqHandler, hrun, Option.bind_some]
  cases r' with
  | error e =>
    exact ⟨e, [], rfl, leaves_nothing.settled_iff.trans ⟨fun _ _ => nofun, fun _ => trivial⟩⟩
  | ok request =>
    obtain ⟨ret, t, hanswer, hleaves⟩ := answer_leaves env request
    refine ⟨ret, t, hanswer,
      hleaves.settled_iff.trans ⟨fun h request' heq => ?_, fun h => h request rfl⟩⟩
    cases heq
    exact h

/-- A request with two bytes of data. -/
def twoByteRequest (a b : UInt8) : List UInt8 := [1, 6, 0, 82, 80, 67, 82, 115, 112, 2, 2, 0, a, b]

/-- Of the messages here one is none: a tag that does not end. To the others the answer is that they
are not supported. -/
def twoByteEnv : Env where
  unpack := fun data => data != [255, 255]
  packed := [8, 2, 16, 128, 4]
  packedSize := by decide
  tx := fun _ => { write := 17 }
  seqNum := 0

/-- A request without an id is answered, and nothing is left. -/
theorem rpcReqHandler_twoByte :
    ∃ ret t, rpcReqHandler twoByteEnv (Tlv.memory (twoByteRequest 8 1) fun _ => 0) 5 14 =
      some (ret, t) ∧
      (Settled t ↔ ∀ request, (.ok ⟨rpcEpNameRsp, [8, 1]⟩ : Except EspErr Tlv.Request) =
        .ok request →
        twoByteEnv.search request.epname = some .dataTransferHandler → twoByteEnv.calloc = true →
          Clean twoByteEnv request.data) :=
  rpcReqHandler_settled_iff twoByteEnv (by decide +kernel)

/-- **A request that is no message leaves the response behind.** -/
theorem not_settled_garbage :
    ∃ ret t, rpcReqHandler twoByteEnv (Tlv.memory (twoByteRequest 255 255) fun _ => 0) 5 14 =
      some (ret, t) ∧
      ¬Settled t := by
  have hparse :
    (Tlv.rpcReqHandler (Tlv.memory (twoByteRequest 255 255) fun _ => 0) 5 14).map Prod.snd =
      some (.ok ⟨rpcEpNameRsp, [255, 255]⟩) := by
    decide +kernel
  obtain ⟨⟨p, r⟩, hrun, hr⟩ := Option.map_eq_some_iff.1 hparse
  obtain rfl : r = .ok ⟨rpcEpNameRsp, [255, 255]⟩ := hr
  refine ⟨espFail, [.create .resp], ?_, leaves_resp.settled_iff.not.2 not_false⟩
  rw [rpcReqHandler, hrun]
  rfl

end EspHostedOpen.RpcPipeline
