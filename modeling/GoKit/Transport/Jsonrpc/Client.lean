import Mathlib.Data.UInt
import Mathlib.Data.List.Range
import GoKit.Transport.Jsonrpc

/-!
# JSON-RPC client (`transport/http/jsonrpc`)

`NewAutoIncrementID(init)`, the request ID generator a `Client` starts with, keeps a counter at
`init - 1` and hands out `atomic.AddUint64(v, 1)`. The IDs are `init`, `init + 1`, ... modulo
`2^64`, also for `init = 0`, whose `init - 1` wraps; so the first `n` IDs, whether the calls are
concurrent or not, are pairwise distinct exactly when `n ≤ 2^64` (`autoIncrementID_ids`).

`Client.Endpoint` encodes the params, numbers the call, posts the JSON-RPC request and decodes the
JSON-RPC response it reads back with its response decoder. Over a connection to a `Server`
(`serving`), a call is answered as `ServeHTTP` answers it (`client_call_round_trip`):
`DefaultResponseDecoder` turns the server's error, at the method's lookup or in its handler, into
the call's error through the JSON-RPC `Error` (code and text), or returns the handler's result; and
where the server's `ServerBeforeCodec` hooks keep the request ID, the response carries the call's
ID.
-/

namespace GoKit.Transport.Jsonrpc

/-! ### Request IDs -/

/-- `autoIncrementID`, by the counter its pointer holds. -/
structure AutoIncrementID where
  v : UInt64

/-- `NewAutoIncrementID(init)`: `v := init - 1`. -/
def newAutoIncrementID (init : UInt64) : AutoIncrementID := ⟨init - 1⟩

/-- `Generate`: `atomic.AddUint64(i.v, 1)`, returning the value stored. -/
def AutoIncrementID.generate (i : AutoIncrementID) : UInt64 × AutoIncrementID :=
  (i.v + 1, ⟨i.v + 1⟩)

/-- The IDs of `n` calls of `Generate`, in the order of their atomic additions. -/
def AutoIncrementID.generateN (i : AutoIncrementID) : Nat → List UInt64
  | 0 => []
  | n + 1 => i.generate.1 :: i.generate.2.generateN n

theorem generateN_toNat (i : AutoIncrementID) (n : Nat) :
    (i.generateN n).map UInt64.toNat =
      (List.range n).map fun k => (i.v.toNat + 1 + k) % UInt64.size := by
  induction n generalizing i with
  | zero => rfl
  | succ n ih =>
    rw [AutoIncrementID.generateN, List.map_cons, ih, List.range_succ_eq_map, List.map_cons,
      List.map_map]
    simp only [AutoIncrementID.generate, toNat_add_one, Function.comp_def, UInt64.size]
    exact congrArg₂ List.cons (by omega) (List.map_congr_left fun k _ => by omega)

/-- `NewAutoIncrementID(init)` hands out `init`, `init + 1`, ... modulo `2^64`; so its first `n`
IDs are pairwise distinct exactly when `n ≤ 2^64`. -/
theorem autoIncrementID_ids (init : UInt64) (n : Nat) :
    ((newAutoIncrementID init).generateN n).map UInt64.toNat =
        (List.range n).map (fun k => (init.toNat + k) % UInt64.size) ∧
      (((newAutoIncrementID init).generateN n).Nodup ↔ n ≤ UInt64.size) := by
  have hwrap : ((init - 1).toNat + 1) % UInt64.size = init.toNat := by
    rw [← toNat_add_one, sub_add_cancel]
  have hids : ((newAutoIncrementID init).generateN n).map UInt64.toNat =
      (List.range n).map (fun k => (init.toNat + k) % UInt64.size) := by
    rw [generateN_toNat]
    refine List.map_congr_left fun k _ => ?_
    simp only [newAutoIncrementID, UInt64.size] at hwrap ⊢
    omega
  refine ⟨hids, ?_⟩
  rw [← List.nodup_map_iff (fun _ _ h => UInt64.toNat.inj h), hids,
    List.nodup_map_iff_inj_on (List.nodup_range n)]
  simp only [List.mem_range]
  constructor
  · intro h
    by_contra hn
    have := h 0 (by omega) UInt64.size (by omega) (by simp [UInt64.size])
    simp [UInt64.size] at this
  · intro hn x hx y hy hxy
    simp only [UInt64.size] at hxy hn
    omega

/-- `NewAutoIncrementID(0)` starts at `0`: its counter wraps to `2^64 - 1` first. -/
example : (newAutoIncrementID 0).generateN 3 = [0, 1, 2] := by decide

/-! ### The client -/

/-- `clientRequest`: the JSON-RPC request the client posts. -/
structure ClientRequest (Id Raw : Type) where
  jsonrpc : String
  method : String
  params : Raw
  id : Id

/-- What the client uses from outside `src/`: the constant `Version`, `context.WithValue` under
`ContextKeyRequestMethod`, `http.NewRequest` with the JSON of the request as its body, the HTTP
client's `Do`, the JSON decoding of the response body, and the values the finalizer's context
gets from a response (`ContextKeyResponseHeaders`, `ContextKeyResponseSize`). -/
structure ClientEnv (C Id Raw Body Resp Err : Type) where
  version : String
  withRequestMethod : C → String → C
  newRequest : ClientRequest Id Raw → Except Err Body
  doRequest : C → HttpRequest Body → Except Err Resp
  decodeResponse : Resp → Except Err (Response Id Raw)
  withResponse : C → Resp → C

/-- `Client`, with its `RequestIDGenerator` as a state machine on `γ`. The hooks' types are read
off their calls: a `before` hook reads the request, an `after` hook the response. -/
structure Client (C Id Raw Body Resp Err Req Res γ Obs : Type) where
  method : String
  enc : C → Req → Except Err Raw
  dec : C → Response Id Raw → Except Err Res
  before : List (C → HttpRequest Body → C)
  after : List (C → Resp → C)
  finalizer : Option (C → Option Err → Obs)
  requestID : γ → Id × γ

variable {C Id Raw Body Resp Err Req Res γ Obs U SErr DecErr : Type}

/-- `DefaultResponseDecoder`: the response's `Error` as the call's error, else `json.Unmarshal` of
its result, which fails when there is none. -/
def defaultResponseDecoder (ofError : Error → Err) (unmarshal : Option Raw → Except Err Res) (_ : C)
    (res : Response Id Raw) : Except Err Res :=
  match res.error with
  | some e => .error (ofError e)
  | none => unmarshal res.result

/-- `NewClient(tgt, method, options...)`: `DefaultRequestEncoder`, `json.Marshal` of the request,
`DefaultResponseDecoder`, and `NewAutoIncrementID(0)`, started by the caller at
`newAutoIncrementID 0`, its IDs sent as `ofID`. -/
def newClient (method : String) (marshal : Req → Except Err Raw) (ofError : Error → Err)
    (unmarshal : Option Raw → Except Err Res) (ofID : UInt64 → Id)
    (options : List (Client C Id Raw Body Resp Err Req Res AutoIncrementID Obs →
      Client C Id Raw Body Resp Err Req Res AutoIncrementID Obs)) :
    Client C Id Raw Body Resp Err Req Res AutoIncrementID Obs :=
  options.foldl (fun c option => option c)
    ⟨method, fun _ request => marshal request, defaultResponseDecoder ofError unmarshal, [], [], none,
      fun g => (ofID g.generate.1, g.generate.2)⟩

section Call
variable (env : ClientEnv C Id Raw Body Resp Err) (c : Client C Id Raw Body Resp Err Req Res γ Obs)

/-- `Client.Endpoint` up to its return, from the generator's state `g`: the last context, the
response received if any, the result, and the generator's next state. -/
def Client.call (g : γ) (ctx : C) (request : Req) : (C × Option Resp × Except Err Res) × γ :=
  let ctx := env.withRequestMethod ctx c.method
  match c.enc ctx request with
  | .error err => ((ctx, none, .error err), g)
  | .ok params =>
    let gen := c.requestID g
    match env.newRequest ⟨env.version, c.method, params, gen.1⟩ with
    | .error err => ((ctx, none, .error err), gen.2)
    | .ok body =>
      let req : HttpRequest Body := ⟨"POST", body⟩
      let ctx := c.before.foldl (fun x f => f x req) ctx
      match env.doRequest ctx req with
      | .error err => ((ctx, none, .error err), gen.2)
      | .ok resp =>
        let ctx := c.after.foldl (fun x f => f x resp) ctx
        ((ctx, some resp, (env.decodeResponse resp).bind (c.dec ctx)), gen.2)

/-- `Client.Endpoint`: the result, the finalizer's call, whose context carries the response's
headers and size when there is a response, and the generator's next state. -/
def Client.endpoint (g : γ) (ctx : C) (request : Req) : (Except Err Res × Option Obs) × γ :=
  let r := c.call env g ctx request
  let fctx := match r.1.2.1 with
    | some resp => env.withResponse r.1.1 resp
    | none => r.1.1
  ((r.1.2.2, c.finalizer.map fun f => f fctx (errorOf r.1.2.2)), r.2)

end Call

/-! ### A client calling a server -/

/-- What `json.NewDecoder(resp.Body).Decode(&rpcRes)` reads from the calls the server made on its
writer: the first payload written, which has to be a `Response`. -/
def readResponse (bodyError : Err) : List (WriterCall Id Raw) → Except Err (Response Id Raw)
  | [] => .error bodyError
  | .write (.json r) :: _ => .ok r
  | .write (.text _) :: _ => .error bodyError
  | .setHeader _ _ :: ws => readResponse bodyError ws
  | .writeHeader _ :: ws => readResponse bodyError ws

/-- Calls that write nothing to the body: headers and status codes. -/
def NoBody (ws : List (WriterCall Id Raw)) : Prop := ∀ p, WriterCall.write p ∉ ws

theorem readResponse_append {ws : List (WriterCall Id Raw)} (h : NoBody ws) (bodyError : Err)
    (ws' : List (WriterCall Id Raw)) :
    readResponse bodyError (ws ++ ws') = readResponse bodyError ws' := by
  induction ws with
  | nil => rfl
  | cons w ws ih =>
    have hws : NoBody ws := fun p hp => h p (List.mem_cons_of_mem _ hp)
    cases w with
    | setHeader k v => exact ih hws
    | writeHeader code => exact ih hws
    | write p => exact absurd (List.mem_cons_self _ _) (h p)

theorem runAfter_noBody {after : List (ServerResponseFunc U Id Raw)}
    (h : ∀ f ∈ after, ∀ u, NoBody (f u).2) (u : Ctx U Id) : NoBody (runAfter after u).2 := by
  induction after generalizing u with
  | nil => exact fun _ hp => absurd hp (List.not_mem_nil _)
  | cons f fs ih =>
    intro p hp
    rcases List.mem_append.mp hp with hp | hp
    · exact h f (List.mem_cons_self _ _) u p hp
    · exact ih (fun g hg => h g (List.mem_cons_of_mem _ hg)) _ p hp

/-- A handler made of an `EndpointCodec` writes only what the `after` hooks write. -/
theorem EndpointCodec.handle_noBody {Req Res : Type} (e : EndpointCodec U Id Raw SErr Req Res)
    {after : List (ServerResponseFunc U Id Raw)} (h : ∀ f ∈ after, ∀ u, NoBody (f u).2)
    (ctx : Ctx U Id) (params : Raw) : NoBody (e.handle ctx after params).2 := by
  unfold EndpointCodec.handle
  split
  · exact fun _ hp => absurd hp (List.not_mem_nil _)
  · split
    · exact fun _ hp => absurd hp (List.not_mem_nil _)
    · exact runAfter_noBody h _

/-- The body `DefaultErrorEncoder` writes is the `errorResponse`. -/
theorem readResponse_defaultErrorEncoder (senv : Env Body Id Raw SErr DecErr) (ctx : Ctx U Id)
    (err : SErr) (bodyError : Err) :
    readResponse bodyError (defaultErrorEncoder senv ctx err) = .ok (errorResponse senv ctx err) := by
  rw [defaultErrorEncoder, List.append_assoc, readResponse_append, readResponse_append]
  · rfl
  · simp [NoBody]
  · simp [NoBody]

/-- An HTTP connection to `s`: `Do` hands the request to `ServeHTTP`, in the request context
`accept` makes of the caller's, and the response is what it wrote. -/
def serving (senv : Env Body Id Raw SErr DecErr) (s : Server U Id Raw SErr Body Obs)
    (accept : C → Ctx U Id) : C → HttpRequest Body → Except Err (List (WriterCall Id Raw)) :=
  fun ctx req => .ok (serveHTTP senv s req (accept ctx)).writes

variable (senv : Env Body Id Raw SErr DecErr) (s : Server U Id Raw SErr Body Obs)

/-- What a client reads back from a `POST` whose body the server decodes, when the server has
`DefaultErrorEncoder` and its handlers write no body of their own: the `errorResponse` of the
method's lookup or of its handler, or the handler's result with the request's ID. -/
theorem readResponse_serveHTTP (hs : s.errorEncoder = defaultErrorEncoder senv)
    (hecm : ∀ m h, s.ecm m = some h → ∀ ctx params, NoBody (h ctx s.after params).2)
    {body : Body} {req : Request Id Raw} (hbody : senv.decodeBody body = .ok req) (u : Ctx U Id)
    (bodyError : Err) :
    let r : HttpRequest Body := ⟨"POST", body⟩
    let sctx : Ctx U Id := s.beforeCodec.foldl (fun c f => f c r req)
      { s.before.foldl (fun c f => f c r) u with requestID := some req.id, requestMethod := some req.method }
    readResponse bodyError (serveHTTP senv s r u).writes =
      .ok (match s.ecm req.method with
        | none => errorResponse senv sctx
            (senv.methodNotFoundError ("Method " ++ req.method ++ " was not found."))
        | some h =>
          match (h sctx s.after req.params).1 with
          | .error err => errorResponse senv sctx err
          | .ok result => { id := req.id, jsonrpc := senv.version, result := some result }) := by
  intro r sctx
  rw [serveHTTP_of_post senv s r u rfl]
  simp only [serveDecoded, hbody, hs]
  cases hm : s.ecm req.method with
  | none => exact readResponse_defaultErrorEncoder senv _ _ _
  | some h =>
    have hw := hecm _ h hm sctx req.params
    rcases hh : h sctx s.after req.params with ⟨_ | result, w⟩ <;> rw [hh] at hw <;>
      simp only [hh]
    · exact (readResponse_append hw _ _).trans (readResponse_defaultErrorEncoder senv _ _ _)
    · exact (readResponse_append hw _ _).trans rfl

/-- A client is transparent over an HTTP connection to a `Server` with `DefaultErrorEncoder` whose
handlers write no body of their own and whose `ServerBeforeCodec` hooks keep the request ID, for a
call whose posted body the server decodes back to the request sent: the client reads a JSON-RPC
response with the server's version and the call's ID, and returns, through
`DefaultResponseDecoder`, the `Error` (code and text) of the server's error at the method's lookup
or in its handler, or the handler's result, unmarshalled. -/
theorem client_call_round_trip {Fin : Type} (env : ClientEnv C Id Raw Body (List (WriterCall Id Raw)) Err)
    (c : Client C Id Raw Body (List (WriterCall Id Raw)) Err Req Res γ Fin) (accept : C → Ctx U Id)
    (bodyError : Err) (ofError : Error → Err) (unmarshal : Option Raw → Except Err Res)
    (hdo : env.doRequest = serving senv s accept) (hread : env.decodeResponse = readResponse bodyError)
    (hdec : c.dec = defaultResponseDecoder ofError unmarshal)
    (hs : s.errorEncoder = defaultErrorEncoder senv)
    (hecm : ∀ m h, s.ecm m = some h → ∀ ctx params, NoBody (h ctx s.after params).2)
    (hkeep : ∀ f ∈ s.beforeCodec, ∀ cx r q, (f cx r q).requestID = cx.requestID)
    (g : γ) (ctx : C) (request : Req) (params : Raw) (body : Body)
    (henc : c.enc (env.withRequestMethod ctx c.method) request = .ok params)
    (hreq : env.newRequest ⟨env.version, c.method, params, (c.requestID g).1⟩ = .ok body)
    (hbody : senv.decodeBody body = .ok ⟨some (c.requestID g).1, c.method, params⟩) :
    let id := (c.requestID g).1
    let r : HttpRequest Body := ⟨"POST", body⟩
    let sreq : Request Id Raw := ⟨some id, c.method, params⟩
    let u := accept (c.before.foldl (fun x f => f x r) (env.withRequestMethod ctx c.method))
    let sctx : Ctx U Id := s.beforeCodec.foldl (fun c f => f c r sreq)
      { s.before.foldl (fun c f => f c r) u with requestID := some (some id), requestMethod := some c.method }
    let toError := fun err => ofError ⟨(senv.errorCode err).getD senv.internalError, senv.errorText err⟩
    ∃ rpcRes : Response Id Raw,
      (c.call env g ctx request).1.2.1.map env.decodeResponse = some (.ok rpcRes) ∧
      rpcRes.id = some id ∧ rpcRes.jsonrpc = senv.version ∧
      (c.call env g ctx request).1.2.2 =
        match s.ecm c.method with
        | none => .error (toError (senv.methodNotFoundError ("Method " ++ c.method ++ " was not found.")))
        | some h =>
          match (h sctx s.after params).1 with
          | .error err => .error (toError err)
          | .ok result => unmarshal (some result) := by
  intro id r sreq u sctx toError
  have hread' := readResponse_serveHTTP senv s hs hecm hbody u bodyError
  have hcall : (c.call env g ctx request).1.2 =
      (some (serveHTTP senv s r u).writes, (readResponse bodyError (serveHTTP senv s r u).writes).bind
        (c.dec (c.after.foldl (fun x f => f x (serveHTTP senv s r u).writes)
          (c.before.foldl (fun x f => f x r) (env.withRequestMethod ctx c.method))))) := by
    simp only [Client.call, henc, hreq, hdo, hread]
    rfl
  have hid : sctx.requestID = some (some id) :=
    requestID_foldl_beforeCodec r (fun f hf cx q => hkeep f hf cx r q) sreq _
  rw [hcall]
  simp only [hread', hread, hdec, Option.map_some']
  refine ⟨_, rfl, ?_⟩
  cases s.ecm c.method with
  | none => exact ⟨congrArg Option.join hid, rfl, rfl⟩
  | some h =>
    dsimp only
    cases (h sctx s.after params).1 with
    | error err => exact ⟨congrArg Option.join hid, rfl, rfl⟩
    | ok result => exact ⟨rfl, rfl, rfl⟩

/-- The server's handler fails with `boom`: the client returns the `Error` it reads back, with the
call's ID `7` and `InternalError`'s code. -/
theorem client_call_round_trip_example :
    let senv : Env (Except String (Request Nat Unit)) Nat Unit String String :=
      ⟨"application/json; charset=utf-8", "2.0", -32603, id, id, id, fun _ => none, fun _ => none,
        id, id⟩
    let codec : EndpointCodec Unit Nat Unit String Unit Unit :=
      ⟨fun _ _ => .error "boom", fun _ _ => .ok (), fun _ _ => .ok ()⟩
    let s : Server Unit Nat Unit String (Except String (Request Nat Unit)) Unit :=
      ⟨fun _ => some codec.handle, [], [], [], defaultErrorEncoder senv, none⟩
    let accept : Unit → Ctx Unit Nat := fun _ => ⟨(), none, none⟩
    let env : ClientEnv Unit Nat Unit (Except String (Request Nat Unit)) (List (WriterCall Nat Unit))
        String :=
      ⟨"2.0", fun x _ => x, fun cr => .ok (.ok ⟨some cr.id, cr.method, cr.params⟩),
        serving senv s accept, readResponse "EOF", fun x _ => x⟩
    let c : Client Unit Nat Unit (Except String (Request Nat Unit)) (List (WriterCall Nat Unit)) String
        Unit Nat Nat Unit :=
      ⟨"add", fun _ _ => .ok (), defaultResponseDecoder Error.message (fun _ => .ok 0), [], [], none,
        fun g => (g, g + 1)⟩
    (c.call env 7 () ()).1.2.2 = .error "boom" ∧
    env.doRequest = serving senv s accept ∧ env.decodeResponse = readResponse "EOF" ∧
    c.dec = defaultResponseDecoder Error.message (fun _ => .ok 0) ∧
    s.errorEncoder = defaultErrorEncoder senv ∧
    (∀ m h, s.ecm m = some h → ∀ ctx params, NoBody (h ctx s.after params).2) ∧
    (∀ f ∈ s.beforeCodec, ∀ cx r q, (f cx r q).requestID = cx.requestID) ∧
    c.enc (env.withRequestMethod () c.method) () = .ok () ∧
    env.newRequest ⟨env.version, c.method, (), (c.requestID 7).1⟩ = .ok (.ok ⟨some 7, "add", ()⟩) ∧
    senv.decodeBody (.ok ⟨some 7, "add", ()⟩) = .ok ⟨some (c.requestID 7).1, c.method, ()⟩ ∧
    let id := (c.requestID 7).1
    let r : HttpRequest (Except String (Request Nat Unit)) := ⟨"POST", .ok ⟨some 7, "add", ()⟩⟩
    let sreq : Request Nat Unit := ⟨some id, c.method, ()⟩
    let u := accept (c.before.foldl (fun x f => f x r) (env.withRequestMethod () c.method))
    let sctx : Ctx Unit Nat := s.beforeCodec.foldl (fun c f => f c r sreq)
      { s.before.foldl (fun c f => f c r) u with requestID := some (some id), requestMethod := some c.method }
    let toError := fun err => Error.message
      ⟨(senv.errorCode err).getD senv.internalError, senv.errorText err⟩
    ∃ rpcRes : Response Nat Unit,
      (c.call env 7 () ()).1.2.1.map env.decodeResponse = some (.ok rpcRes) ∧
      rpcRes.id = some id ∧ rpcRes.jsonrpc = senv.version ∧
      (c.call env 7 () ()).1.2.2 =
        match s.ecm c.method with
        | none => .error (toError (senv.methodNotFoundError ("Method " ++ c.method ++ " was not found.")))
        | some h =>
          match (h sctx s.after ()).1 with
          | .error err => .error (toError err)
          | .ok result => (fun _ => .ok 0) (some result) := by
  intro senv codec s accept env c
  have hecm : ∀ m h, s.ecm m = some h → ∀ ctx params, NoBody (h ctx s.after params).2 :=
    fun _ _ hm ctx params => by
      cases hm
      exact EndpointCodec.handle_noBody codec (fun _ hf => absurd hf (List.not_mem_nil _)) ctx params
  have hkeep : ∀ f ∈ s.beforeCodec, ∀ cx r q, (f cx r q).requestID = cx.requestID :=
    fun _ hf => absurd hf (List.not_mem_nil _)
  exact ⟨rfl, rfl, rfl, rfl, rfl, hecm, hkeep, rfl, rfl, rfl,
    client_call_round_trip senv s env c accept "EOF" Error.message (fun _ => .ok 0) rfl rfl rfl rfl hecm
      hkeep 7 () () () (.ok ⟨some 7, "add", ()⟩) rfl rfl rfl⟩

end GoKit.Transport.Jsonrpc
