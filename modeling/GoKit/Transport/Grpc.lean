import GoKit.Endpoint

/-!
# gRPC transport (`transport/grpc`)

`Server.ServeGRPC` runs a request through the `before` hooks, which read the incoming metadata,
the decoder, the endpoint, the `after` hooks, which may set the response's header and trailer
metadata, and the encoder, and then sends the header and the trailer if they are not empty. The
first stage that fails hands its error to the error handler and returns it; the finalizers,
deferred, see the last context and the returned error. `Client.Endpoint` is the other end: it
records the method in the context, encodes the request, lets its `before` hooks fill the outgoing
metadata, invokes the method on the connection and gives the header and trailer it receives to
its `after` hooks before decoding the reply.

`Runtime` is what the two ends call of `context`, `metadata` and the gRPC library, none of which is
under `src/`; `Runtime.connect` is a connection whose calls are served by a `Server`. The transport
adds its own keys to the metadata it carries (`:authority`, `content-type`, `user-agent`) and
drops reserved ones, so the connection takes what the server reads from an incoming context, and
what the client receives of a header and a trailer, as they are. Over it a client is transparent
(`client_server_round_trip`): when the two codecs invert each other, a call returns what the
server's endpoint returned, errors converted to the connection's status errors; the server's
`before` hooks read the metadata delivered for the client's, and the client's `after` hooks get
the header and trailer the server's `after` hooks set, as the transport delivers them.
-/

namespace GoKit.Transport.Grpc

/-- `metadata.MD`, a map from keys to values, by its entries. -/
abbrev MD := List (String × List String)

/-- The calls the code makes outside `src/`: `context.WithValue` under `ContextKeyRequestMethod`,
`metadata.NewOutgoingContext`, `metadata.FromIncomingContext`, `grpc.SendHeader`,
`grpc.SetTrailer`, and `ClientConn.Invoke` with the `grpc.Header` and `grpc.Trailer` options,
which answers the reply with the header and trailer received. -/
structure Runtime (Ctx Err Wire : Type) where
  withRequestMethod : Ctx → String → Ctx
  newOutgoingContext : Ctx → MD → Ctx
  fromIncomingContext : Ctx → Option MD
  sendHeader : Ctx → MD → Option Err
  setTrailer : Ctx → MD → Option Err
  invoke : Ctx → String → Wire → Except Err (Wire × MD × MD)

variable {Ctx Req Res Err Wire Obs : Type}

/-! ### The server -/

/-- `Server`. The hooks' types are read off their calls, their declarations not being under
`src/`: an `after` hook may set the header and the trailer through its pointers. -/
structure Server (Ctx Req Res Err Wire Obs : Type) where
  e : Endpoint Ctx Req Res Err
  dec : Ctx → Wire → Except Err Req
  enc : Ctx → Res → Except Err Wire
  before : List (Ctx → MD → Ctx)
  after : List (Ctx → MD → MD → Ctx × MD × MD)
  finalizer : List (Ctx → Option Err → Obs)

/-- `NewServer`, the options applied in order. The error handler's calls are recorded by
`serveStages`, so the default `NewLogErrorHandler(log.NewNopLogger())` has no field. -/
def newServer (e : Endpoint Ctx Req Res Err) (dec : Ctx → Wire → Except Err Req)
    (enc : Ctx → Res → Except Err Wire)
    (options : List (Server Ctx Req Res Err Wire Obs → Server Ctx Req Res Err Wire Obs)) :
    Server Ctx Req Res Err Wire Obs :=
  options.foldl (fun s option => option s) ⟨e, dec, enc, [], [], []⟩

/-- `ServerFinalizer`: adds finalizers to those registered. -/
def serverFinalizer (f : List (Ctx → Option Err → Obs)) (s : Server Ctx Req Res Err Wire Obs) :
    Server Ctx Req Res Err Wire Obs :=
  { s with finalizer := s.finalizer ++ f }

theorem newServer_append_serverFinalizer (e : Endpoint Ctx Req Res Err)
    (dec : Ctx → Wire → Except Err Req) (enc : Ctx → Res → Except Err Wire)
    (options : List (Server Ctx Req Res Err Wire Obs → Server Ctx Req Res Err Wire Obs))
    (f : List (Ctx → Option Err → Obs)) :
    (newServer e dec enc (options ++ [serverFinalizer f])).finalizer =
      (newServer e dec enc options).finalizer ++ f := by
  simp [newServer, serverFinalizer]

/-- What `ServeGRPC` did up to its return: the returned context, the response or the error, the
header and trailer sent, and the calls of `errorHandler.Handle`. -/
structure Outcome (Ctx Err Wire : Type) where
  ctx : Ctx
  result : Except Err Wire
  header : MD
  trailer : MD
  handled : List (Ctx × Err)

/-- A failing stage: `s.errorHandler.Handle(ctx, err)`, then `return ctx, nil, err`, with the
header already sent. -/
def Outcome.fail (ctx : Ctx) (err : Err) (header : MD) : Outcome Ctx Err Wire :=
  ⟨ctx, .error err, header, [], [(ctx, err)]⟩

/-- The `after` hooks, from an empty header and trailer. -/
def runAfter (after : List (Ctx → MD → MD → Ctx × MD × MD)) (ctx : Ctx) : Ctx × MD × MD :=
  after.foldl (fun a f => f a.1 a.2.1 a.2.2) (ctx, [], [])

/-- `if len(md) > 0 { err = send(ctx, md) }`. -/
def sendMetadata (send : Ctx → MD → Option Err) (ctx : Ctx) (md : MD) : Option Err :=
  if md.length > 0 then send ctx md else none

theorem sendMetadata_eq_none {send : Ctx → MD → Option Err} (h : ∀ ctx md, send ctx md = none)
    (ctx : Ctx) (md : MD) : sendMetadata send ctx md = none := by
  simp [sendMetadata, h]

variable (rt : Runtime Ctx Err Wire) (s : Server Ctx Req Res Err Wire Obs)

/-- `ServeGRPC` after the `before` hooks. -/
def serveStages (ctx : Ctx) (req : Wire) : Outcome Ctx Err Wire :=
  match s.dec ctx req with
  | .error err => .fail ctx err []
  | .ok request =>
    match s.e ctx request with
    | .error err => .fail ctx err []
    | .ok response =>
      let a := runAfter s.after ctx
      match s.enc a.1 response with
      | .error err => .fail a.1 err []
      | .ok grpcResp =>
        match sendMetadata rt.sendHeader a.1 a.2.1 with
        | some err => .fail a.1 err []
        | none =>
          match sendMetadata rt.setTrailer a.1 a.2.2 with
          | some err => .fail a.1 err a.2.1
          | none => ⟨a.1, .ok grpcResp, a.2.1, a.2.2, []⟩

/-- `Server.ServeGRPC`: the outcome, and the finalizers' calls with the last context and the
returned error. -/
def serveGRPC (ctx : Ctx) (req : Wire) : Outcome Ctx Err Wire × List Obs :=
  let md := (rt.fromIncomingContext ctx).getD []
  let o := serveStages rt s (s.before.foldl (fun c f => f c md) ctx) req
  (o, s.finalizer.map fun f => f o.ctx (errorOf o.result))

/-- The error handler was handed the returned error once, with the returned context, or nothing
if the request succeeded. -/
def Outcome.HandledOnce (o : Outcome Ctx Err Wire) : Prop :=
  o.handled = ((errorOf o.result).map (o.ctx, ·)).toList

/-- Every request that fails hands its error to the error handler exactly once, and one that
succeeds hands it nothing. -/
theorem serveStages_handledOnce (ctx : Ctx) (req : Wire) : (serveStages rt s ctx req).HandledOnce := by
  unfold serveStages
  dsimp only
  repeat' split
  all_goals rfl

/-- Over a connection that delivers its metadata, a request that decodes is answered with the
encoding of the endpoint's response, with the header and trailer of the `after` hooks. -/
theorem serveStages_of_dec (hsend : ∀ ctx md, rt.sendHeader ctx md = none ∧ rt.setTrailer ctx md = none)
    {ctx : Ctx} {req : Wire} {request : Req} (hdec : s.dec ctx req = .ok request) :
    (serveStages rt s ctx req).result =
        (s.e ctx request).bind (s.enc (runAfter s.after ctx).1) ∧
      ∀ w, (serveStages rt s ctx req).result = .ok w →
        (serveStages rt s ctx req).header = (runAfter s.after ctx).2.1 ∧
          (serveStages rt s ctx req).trailer = (runAfter s.after ctx).2.2 := by
  unfold serveStages
  rw [hdec]
  dsimp only
  cases s.e ctx request with
  | error err => exact ⟨rfl, fun _ h => nomatch h⟩
  | ok response =>
    dsimp only [Except.bind]
    cases s.enc (runAfter s.after ctx).1 response with
    | error err => exact ⟨rfl, fun _ h => nomatch h⟩
    | ok w =>
      simp [sendMetadata_eq_none fun c m => (hsend c m).1, sendMetadata_eq_none fun c m => (hsend c m).2]

/-! ### The client -/

/-- `Client`, by its method's full name. The reply's type, kept by `reflect`, is `Wire`. A
`before` hook may write the outgoing metadata through its pointer. -/
structure Client (Ctx Req Res Err Wire Obs : Type) where
  method : String
  enc : Ctx → Req → Except Err Wire
  dec : Ctx → Wire → Except Err Res
  before : List (Ctx → MD → Ctx × MD)
  after : List (Ctx → MD → MD → Ctx)
  finalizer : List (Ctx → Option Err → Obs)

/-- `NewClient`, the options applied in order. -/
def newClient (serviceName method : String) (enc : Ctx → Req → Except Err Wire)
    (dec : Ctx → Wire → Except Err Res)
    (options : List (Client Ctx Req Res Err Wire Obs → Client Ctx Req Res Err Wire Obs)) :
    Client Ctx Req Res Err Wire Obs :=
  options.foldl (fun c option => option c) ⟨"/" ++ serviceName ++ "/" ++ method, enc, dec, [], [], []⟩

variable (c : Client Ctx Req Res Err Wire Obs)

/-- The `before` hooks, from empty outgoing metadata. -/
def Client.runBefore (ctx : Ctx) : Ctx × MD :=
  c.before.foldl (fun a f => f a.1 a.2) (ctx, [])

/-- `Client.Endpoint` up to its return: the last context and the result. -/
def Client.call (ctx : Ctx) (request : Req) : Ctx × Except Err Res :=
  let ctx := rt.withRequestMethod ctx c.method
  match c.enc ctx request with
  | .error err => (ctx, .error err)
  | .ok req =>
    let b := c.runBefore ctx
    let ctx := rt.newOutgoingContext b.1 b.2
    match rt.invoke ctx c.method req with
    | .error err => (ctx, .error err)
    | .ok (grpcReply, header, trailer) =>
      let ctx := c.after.foldl (fun x f => f x header trailer) ctx
      (ctx, c.dec ctx grpcReply)

/-- `Client.Endpoint`: the result, and the finalizers' calls with the last context and the
returned error. -/
def Client.endpoint (ctx : Ctx) (request : Req) : Except Err Res × List Obs :=
  let r := c.call rt ctx request
  (r.2, c.finalizer.map fun f => f r.1 (errorOf r.2))

/-! ### A client calling a server -/

/-- A connection whose calls are served by `s`: the server runs in the context `accept` makes of
the call's, its error `err` reaches the caller as `status err`, and the header and trailer it sends
reach the caller as `header` and `trailer` make them. -/
def Runtime.connect (accept : Ctx → Ctx) (status : Err → Err) (header trailer : MD → MD) :
    Runtime Ctx Err Wire :=
  { rt with
    invoke := fun ctx _ req =>
      let o := (serveGRPC rt s (accept ctx) req).1
      match o.result with
      | .error err => .error (status err)
      | .ok reply => .ok (reply, header o.header, trailer o.trailer) }

section Connect
variable (accept : Ctx → Ctx) (status : Err → Err) (header trailer : MD → MD)

@[simp] theorem connect_withRequestMethod :
    (rt.connect s accept status header trailer).withRequestMethod = rt.withRequestMethod := rfl

@[simp] theorem connect_newOutgoingContext :
    (rt.connect s accept status header trailer).newOutgoingContext = rt.newOutgoingContext := rfl

/-- A call is served in the context the server's `before` hooks make of the metadata the runtime
delivers, and answered with the outcome's reply, header and trailer, or its error converted. -/
theorem connect_invoke (ctx : Ctx) (method : String) (req : Wire) :
    let o := serveStages rt s
      (s.before.foldl (fun x f => f x ((rt.fromIncomingContext (accept ctx)).getD [])) (accept ctx)) req
    (rt.connect s accept status header trailer).invoke ctx method req =
      (o.result.mapError status).map fun reply => (reply, header o.header, trailer o.trailer) := by
  intro o
  simp only [Runtime.connect, serveGRPC]
  cases o.result <;> rfl

end Connect

/-- A client is transparent over a connection to a server whose codecs invert its own: a call
returns what the server's endpoint returned, in the context the server's `before` hooks make of
the metadata the runtime delivers for the context the client's `before` hooks wrote, errors
converted by the connection; and the client's `after` hooks are given the header and trailer the
server's `after` hooks set, as the transport delivers them. -/
theorem client_server_round_trip (accept : Ctx → Ctx) (status : Err → Err) (header trailer : MD → MD)
    {Fin : Type} (c : Client Ctx Req Res Err Wire Fin)
    (hsend : ∀ ctx md, rt.sendHeader ctx md = none ∧ rt.setTrailer ctx md = none)
    (hreq : ∀ cx sx request, (c.enc cx request).bind (s.dec sx) = .ok request)
    (hres : ∀ sx cx response, (s.enc sx response).bind (c.dec cx) = .ok response)
    (ctx : Ctx) (request : Req) :
    let b := c.runBefore (rt.withRequestMethod ctx c.method)
    let incoming := accept (rt.newOutgoingContext b.1 b.2)
    let sctx := s.before.foldl (fun x f => f x ((rt.fromIncomingContext incoming).getD [])) incoming
    let r := c.call (rt.connect s accept status header trailer) ctx request
    r.2 = (s.e sctx request).mapError status ∧
      ∀ response, s.e sctx request = .ok response →
        r.1 = c.after.foldl
          (fun x f => f x (header (runAfter s.after sctx).2.1) (trailer (runAfter s.after sctx).2.2))
          (rt.newOutgoingContext b.1 b.2) := by
  intro b incoming sctx r
  obtain ⟨req, henc, hdec⟩ := bind_eq_ok (hreq (rt.withRequestMethod ctx c.method) sctx request)
  obtain ⟨hresult, hmeta⟩ := serveStages_of_dec rt s hsend hdec
  have hr : r = c.call (rt.connect s accept status header trailer) ctx request := rfl
  simp only [Client.call, connect_withRequestMethod, connect_newOutgoingContext, henc,
    connect_invoke rt s accept status header trailer] at hr
  cases he : s.e sctx request with
  | error err =>
    simp only [hr, hresult, he]
    exact ⟨rfl, fun _ h => nomatch h⟩
  | ok response =>
    obtain ⟨w, hw, -⟩ := bind_eq_ok (hres (runAfter s.after sctx).1 ctx response)
    have hdec' : ∀ cx, c.dec cx w = .ok response := fun cx => by
      simpa [hw] using hres (runAfter s.after sctx).1 cx response
    have hok : (serveStages rt s sctx req).result = .ok w := by rw [hresult, he]; exact hw
    obtain ⟨hh, ht⟩ := hmeta w hok
    simp [hr, hok, hh, ht, Except.mapError, Except.map, hdec']

/-- The server's endpoint answers only a call carrying the client's correlation header, and its
`after` hook sets a response header that the client's `after` hook keeps as its context; the
transport adds its own `content-type` to the header. -/
theorem client_server_round_trip_example :
    let rt : Runtime MD String Nat :=
      ⟨fun ctx _ => ctx, fun _ md => md, some, fun _ _ => none, fun _ _ => none, fun _ _ _ => .error ""⟩
    let s : Server MD Nat Nat String Nat Unit :=
      ⟨fun ctx n => if ctx = [("corr", ["1"])] then .ok (n + 1) else .error "no corr", fun _ w => .ok w,
        fun _ r => .ok r, [fun _ md => md], [fun x _ t => (x, [("k", ["v"])], t)], []⟩
    let c : Client MD Nat Nat String Nat Unit :=
      ⟨"/pb.Test/Test", fun _ r => .ok r, fun _ w => .ok w, [fun x _ => (x, [("corr", ["1"])])],
        [fun _ header _ => header], []⟩
    let header : MD → MD := fun md => md ++ [("content-type", ["application/grpc"])]
    (∀ ctx md, rt.sendHeader ctx md = none ∧ rt.setTrailer ctx md = none) ∧
    (∀ cx sx request, (c.enc cx request).bind (s.dec sx) = .ok request) ∧
    (∀ sx cx response, (s.enc sx response).bind (c.dec cx) = .ok response) ∧
    (c.call (rt.connect s id id header id) [] 1).2 = .ok 2 ∧
    (c.call (rt.connect s id id header id) [] 1).1 = [("k", ["v"]), ("content-type", ["application/grpc"])] ∧
      let b := c.runBefore (rt.withRequestMethod [] c.method)
      let incoming := id (rt.newOutgoingContext b.1 b.2)
      let sctx := s.before.foldl (fun x f => f x ((rt.fromIncomingContext incoming).getD [])) incoming
      let r := c.call (rt.connect s id id header id) [] 1
      r.2 = (s.e sctx 1).mapError id ∧
        ∀ response, s.e sctx 1 = .ok response →
          r.1 = c.after.foldl
            (fun x f => f x (header (runAfter s.after sctx).2.1) (id (runAfter s.after sctx).2.2))
            (rt.newOutgoingContext b.1 b.2) :=
  ⟨fun _ _ => ⟨rfl, rfl⟩, fun _ _ _ => rfl, fun _ _ _ => rfl, rfl, rfl,
    client_server_round_trip _ _ id id _ id _ (by intros; exact ⟨rfl, rfl⟩) (by intros; rfl)
      (by intros; rfl) [] 1⟩

end GoKit.Transport.Grpc
