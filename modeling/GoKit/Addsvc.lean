import GoKit.Transport.Grpc

/-!
# The addsvc example over gRPC and Thrift (`examples/addsvc`)

`addendpoint` turns a service into a `Set` of endpoints and back: `MakeSumEndpoint` puts the
service's error in the response, as a business error beside the value, and `Set.Sum` returns the
endpoint's error, if any, or the response's value and business error. `Sum` and `Concat` are
the same code at two types, so each is one definition here at the method's argument and value
types (`call`, `makeEndpoint`, the codecs), and each source function is that definition at its
own types.

The transports carry a business error in their own way. gRPC puts its message in the reply
(`err2str`) and the client makes a new error of it (`str2err`): over a connection served by the
gRPC server, the remote `Set` returns the server endpoint's value, and its business error as a
new error with the same message, or none when that message is empty
(`grpc_call_round_trip`). The Thrift server also puts the message in its reply, but
`MakeThriftSumEndpoint` and `MakeThriftConcatEndpoint` never read it, and they read the reply's
value even when the call failed and the reply is nil, which panics in Go
(`thrift_endpoints_drop_business_errors`).
-/

namespace GoKit.Addsvc

open GoKit.Transport.Grpc

/-- `SumRequest` and `ConcatRequest`: the method's two arguments. -/
structure Request (α : Type) where
  a : α
  b : α
deriving DecidableEq, Repr

/-- `SumResponse` and `ConcatResponse`: the value, and the business error (`Err`, tagged
`json:"-"`). -/
structure Response (β Err : Type) where
  v : β
  err : Option Err
deriving DecidableEq, Repr

/-- `SumRequest`, with Go's `int` as `Int`. -/
abbrev SumRequest := Request Int

/-- `SumResponse`. -/
abbrev SumResponse (Err : Type) := Response Int Err

/-- `ConcatRequest`. -/
abbrev ConcatRequest := Request String

/-- `ConcatResponse`. -/
abbrev ConcatResponse (Err : Type) := Response String Err

variable {Ctx Err Obs α β : Type}

/-! ### Endpoints and services -/

/-- `addservice.Service`, as `MakeSumEndpoint` and `MakeConcatEndpoint` call it. -/
structure Service (Ctx Err : Type) where
  sum : Ctx → Int → Int → Int × Option Err
  concat : Ctx → String → String → String × Option Err

/-- `addendpoint.Set`. -/
structure Set (Ctx Err : Type) where
  sumEndpoint : Endpoint Ctx SumRequest (SumResponse Err) Err
  concatEndpoint : Endpoint Ctx ConcatRequest (ConcatResponse Err) Err

/-- The body of `Set.Sum` and `Set.Concat`: the endpoint's error with the zero value, or the
response's value and business error. -/
def call [Inhabited β] (e : Endpoint Ctx (Request α) (Response β Err) Err) (ctx : Ctx) (a b : α) :
    β × Option Err :=
  match e ctx ⟨a, b⟩ with
  | .error err => (default, some err)
  | .ok response => (response.v, response.err)

/-- `Set.Sum`. -/
def Set.sum (s : Set Ctx Err) : Ctx → Int → Int → Int × Option Err :=
  call s.sumEndpoint

/-- `Set.Concat`. -/
def Set.concat (s : Set Ctx Err) : Ctx → String → String → String × Option Err :=
  call s.concatEndpoint

/-- The body of `MakeSumEndpoint` and `MakeConcatEndpoint`: the service method's value and error,
as a response, and never an error of the endpoint. -/
def makeEndpoint (method : Ctx → α → α → β × Option Err) : Endpoint Ctx (Request α) (Response β Err) Err :=
  fun ctx request =>
    let r := method ctx request.a request.b
    .ok ⟨r.1, r.2⟩

/-- `MakeSumEndpoint`. -/
def makeSumEndpoint (s : Service Ctx Err) : Endpoint Ctx SumRequest (SumResponse Err) Err :=
  makeEndpoint s.sum

/-- `MakeConcatEndpoint`. -/
def makeConcatEndpoint (s : Service Ctx Err) : Endpoint Ctx ConcatRequest (ConcatResponse Err) Err :=
  makeEndpoint s.concat

/-- A `Set` made of the service's endpoints is the service again. -/
@[simp] theorem call_makeEndpoint [Inhabited β] (method : Ctx → α → α → β × Option Err) (ctx : Ctx)
    (a b : α) : call (makeEndpoint method) ctx a b = method ctx a b :=
  rfl

/-! ### Business errors as text -/

section Text

variable (msg : Err → String) (errorsNew : String → Err)

/-- `err2str`: the error's message (`err.Error()`), `""` for `nil`. -/
def err2str : Option Err → String
  | none => ""
  | some err => msg err

/-- `str2err`: `nil` for `""`, else `errors.New(s)`. -/
def str2err (s : String) : Option Err :=
  if s = "" then none else some (errorsNew s)

/-- A business error sent as text comes back as a new error with the same message, and is lost
when its message is empty. -/
theorem str2err_err2str (e : Option Err) :
    str2err errorsNew (err2str msg e) =
      e.bind fun err => if msg err = "" then none else some (errorsNew (msg err)) := by
  cases e <;> rfl

end Text

/-! ### gRPC -/

/-- The protobuf messages of one method of `pb.Add`, passed as `interface{}`: `pb.SumRequest`
and `pb.SumReply` for `Sum`, `pb.ConcatRequest` and `pb.ConcatReply` for `Concat`. -/
inductive Pb (α β : Type)
  | request (a b : α)
  | reply (v : β) (err : String)
deriving DecidableEq, Repr

section Codecs

variable (typeAssertion : Err) (msg : Err → String) (errorsNew : String → Err)

/-- The body of `decodeGRPCSumRequest` and `decodeGRPCConcatRequest`. A message of another type
fails the type assertion, which panics in Go; the model returns the error `typeAssertion`. -/
def decodeGRPCRequest (_ : Ctx) : Pb α β → Except Err (Request α)
  | .request a b => .ok ⟨a, b⟩
  | .reply _ _ => .error typeAssertion

/-- The body of `encodeGRPCSumResponse` and `encodeGRPCConcatResponse`. -/
def encodeGRPCResponse (_ : Ctx) (response : Response β Err) : Except Err (Pb α β) :=
  .ok (.reply response.v (err2str msg response.err))

/-- The body of `encodeGRPCSumRequest` and `encodeGRPCConcatRequest`. -/
def encodeGRPCRequest (_ : Ctx) (request : Request α) : Except Err (Pb α β) :=
  .ok (.request request.a request.b)

/-- The body of `decodeGRPCSumResponse` and `decodeGRPCConcatResponse`. -/
def decodeGRPCResponse (_ : Ctx) : Pb α β → Except Err (Response β Err)
  | .reply v err => .ok ⟨v, str2err errorsNew err⟩
  | .request _ _ => .error typeAssertion

/-- `decodeGRPCSumRequest`; `int(req.A)` is exact, Go's `int` being 64 bits wide. -/
def decodeGRPCSumRequest : Ctx → Pb Int Int → Except Err SumRequest :=
  decodeGRPCRequest typeAssertion

/-- `decodeGRPCConcatRequest`. -/
def decodeGRPCConcatRequest : Ctx → Pb String String → Except Err ConcatRequest :=
  decodeGRPCRequest typeAssertion

/-- `encodeGRPCSumResponse`. -/
def encodeGRPCSumResponse : Ctx → SumResponse Err → Except Err (Pb Int Int) :=
  encodeGRPCResponse msg

/-- `encodeGRPCConcatResponse`. -/
def encodeGRPCConcatResponse : Ctx → ConcatResponse Err → Except Err (Pb String String) :=
  encodeGRPCResponse msg

/-- `encodeGRPCSumRequest`. -/
def encodeGRPCSumRequest : Ctx → SumRequest → Except Err (Pb Int Int) :=
  encodeGRPCRequest

/-- `encodeGRPCConcatRequest`. -/
def encodeGRPCConcatRequest : Ctx → ConcatRequest → Except Err (Pb String String) :=
  encodeGRPCRequest

/-- `decodeGRPCSumResponse`. -/
def decodeGRPCSumResponse : Ctx → Pb Int Int → Except Err (SumResponse Err) :=
  decodeGRPCResponse typeAssertion errorsNew

/-- `decodeGRPCConcatResponse`. -/
def decodeGRPCConcatResponse : Ctx → Pb String String → Except Err (ConcatResponse Err) :=
  decodeGRPCResponse typeAssertion errorsNew

end Codecs

/-- A remote `Set` over gRPC: a client with the addsvc codecs, over a connection served by a server
with the addsvc codecs, returns the server endpoint's value, its business error rebuilt from the
message (none when that message is empty), and the endpoint's own error as the connection's
status error. -/
theorem grpc_call_round_trip [Inhabited β] (typeAssertion : Err) (msg : Err → String)
    (errorsNew : String → Err) (rt : Runtime Ctx Err (Pb α β)) (accept : Ctx → Ctx)
    (status : Err → Err) (header trailer : MD → MD)
    (s : Server Ctx (Request α) (Response β Err) Err (Pb α β) Obs)
    (c : Client Ctx (Request α) (Response β Err) Err (Pb α β) Obs)
    (hsend : ∀ ctx md, rt.sendHeader ctx md = none ∧ rt.setTrailer ctx md = none)
    (hs : s.dec = decodeGRPCRequest typeAssertion ∧ s.enc = encodeGRPCResponse msg)
    (hc : c.enc = encodeGRPCRequest ∧ c.dec = decodeGRPCResponse typeAssertion errorsNew)
    (ctx : Ctx) (a b : α) :
    let md := c.runBefore (rt.withRequestMethod ctx c.method)
    let incoming := accept (rt.newOutgoingContext md.1 md.2)
    let sctx := s.before.foldl (fun x f => f x ((rt.fromIncomingContext incoming).getD [])) incoming
    call (fun ctx request => (c.endpoint (rt.connect s accept status header trailer) ctx request).1) ctx a b =
      match s.e sctx ⟨a, b⟩ with
      | .error err => (default, some (status err))
      | .ok response =>
        (response.v, response.err.bind fun err => if msg err = "" then none else some (errorsNew (msg err))) := by
  intro md incoming sctx
  have hdec : s.dec sctx (.request a b) = .ok ⟨a, b⟩ := by rw [hs.1]; rfl
  have hresult := (serveStages_of_dec rt s hsend hdec).1
  simp only [call, Client.endpoint, Client.call, connect_withRequestMethod, connect_newOutgoingContext,
    hc.1, encodeGRPCRequest, connect_invoke rt s accept status header trailer, hresult]
  cases s.e sctx ⟨a, b⟩ with
  | error err => rfl
  | ok response =>
    simp only [hs.2, hc.2, Except.bind, encodeGRPCResponse, Except.mapError, Except.map,
      decodeGRPCResponse, str2err_err2str]

/-- A service that fails on two zeroes, behind `NewServer` and `NewClient` with the `Sum` codecs:
its business error comes back over gRPC with its message. -/
theorem grpc_call_round_trip_example :
    let rt : Runtime MD String (Pb Int Int) :=
      ⟨fun ctx _ => ctx, fun _ md => md, some, fun _ _ => none, fun _ _ => none, fun _ _ _ => .error ""⟩
    let svc : Service MD String :=
      ⟨fun _ a b => if a = 0 ∧ b = 0 then (0, some "two zeroes") else (a + b, none), fun _ a b => (a ++ b, none)⟩
    let s : Server MD SumRequest (SumResponse String) String (Pb Int Int) Unit :=
      newServer (makeSumEndpoint svc) (decodeGRPCSumRequest "assertion") (encodeGRPCSumResponse id) []
    let c : Client MD SumRequest (SumResponse String) String (Pb Int Int) Unit :=
      newClient "pb.Add" "Sum" encodeGRPCSumRequest (decodeGRPCSumResponse "assertion" id) []
    (∀ ctx md, rt.sendHeader ctx md = none ∧ rt.setTrailer ctx md = none) ∧
    (s.dec = decodeGRPCRequest "assertion" ∧ s.enc = encodeGRPCResponse id) ∧
    (c.enc = encodeGRPCRequest ∧ c.dec = decodeGRPCResponse "assertion" id) ∧
    call (fun ctx request => (c.endpoint (rt.connect s id id id id) ctx request).1) [] 0 0 =
      (0, some "two zeroes") ∧
      let md := c.runBefore (rt.withRequestMethod [] c.method)
      let incoming := id (rt.newOutgoingContext md.1 md.2)
      let sctx := s.before.foldl (fun x f => f x ((rt.fromIncomingContext incoming).getD [])) incoming
      call (fun ctx request => (c.endpoint (rt.connect s id id id id) ctx request).1) [] 0 0 =
        match s.e sctx ⟨0, 0⟩ with
        | .error err => (default, some (id err))
        | .ok response =>
          (response.v, response.err.bind fun err => if id err = "" then none else some (id (id err))) :=
  ⟨fun _ _ => ⟨rfl, rfl⟩, ⟨rfl, rfl⟩, ⟨rfl, rfl⟩, by decide,
    grpc_call_round_trip "assertion" id id _ id id id id _ _ (fun _ _ => ⟨rfl, rfl⟩)
      ⟨rfl, rfl⟩ ⟨rfl, rfl⟩ [] 0 0⟩

/-! ### Thrift -/

/-- `addthrift.SumReply` and `addthrift.ConcatReply`: the value and the business error's
message. -/
structure Reply (β : Type) where
  value : β
  err : String
deriving DecidableEq, Repr

/-- The body of `thriftServer.Sum` and `thriftServer.Concat`: the endpoint's error, or the reply
with the business error's message. -/
def thriftServerCall (msg : Err → String) (e : Endpoint Ctx (Request α) (Response β Err) Err)
    (ctx : Ctx) (a b : α) : Except Err (Reply β) :=
  match e ctx ⟨a, b⟩ with
  | .error err => .error err
  | .ok response => .ok ⟨response.v, err2str msg response.err⟩

/-- `thriftServer.Sum`, over `NewThriftServer(endpoints)`. -/
def thriftServerSum (msg : Err → String) (endpoints : Set Ctx Err) : Ctx → Int → Int → Except Err (Reply Int) :=
  thriftServerCall msg endpoints.sumEndpoint

/-- `thriftServer.Concat`, over `NewThriftServer(endpoints)`. -/
def thriftServerConcat (msg : Err → String) (endpoints : Set Ctx Err) :
    Ctx → String → String → Except Err (Reply String) :=
  thriftServerCall msg endpoints.concatEndpoint

/-- A call of the generated `AddServiceClient` (not under `src/`) over a connection to a Thrift
server's method: the server runs in the context `accept` makes of the call's, and when the method
fails the client receives a nil reply and the error `status err` of the Thrift library. -/
def thriftConnect (handler : Ctx → α → α → Except Err (Reply β)) (accept : Ctx → Ctx)
    (status : Err → Err) (ctx : Ctx) (a b : α) : Option (Reply β) × Option Err :=
  match handler (accept ctx) a b with
  | .error err => (none, some (status err))
  | .ok reply => (some reply, none)

/-- `MakeThriftSumEndpoint`, the outcome `none` being Go's panic on `reply.Value` with a nil
`reply`. It returns `ErrIntOverflow` as the endpoint's error, and any other error of the client in
the response. -/
def makeThriftSumEndpoint [DecidableEq Err] (errIntOverflow : Err)
    (client : Ctx → Int → Int → Option (Reply Int) × Option Err) (ctx : Ctx) (request : SumRequest) :
    Option (Except Err (SumResponse Err)) :=
  let r := client ctx request.a request.b
  if r.2 = some errIntOverflow then some (.error errIntOverflow)
  else r.1.map fun reply => .ok ⟨reply.value, r.2⟩

/-- `MakeThriftConcatEndpoint`, the outcome `none` being Go's panic on `reply.Value` with a nil
`reply`. Unlike `MakeThriftSumEndpoint` it has no special case. -/
def makeThriftConcatEndpoint (client : Ctx → String → String → Option (Reply String) × Option Err)
    (ctx : Ctx) (request : ConcatRequest) : Option (Except Err (ConcatResponse Err)) :=
  let r := client ctx request.a request.b
  r.1.map fun reply => .ok ⟨reply.value, r.2⟩

/-- Over Thrift the business error is lost: the client endpoints answer every call the server's
endpoint answers with its value and no business error. A call the server's endpoint fails makes
them panic, except, for `Sum`, when the client receives `ErrIntOverflow` itself. -/
theorem thrift_endpoints_drop_business_errors [DecidableEq Err] (errIntOverflow : Err)
    (msg : Err → String) (endpoints : Set Ctx Err) (accept : Ctx → Ctx) (status : Err → Err)
    (ctx : Ctx) (sum : SumRequest) (concat : ConcatRequest) :
    makeThriftSumEndpoint errIntOverflow (thriftConnect (thriftServerSum msg endpoints) accept status)
        ctx sum =
      (match endpoints.sumEndpoint (accept ctx) sum with
        | .error err => if status err = errIntOverflow then some (.error errIntOverflow) else none
        | .ok response => some (.ok ⟨response.v, none⟩)) ∧
    makeThriftConcatEndpoint (thriftConnect (thriftServerConcat msg endpoints) accept status) ctx concat =
      (match endpoints.concatEndpoint (accept ctx) concat with
        | .error _ => none
        | .ok response => some (.ok ⟨response.v, none⟩)) := by
  constructor
  · simp only [makeThriftSumEndpoint, thriftConnect, thriftServerSum, thriftServerCall]
    cases endpoints.sumEndpoint (accept ctx) sum with
    | error err => by_cases h : status err = errIntOverflow <;> simp [h]
    | ok response => simp
  · simp only [makeThriftConcatEndpoint, thriftConnect, thriftServerConcat, thriftServerCall]
    cases endpoints.concatEndpoint (accept ctx) concat <;> rfl

/-- The service fails on two zeroes, and the Thrift client returns `0` with no error. -/
example :
    let svc : Service Unit String :=
      ⟨fun _ a b => if a = 0 ∧ b = 0 then (0, some "two zeroes") else (a + b, none), fun _ a b => (a ++ b, none)⟩
    makeThriftSumEndpoint "overflow"
        (thriftConnect (thriftServerSum id ⟨makeSumEndpoint svc, makeConcatEndpoint svc⟩) id id) () ⟨0, 0⟩ =
      some (.ok ⟨0, none⟩) :=
  rfl

end GoKit.Addsvc
