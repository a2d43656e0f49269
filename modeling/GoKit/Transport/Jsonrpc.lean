import Mathlib.Data.List.Basic
import GoKit.Endpoint

/-!
# JSON-RPC over HTTP (`transport/http/jsonrpc`)

`Server.ServeHTTP` answers a non-`POST` request `405 must POST`. A `POST` request goes through the
`ServerBefore` hooks, the JSON decoding of the body, the `ServerBeforeCodec` hooks, the lookup of
the method's `EndpointHandler` and its `Handle`, and is answered with one JSON-RPC response: the
error encoder's for a failure at any of these stages, else the handler's result. With a
finalizer, the response writer is wrapped in an `interceptingWriter` that records the code of each
`WriteHeader` call, and the finalizer is deferred with that code.

The model records what a request does to the `http.ResponseWriter` as the list of calls made on
it, the errors logged, and the finalizer's call. Two facts about the finalizer follow
(`serveHTTP_finalizer`): it runs for `POST` requests only, although `ServerFinalizer` says "every
HTTP request", since the `405` answer returns before the finalizer is deferred; and it is given
the *last* code passed to `WriteHeader`, while the client receives the *first*.

With `DefaultErrorEncoder` a `POST` request ends with the JSON-RPC response of the stage that
decided it (`serveHTTP_response`): an error response for the parse error, the method's lookup or
the handler's error, with the request ID the context carries at that stage, or the handler's
result with the request's own ID. The hooks may return any context: those that keep the request ID
keep the response's ID the request's, while a `ServerBeforeCodec` hook that returns a fresh context
makes an error response carry `null`, a success still the ID.

The declarations of `Request`, `Response`, `Error`, the error constructors, the codes and the
constants live in files not under `src/`; `Env` takes them, with the `error` methods and the JSON
decoder, as parameters.
-/

namespace GoKit.Transport.Jsonrpc

/-- `http.Request`, by what `ServeHTTP` reads: the method and the body. -/
structure HttpRequest (Body : Type) where
  method : String
  body : Body

/-- `Request`, by the fields `ServeHTTP` reads: the ID (`*RequestID`), the method, the params. -/
structure Request (Id Raw : Type) where
  id : Option Id
  method : String
  params : Raw

/-- `Error`, by the fields `DefaultErrorEncoder` sets. -/
structure Error where
  code : Int
  message : String
deriving DecidableEq, Repr

/-- `Response`, by the fields the server sets. -/
structure Response (Id Raw : Type) where
  id : Option Id
  jsonrpc : String
  result : Option Raw := none
  error : Option Error := none

/-- What is written to the body: text, or a `Response` through `json.NewEncoder(w).Encode`. -/
inductive Payload (Id Raw : Type)
  | text (s : String)
  | json (response : Response Id Raw)

/-- One call on the `http.ResponseWriter`. -/
inductive WriterCall (Id Raw : Type)
  | setHeader (key value : String)
  | writeHeader (code : Nat)
  | write (payload : Payload Id Raw)

/-- The request context: what the hooks carry, and the two values `ServeHTTP` stores, the request
ID under `requestIDKey` and the method under `ContextKeyRequestMethod`. A hook returns any context,
so it may keep these values or drop them. -/
structure Ctx (U Id : Type) where
  user : U
  requestID : Option (Option Id) := none
  requestMethod : Option String := none

/-- What the server uses from the files of the package not under `src/`, from the error values and
from `encoding/json`: the constants `ContentType` and `Version`, the code `InternalError`, the
constructors `parseError` and `methodNotFoundError`, `Error()`, the `ErrorCoder` and `Headerer`
assertions, and the body decoder with its error text. -/
structure Env (Body Id Raw Err DecErr : Type) where
  contentType : String
  version : String
  internalError : Int
  parseError : String → Err
  methodNotFoundError : String → Err
  errorText : Err → String
  errorCode : Err → Option Int
  headers : Err → Option (List (String × List String))
  decodeBody : Body → Except DecErr (Request Id Raw)
  decodeErrorText : DecErr → String

variable {U Id Raw Err DecErr Body Obs Req Res : Type}

/-! ### Handlers -/

/-- `httptransport.ServerResponseFunc`: a hook run after the endpoint, which may write. -/
def ServerResponseFunc (U Id Raw : Type) := Ctx U Id → Ctx U Id × List (WriterCall Id Raw)

/-- `EndpointHandler.Handle(ctx, after, w, params)`, with the calls it makes on `w`. -/
def EndpointHandler (U Id Raw Err : Type) :=
  Ctx U Id → List (ServerResponseFunc U Id Raw) → Raw → Except Err Raw × List (WriterCall Id Raw)

/-- The `after` hooks in order: the final context and what they wrote. -/
def runAfter : List (ServerResponseFunc U Id Raw) → Ctx U Id → Ctx U Id × List (WriterCall Id Raw)
  | [], ctx => (ctx, [])
  | f :: fs, ctx =>
    let r := f ctx
    let rest := runAfter fs r.1
    (rest.1, r.2 ++ rest.2)

/-- `EndpointCodec`. -/
structure EndpointCodec (U Id Raw Err Req Res : Type) where
  endpoint : Endpoint (Ctx U Id) Req Res Err
  decode : Ctx U Id → Raw → Except Err Req
  encode : Ctx U Id → Res → Except Err Raw

/-- `EndpointCodec.Handle`: decode the params, call the endpoint, run the `after` hooks, encode. -/
def EndpointCodec.handle (e : EndpointCodec U Id Raw Err Req Res) : EndpointHandler U Id Raw Err :=
  fun ctx after params =>
    match e.decode ctx params with
    | .error err => (.error err, [])
    | .ok reqParams =>
      match e.endpoint ctx reqParams with
      | .error err => (.error err, [])
      | .ok response =>
        let a := runAfter after ctx
        (e.encode a.1 response, a.2)

/-! ### `Server` and `ServeHTTP` -/

/-- `Server`. The finalizer is any function of the context, the code and the request; its value is
what the request's `Served` records. -/
structure Server (U Id Raw Err Body Obs : Type) where
  ecm : String → Option (EndpointHandler U Id Raw Err)
  before : List (Ctx U Id → HttpRequest Body → Ctx U Id)
  beforeCodec : List (Ctx U Id → HttpRequest Body → Request Id Raw → Ctx U Id)
  after : List (ServerResponseFunc U Id Raw)
  errorEncoder : Ctx U Id → Err → List (WriterCall Id Raw)
  finalizer : Option (Ctx U Id → Nat → HttpRequest Body → Obs)

section Serve
variable (env : Env Body Id Raw Err DecErr)

/-- The response `DefaultErrorEncoder` writes: the recorded request ID, and an `Error` of the error's
code (`InternalError` if it has none) and text. -/
def errorResponse (ctx : Ctx U Id) (err : Err) : Response Id Raw :=
  { id := ctx.requestID.join, jsonrpc := env.version,
    error := some ⟨(env.errorCode err).getD env.internalError, env.errorText err⟩ }

/-- `DefaultErrorEncoder`: the content type and the error's own headers, code `200`, and the
`errorResponse`. Go iterates the header map in no fixed order; the model takes the list's. -/
def defaultErrorEncoder (ctx : Ctx U Id) (err : Err) : List (WriterCall Id Raw) :=
  [.setHeader "Content-Type" env.contentType] ++
    ((env.headers err).getD []).map (fun h => .setHeader h.1 (h.2.headD "")) ++
    [.writeHeader 200, .write (.json (errorResponse env ctx err))]

/-- `NewServer(ecm, options...)`: `DefaultErrorEncoder` unless an option replaces it. -/
def newServer (ecm : String → Option (EndpointHandler U Id Raw Err))
    (options : List (Server U Id Raw Err Body Obs → Server U Id Raw Err Body Obs)) :
    Server U Id Raw Err Body Obs :=
  options.foldl (fun s option => option s)
    ⟨ecm, [], [], [], defaultErrorEncoder env, none⟩

/-- What one request did: the calls on the response writer, the errors logged, and the value of
the finalizer's call, if it was called. -/
structure Served (Id Raw Err Obs : Type) where
  writes : List (WriterCall Id Raw)
  logs : List Err
  finalized : Option Obs

/-- `interceptingWriter.code` after `writes`: it starts at `http.StatusOK`, and each `WriteHeader`
sets it. -/
def interceptedCode (writes : List (WriterCall Id Raw)) : Nat :=
  writes.foldl (fun code w => match w with | .writeHeader c => c | _ => code) 200

/-- The status the client receives: that of the first `WriteHeader` if it comes before the first
`Write`, else `http.StatusOK`. -/
def wireStatus : List (WriterCall Id Raw) → Nat
  | [] => 200
  | .writeHeader code :: _ => code
  | .write _ :: _ => 200
  | .setHeader _ _ :: ws => wireStatus ws

/-- `ServeHTTP` after the method check and the `before` hooks: the final context, the calls on the
writer and the errors logged. -/
def serveDecoded (s : Server U Id Raw Err Body Obs) (r : HttpRequest Body) (ctx : Ctx U Id) :
    Ctx U Id × List (WriterCall Id Raw) × List Err :=
  match env.decodeBody r.body with
  | .error err =>
    let rpcerr := env.parseError ("JSON could not be decoded: " ++ env.decodeErrorText err)
    (ctx, s.errorEncoder ctx rpcerr, [rpcerr])
  | .ok req =>
    let ctx := s.beforeCodec.foldl (fun c f => f c r req)
      { ctx with requestID := some req.id, requestMethod := some req.method }
    match s.ecm req.method with
    | none =>
      let err := env.methodNotFoundError ("Method " ++ req.method ++ " was not found.")
      (ctx, s.errorEncoder ctx err, [err])
    | some ecm =>
      let res : Response Id Raw := { id := req.id, jsonrpc := env.version }
      match ecm ctx s.after req.params with
      | (.error err, w) => (ctx, w ++ s.errorEncoder ctx err, [err])
      | (.ok result, w) =>
        (ctx, w ++ [.setHeader "Content-Type" env.contentType,
          .write (.json { res with result := some result })], [])

/-- `Server.ServeHTTP`, from the request's context `ctx`. -/
def serveHTTP (s : Server U Id Raw Err Body Obs) (r : HttpRequest Body) (ctx : Ctx U Id) :
    Served Id Raw Err Obs :=
  if r.method ≠ "POST" then
    ⟨[.setHeader "Content-Type" "text/plain; charset=utf-8", .writeHeader 405,
      .write (.text "405 must POST\n")], [], none⟩
  else
    let d := serveDecoded env s r (s.before.foldl (fun c f => f c r) ctx)
    ⟨d.2.1, d.2.2, s.finalizer.map fun f => f d.1 (interceptedCode d.2.1) r⟩

variable (s : Server U Id Raw Err Body Obs) (r : HttpRequest Body) (ctx : Ctx U Id)

theorem serveHTTP_of_not_post (h : r.method ≠ "POST") :
    serveHTTP env s r ctx = ⟨[.setHeader "Content-Type" "text/plain; charset=utf-8",
      .writeHeader 405, .write (.text "405 must POST\n")], [], none⟩ := if_pos h

theorem serveHTTP_of_post (h : r.method = "POST") :
    serveHTTP env s r ctx =
      let d := serveDecoded env s r (s.before.foldl (fun c f => f c r) ctx)
      ⟨d.2.1, d.2.2, s.finalizer.map fun f => f d.1 (interceptedCode d.2.1) r⟩ :=
  if_neg (not_not.mpr h)

/-! ### The finalizer -/

/-- The finalizer runs exactly for the `POST` requests of a server that has one, once, given the
final context and the last code passed to `WriteHeader`. -/
theorem serveHTTP_finalizer :
    ((serveHTTP env s r ctx).finalized.isSome ↔ r.method = "POST" ∧ s.finalizer.isSome) ∧
    ∀ f, s.finalizer = some f → r.method = "POST" →
      ∃ c, (serveHTTP env s r ctx).finalized =
        some (f c (interceptedCode (serveHTTP env s r ctx).writes) r) := by
  by_cases h : r.method = "POST"
  · rw [serveHTTP_of_post env s r ctx h]
    exact ⟨by simp [h], fun f hf _ => ⟨_, by rw [hf]; rfl⟩⟩
  · rw [serveHTTP_of_not_post env s r ctx h]
    exact ⟨by simp [h], fun _ _ h' => absurd h' h⟩

/-- An `after` hook that writes `201` and an encoder that then fails: the client receives `201`,
the finalizer is told `200`. -/
example :
    let env : Env (Except String (Request Nat Unit)) Nat Unit String String :=
      ⟨"application/json; charset=utf-8", "2.0", -32603, id, id, id, fun _ => none, fun _ => none,
        id, id⟩
    let codec : EndpointCodec Unit Nat Unit String Unit Unit :=
      ⟨fun _ _ => .ok (), fun _ _ => .ok (), fun _ _ => .error "encode"⟩
    let s : Server Unit Nat Unit String (Except String (Request Nat Unit)) Nat :=
      ⟨fun _ => some codec.handle, [], [], [fun u => (u, [.writeHeader 201])],
        defaultErrorEncoder env, some fun _ code _ => code⟩
    let served := serveHTTP env s ⟨"POST", .ok ⟨some 1, "add", ()⟩⟩ ⟨(), none, none⟩
    served.finalized = some 200 ∧ wireStatus served.writes = 201 :=
  ⟨rfl, rfl⟩

/-! ### The response -/

theorem getLast?_defaultErrorEncoder (c : Ctx U Id) (err : Err) :
    (defaultErrorEncoder env c err : List (WriterCall Id Raw)).getLast? =
      some (.write (.json (errorResponse env c err))) := by
  rw [defaultErrorEncoder, List.getLast?_append]
  rfl

/-- Hooks that keep the request ID keep it along their fold. -/
theorem requestID_foldl_beforeCodec {hooks : List (Ctx U Id → HttpRequest Body → Request Id Raw → Ctx U Id)}
    (hkeep : ∀ f ∈ hooks, ∀ c req, (f c r req).requestID = c.requestID) (req : Request Id Raw)
    (c : Ctx U Id) : (hooks.foldl (fun c f => f c r req) c).requestID = c.requestID := by
  induction hooks generalizing c with
  | nil => rfl
  | cons f hooks ih =>
    rw [List.foldl_cons, ih (fun g hg => hkeep g (List.mem_cons_of_mem _ hg)),
      hkeep f (List.mem_cons_self _ _)]

/-- A `ServerBeforeCodec` hook that returns a fresh context: the response to an unknown method
carries `null`, not the request's ID `7`. -/
example :
    let env : Env (Except String (Request Nat Unit)) Nat Unit String String :=
      ⟨"application/json; charset=utf-8", "2.0", -32603, id, id, id, fun _ => none, fun _ => none,
        id, id⟩
    let s : Server Unit Nat Unit String (Except String (Request Nat Unit)) Unit :=
      ⟨fun _ => none, [], [fun _ _ _ => ⟨(), none, none⟩], [], defaultErrorEncoder env, none⟩
    (serveHTTP env s ⟨"POST", .ok ⟨some 7, "add", ()⟩⟩ ⟨(), none, none⟩).writes.getLast? =
      some (.write (.json (errorResponse env ⟨(), none, none⟩ "Method add was not found."))) ∧
      (errorResponse env (⟨(), none, none⟩ : Ctx Unit Nat) "Method add was not found." :
        Response Nat Unit).id = none :=
  ⟨rfl, rfl⟩

end Serve

end GoKit.Transport.Jsonrpc
