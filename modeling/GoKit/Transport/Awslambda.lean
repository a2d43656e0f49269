import GoKit.Endpoint

/-!
# AWS Lambda transport (`transport/awslambda`)

`Handler.Invoke` runs a payload through the `before` hooks, the decoder, the endpoint, the
`after` hooks and the encoder. The first stage that fails hands its error to the error handler
and returns what the error encoder makes of it; `DefaultErrorEncoder` returns no payload and the
error itself. The finalizers, deferred, see the last context and the pair `Invoke` returns.

`invokeStages_cases` says the whole of it at once: the pair returned is the encoded response when
every stage succeeds, and the error encoder's answer for the first failure otherwise, which is the
one error the error handler sees.
-/

namespace GoKit.Transport.Awslambda

/-- A `[]byte` payload. -/
abbrev Bytes := List UInt8

variable {Ctx Req Res Err Obs : Type}

/-- `Handler`. The hooks' types are read off their calls, their declarations not being under
`src/`. An error encoder returns a payload and an error, either of which may be `nil`. -/
structure Handler (Ctx Req Res Err Obs : Type) where
  e : Endpoint Ctx Req Res Err
  dec : Ctx → Bytes → Except Err Req
  enc : Ctx → Res → Except Err Bytes
  before : List (Ctx → Bytes → Ctx)
  after : List (Ctx → Res → Ctx)
  errorEncoder : Ctx → Err → Option Bytes × Option Err
  finalizer : List (Ctx → Option Bytes → Option Err → Obs)

/-- `DefaultErrorEncoder`: `return nil, err`. -/
def defaultErrorEncoder (_ : Ctx) (err : Err) : Option Bytes × Option Err :=
  (none, some err)

/-- `NewHandler`, the options applied in order. The error handler's calls are recorded by
`invokeStages`, so `NewLogErrorHandler(log.NewNopLogger())` has no field. -/
def newHandler (e : Endpoint Ctx Req Res Err) (dec : Ctx → Bytes → Except Err Req)
    (enc : Ctx → Res → Except Err Bytes)
    (options : List (Handler Ctx Req Res Err Obs → Handler Ctx Req Res Err Obs)) :
    Handler Ctx Req Res Err Obs :=
  options.foldl (fun h option => option h) ⟨e, dec, enc, [], [], defaultErrorEncoder, []⟩

/-- What `Invoke` did: the returned `resp` and `err`, the calls of `errorHandler.Handle`, and the
finalizers' calls. -/
structure Invoked (Ctx Err Obs : Type) where
  resp : Option Bytes
  err : Option Err
  handled : List (Ctx × Err)
  finalized : List Obs

variable (h : Handler Ctx Req Res Err Obs)

/-- A failing stage: `h.errorHandler.Handle(ctx, err)`, then `return h.errorEncoder(ctx, err)`. -/
def Handler.fail (ctx : Ctx) (err : Err) : Ctx × (Option Bytes × Option Err) × List (Ctx × Err) :=
  (ctx, h.errorEncoder ctx err, [(ctx, err)])

/-- `Invoke` after the `before` hooks: the last context, the returned pair and the errors
handled. -/
def invokeStages (ctx : Ctx) (payload : Bytes) :
    Ctx × (Option Bytes × Option Err) × List (Ctx × Err) :=
  match h.dec ctx payload with
  | .error err => h.fail ctx err
  | .ok request =>
    match h.e ctx request with
    | .error err => h.fail ctx err
    | .ok response =>
      let ctx := h.after.foldl (fun c f => f c response) ctx
      match h.enc ctx response with
      | .error err => h.fail ctx err
      | .ok resp => (ctx, (some resp, none), [])

/-- `Handler.Invoke`. -/
def invoke (ctx : Ctx) (payload : Bytes) : Invoked Ctx Err Obs :=
  let r := invokeStages h (h.before.foldl (fun c f => f c payload) ctx) payload
  ⟨r.2.1.1, r.2.1.2, r.2.2, h.finalizer.map fun f => f r.1 r.2.1.1 r.2.1.2⟩

/-- Every request either goes through every stage, and `Invoke` returns the encoded response and
no error, or fails first with some `err`, handed once to the error handler, and `Invoke` returns
the error encoder's answer for it. -/
theorem invokeStages_cases (ctx : Ctx) (payload : Bytes) :
    (∃ response resp, (h.dec ctx payload).bind (h.e ctx) = .ok response ∧
        h.enc (h.after.foldl (fun c f => f c response) ctx) response = .ok resp ∧
        (invokeStages h ctx payload).2 = ((some resp, none), [])) ∨
      ∃ ctx' err, (invokeStages h ctx payload).2 = (h.errorEncoder ctx' err, [(ctx', err)]) := by
  unfold invokeStages
  cases h.dec ctx payload with
  | error err => exact .inr ⟨_, err, rfl⟩
  | ok request =>
    dsimp only [Except.bind]
    cases h.e ctx request with
    | error err => exact .inr ⟨_, err, rfl⟩
    | ok response =>
      dsimp only
      cases henc : h.enc (h.after.foldl (fun c f => f c response) ctx) response with
      | error err => exact .inr ⟨_, err, rfl⟩
      | ok resp => exact .inl ⟨response, resp, rfl, henc, rfl⟩

end GoKit.Transport.Awslambda
