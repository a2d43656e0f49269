import GoKit.Tracing

/-!
# Spans of the tracing middlewares (`tracing/opentracing`, `tracing/zipkin`)

A call of the opentracing `TraceEndpoint(tracer, operationName, opts...)(next)` starts a span, as a
child of the span of the call's context if there is one, sets the configured tags and those
`GetTags` reads off the context, and calls `next` with a context that carries the new span. Its
deferred functions then log the error, if any, with one `gokit.retry.error.<n>` field per attempt
of an `lb.RetryError`, and finish the span. The zipkin `TraceEndpoint(tracer, name)` starts and
finishes a span the same way, with no tags and no error.

The tracers are not under `src/`: the model records the calls the middlewares make on a tracer and
on its spans (`Call`), a span being named by the index of the `StartSpan` call that made it. With
the operation names the opentracing closures captured (the variables of `spanNames`), these calls
are the state the middlewares share (`Heap`), passed along with each call.

`nest` replays calls against the stack of open spans. An endpoint is `Nested` when, from every
state and every context whose span is the innermost open one, it starts only fresh spans, each as
a child of the innermost open span, acts only on the innermost open span, and finishes every span
it starts. Each traced middleware keeps this (`Opentracing.traceEndpoint_nested`,
`Zipkin.traceEndpoint_nested`), so any `Chain` of them does (`chain_traceEndpoint_nested`): spans
nest as the middlewares do. A `Chain` of opentracing middlewares is also transparent, and as the
call returns it logs the returned error on each of its spans, innermost first, before finishing
it (`chain_traceEndpoint_errors`).
-/

namespace GoKit.Tracing

/-! ### Calls on a tracer -/

/-- A call on the tracer or on one of its spans. -/
inductive Call (Tag Err : Type)
  | startSpan (span : Nat) (operationName : String) (parent : Option Nat)
  | setTag (span : Nat) (key : String) (value : Tag)
  | logError (span : Nat) (err : Err) (fields : List (String × String))
  | finish (span : Nat)
deriving DecidableEq, Repr

/-- What the middlewares share: the number of spans started, the calls made on the tracer and its
spans, and the variable `operationName` of each opentracing `TraceEndpoint` call, by index. -/
structure Heap (Tag Err : Type) where
  spans : Nat
  calls : List (Call Tag Err)
  names : List String
deriving DecidableEq, Repr

variable {Ctx Req Res Err Tag : Type}

/-- An endpoint run with the shared state: it returns the state with its response or its error. -/
abbrev Traced (Tag Err Ctx Req Res : Type) :=
  Endpoint (Heap Tag Err × Ctx) Req (Res × Heap Tag Err) (Err × Heap Tag Err)

/-- The state a traced call returns. -/
def heapOf {α β H : Type} : Except (α × H) (β × H) → H
  | .ok r => r.2
  | .error e => e.2

/-- The error a traced call returns, `nil` for none. -/
def errOf {α β H : Type} : Except (α × H) (β × H) → Option α
  | .ok _ => none
  | .error e => some e.1

/-- The response or the error a traced call returns. -/
def resultOf {α β H : Type} : Except (α × H) (β × H) → Except α β
  | .ok r => .ok r.1
  | .error e => .error e.1

theorem errOf_eq_of_resultOf {α β H : Type} {a b : Except (α × H) (β × H)}
    (h : resultOf a = resultOf b) : errOf a = errOf b := by
  rcases a with ⟨_, _⟩ | ⟨_, _⟩ <;> rcases b with ⟨_, _⟩ | ⟨_, _⟩ <;> cases h <;> rfl

/-- The deferred functions of a traced call, run once `next` has returned: the calls `close` makes
of the returned error are added to the state. -/
def runDeferred (close : Option Err → List (Call Tag Err)) :
    Except (Err × Heap Tag Err) (Res × Heap Tag Err) → Except (Err × Heap Tag Err) (Res × Heap Tag Err)
  | .ok (response, h) => .ok (response, { h with calls := h.calls ++ close none })
  | .error (err, h) => .error (err, { h with calls := h.calls ++ close (some err) })

section Deferred

variable (close : Option Err → List (Call Tag Err)) (r : Except (Err × Heap Tag Err) (Res × Heap Tag Err))

@[simp] theorem heapOf_runDeferred :
    heapOf (runDeferred close r) = { heapOf r with calls := (heapOf r).calls ++ close (errOf r) } := by
  rcases r with ⟨err, h⟩ | ⟨response, h⟩ <;> rfl

@[simp] theorem resultOf_runDeferred : resultOf (runDeferred close r) = resultOf r := by
  rcases r with ⟨err, h⟩ | ⟨response, h⟩ <;> rfl

@[simp] theorem errOf_runDeferred : errOf (runDeferred close r) = errOf r := by
  rcases r with ⟨err, h⟩ | ⟨response, h⟩ <;> rfl

end Deferred

/-! ### Nesting -/

/-- Replays calls against the stack of open spans, innermost first: a span starts as a child of the
innermost open span, tags, errors and finishes apply to the innermost open span, and a finish
closes it; `none` at the first call that breaks this. -/
def nest : List Nat → List (Call Tag Err) → Option (List Nat)
  | stack, [] => some stack
  | stack, .startSpan span _ parent :: calls => if parent = stack.head? then nest (span :: stack) calls else none
  | stack, .setTag span _ _ :: calls => if stack.head? = some span then nest stack calls else none
  | stack, .logError span _ _ :: calls => if stack.head? = some span then nest stack calls else none
  | stack, .finish span :: calls => if stack.head? = some span then nest stack.tail calls else none

theorem nest_append (stack : List Nat) (a b : List (Call Tag Err)) :
    nest stack (a ++ b) = (nest stack a).bind fun s => nest s b := by
  induction a generalizing stack with
  | nil => rfl
  | cons c a ih => cases c <;> simp only [List.cons_append, nest] <;> split <;> simp [ih]

/-- The span a call starts, if it is a `StartSpan`. -/
def Call.started : Call Tag Err → Option Nat
  | .startSpan span _ _ => some span
  | _ => none

/-- A traced endpoint nests: from any state and any context whose span (`spanFromContext`) is the
innermost of `stack`, the calls it adds leave `stack` as they found it, acting only on the
innermost open span, and the spans it starts are the next ones, in order. -/
def Nested (spanFromContext : Ctx → Option Nat) (e : Traced Tag Err Ctx Req Res) : Prop :=
  ∀ h ctx request stack, spanFromContext ctx = stack.head? →
    ∃ calls, (heapOf (e (h, ctx) request)).calls = h.calls ++ calls ∧ nest stack calls = some stack ∧
      calls.filterMap Call.started = List.range' h.spans ((heapOf (e (h, ctx) request)).spans - h.spans) ∧
      h.spans ≤ (heapOf (e (h, ctx) request)).spans

/-- A middleware that keeps every nested endpoint nested. -/
def KeepsNested (spanFromContext : Ctx → Option Nat)
    (m : Middleware (Heap Tag Err × Ctx) Req (Res × Heap Tag Err) (Err × Heap Tag Err)) : Prop :=
  ∀ next, Nested spanFromContext next → Nested spanFromContext (m next)

variable {spanFromContext : Ctx → Option Nat}

theorem foldr_nested {ms : List (Middleware (Heap Tag Err × Ctx) Req (Res × Heap Tag Err) (Err × Heap Tag Err))}
    (hms : ∀ m ∈ ms, KeepsNested spanFromContext m) {next : Traced Tag Err Ctx Req Res}
    (hnext : Nested spanFromContext next) : Nested spanFromContext (ms.foldr (fun m acc => m acc) next) := by
  induction ms with
  | nil => exact hnext
  | cons m ms ih =>
    exact hms m (List.mem_cons_self _ _) _ (ih fun m' hm' => hms m' (List.mem_cons_of_mem _ hm'))

/-- The step of every traced middleware: calls `pre` that open the fresh span `h.spans` on top of
`stack`, a nested `next` run in a context carrying that span, and deferred calls that act on that
span and close it. -/
theorem nested_runDeferred {next : Traced Tag Err Ctx Req Res} (hnext : Nested spanFromContext next)
    (h : Heap Tag Err) (pre : List (Call Tag Err)) (names : List String) (ctx : Ctx) (request : Req)
    (stack : List Nat) (close : Option Err → List (Call Tag Err))
    (hpre : nest stack pre = some (h.spans :: stack)) (hstart : pre.filterMap Call.started = [h.spans])
    (hclose : ∀ e, nest (h.spans :: stack) (close e) = some stack)
    (hclose' : ∀ e, (close e).filterMap Call.started = [])
    (hspan : spanFromContext ctx = some h.spans) :
    let r := runDeferred close (next (⟨h.spans + 1, h.calls ++ pre, names⟩, ctx) request)
    ∃ calls, (heapOf r).calls = h.calls ++ calls ∧ nest stack calls = some stack ∧
      calls.filterMap Call.started = List.range' h.spans ((heapOf r).spans - h.spans) ∧
      h.spans ≤ (heapOf r).spans := by
  obtain ⟨calls, hcalls, hnest, hstarted, hle⟩ := hnext ⟨h.spans + 1, h.calls ++ pre, names⟩ ctx request
    (h.spans :: stack) hspan
  dsimp only at hcalls hstarted hle ⊢
  set r := next (⟨h.spans + 1, h.calls ++ pre, names⟩, ctx) request
  refine ⟨pre ++ calls ++ close (errOf r), ?_, ?_, ?_, ?_⟩
  · simp only [heapOf_runDeferred, hcalls, List.append_assoc]
  · rw [nest_append, nest_append, hpre, Option.some_bind, hnest, Option.some_bind, hclose]
  · have hsucc : (heapOf r).spans - h.spans = (heapOf r).spans - (h.spans + 1) + 1 := by omega
    simp only [heapOf_runDeferred, List.filterMap_append, hstart, hstarted, hclose', List.append_nil,
      hsucc, List.range'_succ]
    rfl
  · simp only [heapOf_runDeferred]
    omega

/-- `Chain(outer, others...)(next)`, unfolded: the right fold of the middlewares over `next`. -/
theorem chain_apply {C Q S E : Type} (outer : Middleware C Q S E) (others : List (Middleware C Q S E))
    (next : Endpoint C Q S E) : chain outer others next = (outer :: others).foldr (fun m acc => m acc) next := by
  simp only [chain]
  rw [chainLoop_eq_foldr _ _ le_rfl, List.take_length]
  rfl

theorem flatMap_range_succ {α : Type} (g : Nat → List α) (n : Nat) :
    (List.range (n + 1)).reverse.flatMap g = (List.range n).reverse.flatMap (fun i => g (i + 1)) ++ g 0 := by
  rw [List.range_succ_eq_map, List.reverse_cons, List.flatMap_append, ← List.map_reverse, List.flatMap_map]
  simp

/-! ### opentracing -/

namespace Opentracing

/-- What the middleware uses of the opentracing library and of error values:
`opentracing.SpanFromContext`, `opentracing.ContextWithSpan`, the `lb.RetryError` type assertion
and `Error()`. -/
structure Env (Ctx Err : Type) where
  spanFromContext : Ctx → Option Nat
  contextWithSpan : Ctx → Nat → Ctx
  asRetryError : Err → Option (RetryError Err)
  errorText : Err → String

/-- `EndpointOptions`, by the fields `TraceEndpoint` reads. -/
structure EndpointOptions (Ctx Tag : Type) where
  tags : List (String × Tag) := []
  getOperationName : Option (Ctx → String → String) := none
  getTags : Option (Ctx → List (String × Tag)) := none

section Middleware

variable (env : Env Ctx Err)

/-- The fields `LogError` gets: one per attempt of an `lb.RetryError`, none for another error. -/
def retryFields (err : Err) : List (String × String) :=
  (env.asRetryError err).elim [] (retryErrorPairs env.errorText)

/-- The deferred calls once `next` has returned: `otext.LogError` for an error, then
`span.Finish()`. -/
def closing (span : Nat) : Option Err → List (Call Tag Err)
  | none => [.finish span]
  | some err => [.logError span err (retryFields env err), .finish span]

/-- The calls before `next`: the span started as a child of the context's span, then the configured
tags and those `GetTags` reads off the context. -/
def startCalls (cfg : EndpointOptions Ctx Tag) (name : String) (span : Nat) (ctx : Ctx) :
    List (Call Tag Err) :=
  .startSpan span name (env.spanFromContext ctx) ::
    (cfg.tags ++ (cfg.getTags.map fun f => f ctx).getD []).map fun t => .setTag span t.1 t.2

/-- `TraceEndpoint(tracer, operationName, opts...)`, whose variable `operationName` is the `cell`-th
name of the state: rename, start the span and tag it, call `next` with the span in the context,
then log the error and finish. -/
def traceEndpoint (cell : Nat) (cfg : EndpointOptions Ctx Tag) : Middleware (Heap Tag Err × Ctx) Req
    (Res × Heap Tag Err) (Err × Heap Tag Err) :=
  fun next hc request =>
    let name := renameSpan cfg.getOperationName (hc.1.names.getD cell "") hc.2
    let span := hc.1.spans
    runDeferred (closing env span)
      (next (⟨span + 1, hc.1.calls ++ startCalls env cfg name span hc.2, hc.1.names.set cell name⟩,
        env.contextWithSpan hc.2 span) request)

/-- The state and the context `next` runs with under the opentracing middlewares `os`, the first
outermost: each renames its span, starts and tags it, and puts it in the context. -/
def enter : List (Nat × EndpointOptions Ctx Tag) → Heap Tag Err → Ctx → Heap Tag Err × Ctx
  | [], h, ctx => (h, ctx)
  | o :: os, h, ctx =>
    let name := renameSpan o.2.getOperationName (h.names.getD o.1 "") ctx
    enter os ⟨h.spans + 1, h.calls ++ startCalls env o.2 name h.spans ctx, h.names.set o.1 name⟩
      (env.contextWithSpan ctx h.spans)

theorem enter_spans (os : List (Nat × EndpointOptions Ctx Tag)) (h : Heap Tag Err) (ctx : Ctx) :
    (enter env os h ctx).1.spans = h.spans + os.length := by
  induction os generalizing h ctx with
  | nil => rfl
  | cons o os ih => simp only [enter, ih, List.length_cons]; omega

/-- A traced call runs `next` from the state and context its middleware enters, and then the
deferred functions. -/
theorem traceEndpoint_eq_runDeferred (o : Nat × EndpointOptions Ctx Tag)
    (next : Traced Tag Err Ctx Req Res) (h : Heap Tag Err) (ctx : Ctx) (request : Req) :
    traceEndpoint env o.1 o.2 next (h, ctx) request =
      runDeferred (closing env h.spans) (next (enter env [o] h ctx) request) := rfl

theorem nest_startCalls (cfg : EndpointOptions Ctx Tag) (name : String) (span : Nat) {ctx : Ctx}
    {stack : List Nat} (hspan : env.spanFromContext ctx = stack.head?) :
    nest stack (startCalls env cfg name span ctx : List (Call Tag Err)) = some (span :: stack) := by
  simp only [startCalls, nest, hspan, if_true]
  induction cfg.tags ++ (cfg.getTags.map fun f => f ctx).getD [] with
  | nil => rfl
  | cons t tags ih => simpa [nest] using ih

theorem started_startCalls (cfg : EndpointOptions Ctx Tag) (name : String) (span : Nat) (ctx : Ctx) :
    (startCalls env cfg name span ctx : List (Call Tag Err)).filterMap Call.started = [span] := by
  simp [startCalls, Call.started, List.filterMap_map, Function.comp_def]

theorem nest_closing (span : Nat) (stack : List Nat) (e : Option Err) :
    nest (span :: stack) (closing env span e : List (Call Tag Err)) = some stack := by
  cases e <;> simp [closing, nest]

theorem started_closing (span : Nat) (e : Option Err) :
    (closing env span e : List (Call Tag Err)).filterMap Call.started = [] := by
  cases e <;> rfl

/-- One traced middleware keeps an endpoint nested: its span is a child of the context's span,
and the spans of `next` are children of it. -/
theorem traceEndpoint_nested (hctx : ∀ ctx span, env.spanFromContext (env.contextWithSpan ctx span) = some span)
    (cell : Nat) (cfg : EndpointOptions Ctx Tag) :
    KeepsNested env.spanFromContext
      (traceEndpoint env cell cfg : Middleware (Heap Tag Err × Ctx) Req (Res × Heap Tag Err) (Err × Heap Tag Err)) :=
  fun _ hnext h ctx request stack hspan =>
    nested_runDeferred hnext h _ _ _ request stack _ (nest_startCalls env cfg _ h.spans hspan)
      (started_startCalls env cfg _ h.spans ctx) (nest_closing env h.spans stack) (started_closing env h.spans)
      (hctx ctx h.spans)

end Middleware

theorem foldr_traceEndpoint_nested (env : Env Ctx Err)
    (hctx : ∀ ctx span, env.spanFromContext (env.contextWithSpan ctx span) = some span)
    (os : List (Nat × EndpointOptions Ctx Tag)) {next : Traced Tag Err Ctx Req Res}
    (hnext : Nested env.spanFromContext next) :
    Nested env.spanFromContext ((os.map fun o => traceEndpoint env o.1 o.2).foldr (fun m acc => m acc) next) :=
  foldr_nested (fun _ hm => by
    obtain ⟨o, -, rfl⟩ := List.mem_map.1 hm
    exact traceEndpoint_nested env hctx o.1 o.2) hnext

/-- Any `Chain` of opentracing middlewares around a nested endpoint is nested: each span starts as
a child of the span of the middleware around it (the outermost one under the context's span),
every call on a span is made while it is the innermost open span, and every span is finished
before the one around it. -/
theorem chain_traceEndpoint_nested (env : Env Ctx Err)
    (hctx : ∀ ctx span, env.spanFromContext (env.contextWithSpan ctx span) = some span)
    (outer : Nat × EndpointOptions Ctx Tag) (others : List (Nat × EndpointOptions Ctx Tag))
    {next : Traced Tag Err Ctx Req Res} (hnext : Nested env.spanFromContext next) :
    Nested env.spanFromContext
      (chain (traceEndpoint env outer.1 outer.2) (others.map fun o => traceEndpoint env o.1 o.2) next) := by
  rw [chain_apply]
  exact foldr_traceEndpoint_nested env hctx (outer :: others) hnext

/-- Two traced middlewares around an endpoint that makes no call on the tracer. -/
theorem chain_traceEndpoint_nested_example :
    let env : Env (Option Nat) String := ⟨id, fun _ span => some span, fun _ => none, id⟩
    let next : Traced String String (Option Nat) Unit Unit := fun hc _ => .ok ((), hc.1)
    let cfg : EndpointOptions (Option Nat) String := ⟨[], none, none⟩
    (∀ ctx span, env.spanFromContext (env.contextWithSpan ctx span) = some span) ∧
      Nested env.spanFromContext next ∧
      Nested env.spanFromContext (chain (traceEndpoint env 0 cfg) [traceEndpoint env 1 cfg] next) := by
  intro env next cfg
  have hnext : Nested env.spanFromContext next :=
    fun h _ _ _ _ => ⟨[], by simp [next, heapOf], rfl, by simp [next, heapOf], le_rfl⟩
  exact ⟨fun _ _ => rfl, hnext, chain_traceEndpoint_nested env (fun _ _ => rfl) (0, cfg) [(1, cfg)] hnext⟩

/-- The calls of that chain from a context with no span: `b`'s span is a child of `a`'s and is
finished first. -/
example :
    let env : Env (Option Nat) String := ⟨id, fun _ span => some span, fun _ => none, id⟩
    let next : Traced String String (Option Nat) Unit Unit := fun hc _ => .ok ((), hc.1)
    (heapOf (chain (traceEndpoint env 0 ⟨[], none, none⟩) [traceEndpoint env 1 ⟨[], none, none⟩] next
        (⟨0, [], ["a", "b"]⟩, none) ())).calls =
      [.startSpan 0 "a" none, .startSpan 1 "b" (some 0), .finish 1, .finish 0] := by
  decide

/-- Opentracing middlewares around `next`, the first outermost, return what `next` returns from the
state and context they enter, and add after its calls those of their deferred functions, innermost
first. -/
theorem foldr_traceEndpoint (env : Env Ctx Err) (os : List (Nat × EndpointOptions Ctx Tag))
    (next : Traced Tag Err Ctx Req Res) (h : Heap Tag Err) (ctx : Ctx) (request : Req) :
    resultOf ((os.map fun o => traceEndpoint env o.1 o.2).foldr (fun m acc => m acc) next (h, ctx) request) =
        resultOf (next (enter env os h ctx) request) ∧
      (heapOf ((os.map fun o => traceEndpoint env o.1 o.2).foldr (fun m acc => m acc) next (h, ctx) request)).calls =
        (heapOf (next (enter env os h ctx) request)).calls ++ (List.range os.length).reverse.flatMap fun i =>
          closing env (h.spans + i) (errOf (next (enter env os h ctx) request)) := by
  induction os generalizing h ctx with
  | nil => exact ⟨rfl, by simp [enter]⟩
  | cons o os ih =>
    have heq := traceEndpoint_eq_runDeferred env o
      ((os.map fun o => traceEndpoint env o.1 o.2).foldr (fun m acc => m acc) next) h ctx request
    obtain ⟨hres, hcalls⟩ := ih (enter env [o] h ctx).1 (enter env [o] h ctx).2
    refine ⟨?_, ?_⟩
    · simp only [List.map_cons, List.foldr_cons, heq, resultOf_runDeferred, hres]
      rfl
    · simp only [List.map_cons, List.foldr_cons, heq, heapOf_runDeferred, hcalls, errOf_eq_of_resultOf hres,
        List.length_cons, flatMap_range_succ, enter_spans, List.length_nil, Nat.zero_add, List.append_assoc,
        Nat.add_zero, Nat.add_assoc, Nat.add_comm 1]
      rfl

/-- A `Chain` of opentracing middlewares is transparent, and closes its spans as the call returns:
the call returns what `next` returns from the state and context the middlewares enter, one span
further each, and after the calls of `next`
come those of their deferred functions, innermost span first, each logging the returned error, if
any, with its retry fields, before finishing the span. -/
theorem chain_traceEndpoint_errors (env : Env Ctx Err) (outer : Nat × EndpointOptions Ctx Tag)
    (others : List (Nat × EndpointOptions Ctx Tag)) (next : Traced Tag Err Ctx Req Res) (h : Heap Tag Err)
    (ctx : Ctx) (request : Req) :
    let r := chain (traceEndpoint env outer.1 outer.2) (others.map fun o => traceEndpoint env o.1 o.2) next
      (h, ctx) request
    let e := enter env (outer :: others) h ctx
    e.1.spans = h.spans + (others.length + 1) ∧ resultOf r = resultOf (next e request) ∧
      (heapOf r).calls = (heapOf (next e request)).calls ++
        (List.range (others.length + 1)).reverse.flatMap fun i => closing env (h.spans + i) (errOf r) := by
  obtain ⟨hres, hcalls⟩ := foldr_traceEndpoint env (outer :: others) next h ctx request
  rw [← errOf_eq_of_resultOf hres] at hcalls
  simp only [chain_apply]
  exact ⟨enter_spans env _ h ctx, hres, hcalls⟩

/-- The same chain around an endpoint that fails: the error is logged on `b`'s span, then on
`a`'s. -/
example :
    let env : Env (Option Nat) String := ⟨id, fun _ span => some span, fun _ => none, id⟩
    let next : Traced String String (Option Nat) Unit Unit := fun hc _ => .error ("boom", hc.1)
    (heapOf (chain (traceEndpoint env 0 ⟨[], none, none⟩) [traceEndpoint env 1 ⟨[], none, none⟩] next
        (⟨0, [], ["a", "b"]⟩, none) ())).calls =
      [.startSpan 0 "a" none, .startSpan 1 "b" (some 0), .logError 1 "boom" [], .finish 1,
        .logError 0 "boom" [], .finish 0] := by
  decide

end Opentracing

/-! ### zipkin -/

namespace Zipkin

/-- What the middleware uses of the zipkin library: `zipkin.SpanFromContext`, with the span's
context as the parent, and `zipkin.NewContext`. -/
structure Env (Ctx : Type) where
  spanFromContext : Ctx → Option Nat
  newContext : Ctx → Nat → Ctx

/-- `TraceEndpoint(tracer, name)`: start a span named `name` under the context's span, call `next`
with the span in the context, and finish the span. -/
def traceEndpoint (env : Env Ctx) (name : String) :
    Middleware (Heap Tag Err × Ctx) Req (Res × Heap Tag Err) (Err × Heap Tag Err) :=
  fun next hc request =>
    let span := hc.1.spans
    runDeferred (fun _ => [.finish span])
      (next (⟨span + 1, hc.1.calls ++ [.startSpan span name (env.spanFromContext hc.2)], hc.1.names⟩,
        env.newContext hc.2 span) request)

/-- A zipkin middleware keeps an endpoint nested. -/
theorem traceEndpoint_nested (env : Env Ctx) (hctx : ∀ ctx span, env.spanFromContext (env.newContext ctx span) = some span)
    (name : String) : KeepsNested env.spanFromContext
      (traceEndpoint env name : Middleware (Heap Tag Err × Ctx) Req (Res × Heap Tag Err) (Err × Heap Tag Err)) :=
  fun _ hnext h ctx request stack hspan =>
    nested_runDeferred hnext h [.startSpan h.spans name (env.spanFromContext ctx)] h.names _ request stack
      (fun _ => [.finish h.spans]) (by simp [nest, hspan]) rfl (fun _ => by simp [nest]) (fun _ => rfl)
      (hctx ctx h.spans)

end Zipkin

end GoKit.Tracing
