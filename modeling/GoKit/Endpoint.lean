import Mathlib.Data.List.Basic

/-!
# Endpoints and middlewares (`endpoint`)

An `Endpoint` is one RPC method; a `Middleware` wraps an endpoint into another. `Chain` composes
middlewares with a loop that walks the list backwards, so that the first middleware declared ends
up outermost and requests traverse them in declaration order.
-/

namespace GoKit

/-- `Endpoint`: the fundamental building block of servers and clients, a single RPC method. -/
def Endpoint (Ctx Req Res Err : Type) := Ctx → Req → Except Err Res

/-- `Middleware`: a chainable behaviour modifier for endpoints. -/
def Middleware (Ctx Req Res Err : Type) := Endpoint Ctx Req Res Err → Endpoint Ctx Req Res Err

variable {Ctx Req Res Err : Type}

/-- `Nop`: an endpoint that does nothing, returning the zero response and a nil error. -/
def nop [Inhabited Res] : Endpoint Ctx Req Res Err := fun _ _ => .ok default

/-- The loop of `Chain`, `for i := len(others) - 1; i >= 0; i-- { next = others[i](next) }`: from
`chainLoop others i`, the indices `i - 1` down to `0` remain. -/
def chainLoop (others : List (Middleware Ctx Req Res Err)) :
    Nat → Endpoint Ctx Req Res Err → Endpoint Ctx Req Res Err
  | 0, next => next
  | i + 1, next => chainLoop others i (others.getD i id next)

/-- `Chain(outer, others...)`. -/
def chain (outer : Middleware Ctx Req Res Err) (others : List (Middleware Ctx Req Res Err)) :
    Middleware Ctx Req Res Err :=
  fun next => outer (chainLoop others others.length next)

/-- After the rounds `i - 1` down to `0`, `next` is wrapped by the first `i` middlewares, the first
outermost. -/
theorem chainLoop_eq_foldr (others : List (Middleware Ctx Req Res Err)) :
    ∀ i, i ≤ others.length → ∀ next,
      chainLoop others i next = (others.take i).foldr (fun m acc => m acc) next
  | 0, _, _ => rfl
  | i + 1, hi, next => by
    rw [chainLoop, chainLoop_eq_foldr others i (by omega), List.take_succ, List.getD_eq_getElem?_getD,
      List.getElem?_eq_getElem (by omega), Option.getD_some, Option.toList_some, List.foldr_append]
    rfl

/-- `Chain(outer, m1, ..., mn)(e) = outer(m1(...mn(e)...))`: `Chain` is the right fold of
composition over `[outer, m1, ..., mn]`. -/
theorem chain_eq_foldr (outer : Middleware Ctx Req Res Err)
    (others : List (Middleware Ctx Req Res Err)) :
    (∀ e, chain outer others e = outer (others.foldr (fun m acc => m acc) e)) ∧
      chain outer others = (outer :: others).foldr (· ∘ ·) id := by
  have hcomp : ∀ e, others.foldr (fun m acc => m acc) e = others.foldr (· ∘ ·) id e := by
    induction others with
    | nil => exact fun _ => rfl
    | cons m others ih => exact fun e => by simp [ih]
  have h : ∀ e, chain outer others e = outer (others.foldr (fun m acc => m acc) e) := fun e => by
    rw [chain, chainLoop_eq_foldr others _ le_rfl, List.take_length]
  exact ⟨h, funext fun e => by simp [h, hcomp]⟩

/-! ### Results -/

/-- The error an endpoint returned, `nil` for none. -/
def errorOf {α : Type} : Except Err α → Option Err
  | .error err => some err
  | .ok _ => none

theorem bind_eq_ok {α β : Type} {x : Except Err α} {f : α → Except Err β} {y : β}
    (h : x.bind f = .ok y) : ∃ a, x = .ok a ∧ f a = .ok y := by
  cases x with
  | error err => cases h
  | ok a => exact ⟨a, rfl, h⟩

/-! ### Counters -/

/-- The code's `uint64` counters wrap: adding one is adding one modulo `2^64`. -/
theorem toNat_add_one (c : UInt64) : (c + 1).toNat = (c.toNat + 1) % UInt64.size :=
  rfl

end GoKit
