import GoKit.Sd.Cache

/-!
# Runs of the endpoint cache

Two kinds of calls drive the cache: `Update`, from the receive loop of `DefaultEndpointer`, which
applies the discovery events in arrival order, and `Endpoints`, from any number of callers. A run
is a list of such calls, each executed whole; `GoKit.Sd.Concurrent` splits `Endpoints` into its two
locked sections and shows that this reading loses nothing.
-/

namespace GoKit.Sd

/-- A call on the cache, with the clock readings it may take: `Update` reads the clock once (only
on the first error with `InvalidateOnError`), `Endpoints` on the fast path and again on the
re-check. -/
inductive Op (ι ε : Type)
  | update (event : Event ι ε) (now : Int)
  | endpoints (now₁ now₂ : Int)

variable {ι E ε : Type} [LinearOrder ι] (factory : Factory ι E ε)

/-- One call: the new state, and the answer of an `Endpoints` call. -/
def step (c : EndpointCache ι E ε) : Op ι ε → EndpointCache ι E ε × Option (List E × Option ε)
  | .update event now => (update factory c event now, none)
  | .endpoints now₁ now₂ =>
    let r := endpoints factory c now₁ now₂
    (r.2, some r.1)

/-- A run: the final state and the answers of its `Endpoints` calls, in order. -/
def run (c : EndpointCache ι E ε) : List (Op ι ε) → EndpointCache ι E ε × List (List E × Option ε)
  | [] => (c, [])
  | op :: ops =>
    let r := step factory c op
    let rest := run r.1 ops
    (rest.1, r.2.toList ++ rest.2)

/-- `DefaultEndpointer.receive`: every event of the channel, in arrival order, with the clock
reading its `Update` would take. -/
def receive (c : EndpointCache ι E ε) (events : List (Event ι ε × Int)) : EndpointCache ι E ε :=
  events.foldl (fun c e => update factory c e.1 e.2) c

@[simp] theorem run_nil (c : EndpointCache ι E ε) : run factory c [] = (c, []) := rfl

@[simp] theorem run_cons (c : EndpointCache ι E ε) (op : Op ι ε) (ops : List (Op ι ε)) :
    run factory c (op :: ops) =
      ((run factory (step factory c op).1 ops).1,
        (step factory c op).2.toList ++ (run factory (step factory c op).1 ops).2) := rfl

theorem run_append (c : EndpointCache ι E ε) (ops₁ ops₂ : List (Op ι ε)) :
    run factory c (ops₁ ++ ops₂) =
      ((run factory (run factory c ops₁).1 ops₂).1,
        (run factory c ops₁).2 ++ (run factory (run factory c ops₁).1 ops₂).2) := by
  induction ops₁ generalizing c with
  | nil => rfl
  | cons op ops ih => simp [ih]

theorem receive_eq_run (c : EndpointCache ι E ε) (events : List (Event ι ε × Int)) :
    receive factory c events = (run factory c (events.map fun e => .update e.1 e.2)).1 := by
  induction events generalizing c with
  | nil => rfl
  | cons e events ih => exact ih _

/-- What every call allowed by `good` keeps, every run of such calls keeps. -/
theorem run_invariant (P : EndpointCache ι E ε → Prop) (good : Op ι ε → Prop)
    (hstep : ∀ c op, good op → P c → P (step factory c op).1) :
    ∀ (c : EndpointCache ι E ε) (ops : List (Op ι ε)), (∀ op ∈ ops, good op) → P c →
      P (run factory c ops).1
  | _, [], _, hc => hc
  | c, op :: ops, hops, hc =>
    run_invariant P good hstep _ ops (fun o ho => hops o (List.mem_cons_of_mem _ ho))
      (hstep c op (hops op (List.mem_cons_self _ _)) hc)

@[simp] theorem step_options (c : EndpointCache ι E ε) (op : Op ι ε) :
    (step factory c op).1.options = c.options := by
  cases op with
  | update event now => exact update_options factory c event now
  | endpoints now₁ now₂ =>
    show (endpoints factory c now₁ now₂).2.options = c.options
    rcases endpoints_cases factory c now₁ now₂ with ⟨-, h⟩ | ⟨-, -, h⟩ <;> rw [h]
    exact updateCache_options factory c []

end GoKit.Sd
