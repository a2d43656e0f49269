import GoKit.Sd.Lifecycle
import GoKit.Lb.Balancer

/-!
# A balancer over a `DefaultEndpointer`

`lb.NewRoundRobin(sd.NewEndpointer(...))` and `lb.NewRandom(...)` over it: the endpointer's receive
loop applies the discovery events to its cache, and each `Endpoint()` of the balancer reads
`Endpoints()` once and picks from the answer. A run of the pool is a list of `Op`s in which every
`Endpoints` call is a balancer's.

`poolRun_eq` splits a run of the pool into the cache's run and the balancer's run over that run's
answers, so every result about either side carries over. Put together with the closer accounting
of `GoKit.Sd.Lifecycle`, it shows the guarantee the cache's update order is there for: a snapshot
only holds endpoints of entries in the map, so no balancer call ever hands out an endpoint whose
closer has been closed.
-/

namespace GoKit.Lb
open GoKit.Sd

/-- A balancer over a `DefaultEndpointer`: the endpointer's cache and the balancer's own state. -/
structure Pool (ι E ε σ : Type) where
  cache : EndpointCache ι E ε
  balancer : σ

variable {ι E ε σ : Type} [LinearOrder ι] (factory : Factory ι E ε)
  (pick : σ → (n : Nat) → 0 < n → Fin n × σ)

/-- One operation on the pool: an `Update` of the receive loop, or a balancer's `Endpoint()`. -/
def poolStep (p : Pool ι E ε σ) (op : Op ι ε) : Pool ι E ε σ × Option (Except (BalancerError ε) E) :=
  match step factory p.cache op with
  | (c, none) => (⟨c, p.balancer⟩, none)
  | (c, some answer) =>
    let r := selectEndpoint pick p.balancer answer
    (⟨c, r.2⟩, some r.1)

/-- A run of the pool: the final state and the results of its balancer calls, in order. -/
def poolRun (p : Pool ι E ε σ) : List (Op ι ε) → Pool ι E ε σ × List (Except (BalancerError ε) E)
  | [] => (p, [])
  | op :: ops =>
    let r := poolStep factory pick p op
    let rest := poolRun r.1 ops
    (rest.1, r.2.toList ++ rest.2)

/-- The pool runs its two halves side by side: the cache runs the operations, and the balancer
runs over the answers of the cache's `Endpoints` calls. -/
theorem poolRun_eq (p : Pool ι E ε σ) (ops : List (Op ι ε)) :
    poolRun factory pick p ops =
      (⟨(run factory p.cache ops).1, (runBalancer pick p.balancer (run factory p.cache ops).2).2⟩,
        (runBalancer pick p.balancer (run factory p.cache ops).2).1) := by
  induction ops generalizing p with
  | nil => rfl
  | cons op ops ih =>
    cases op <;> simp only [poolRun, poolStep, step, ih, run_cons] <;> rfl

/-! ### What a balancer call can return -/

/-- Every endpoint of the published snapshot is the endpoint of an entry of the map. -/
def SnapshotHeld (c : EndpointCache ι E ε) : Prop :=
  ∀ e ∈ c.endpoints, ∃ i ec, c.cache.lookup i = some ec ∧ ec.endpoint = e

/-- `updateCache` publishes the endpoints of the map it swaps in. -/
theorem snapshotHeld_updateCache (c : EndpointCache ι E ε) (l : List ι) :
    SnapshotHeld (updateCache factory c l) := fun e he => by
  obtain ⟨i, -, hi⟩ := List.mem_filterMap.mp he
  obtain ⟨ec, hec, rfl⟩ := Option.map_eq_some'.mp hi
  exact ⟨i, ec, hec, rfl⟩

theorem step_snapshotHeld (c : EndpointCache ι E ε) (op : Op ι ε) (h : SnapshotHeld c) :
    SnapshotHeld (step factory c op).1 := by
  cases op with
  | update event now =>
    obtain ⟨l, _ | err⟩ := event
    · exact snapshotHeld_updateCache factory c l
    · show SnapshotHeld (update factory c ⟨l, some err⟩ now)
      rw [update_of_err]
      split <;> exact h
  | endpoints now₁ now₂ =>
    show SnapshotHeld (endpoints factory c now₁ now₂).2
    rcases endpoints_cases factory c now₁ now₂ with ⟨-, hc⟩ | ⟨-, -, hc⟩ <;> rw [hc]
    · exact h
    · exact snapshotHeld_updateCache factory c []

theorem snapshotHeld_run (options : EndpointerOptions) (ops : List (Op ι ε)) :
    SnapshotHeld (run factory (newEndpointCache options) ops).1 :=
  run_invariant factory SnapshotHeld (fun _ => True) (fun c op _ => step_snapshotHeld factory c op)
    _ ops (fun _ _ => trivial) (fun _ h => nomatch h)

theorem mem_heldClosers {m : CacheMap ι E} {i : ι} {ec : EndpointCloser E} {k : Nat}
    (h : m.lookup i = some ec) (hk : ec.closer = some k) : k ∈ heldClosers m :=
  List.mem_filterMap.mpr ⟨⟨i, ec⟩, AList.mem_lookup_iff.mp h, hk⟩

/-- In a reachable state no closer held by the map has been closed. -/
theorem not_mem_closed_of_lookup (options : EndpointerOptions) (ops : List (Op ι ε)) {i : ι}
    {ec : EndpointCloser E} {k : Nat}
    (h : (run factory (newEndpointCache options) ops).1.cache.lookup i = some ec)
    (hk : ec.closer = some k) : k ∉ (run factory (newEndpointCache options) ops).1.closed := fun hc => by
  have hle := count_accounted_le factory (accountedClosers_subperm_run factory options ops) k
  have hheld := List.count_pos_iff.mpr (mem_heldClosers h hk)
  have hclosed := List.count_pos_iff.mpr hc
  split at hle <;> omega

/-- An answer of `Endpoints` without error is the snapshot, and the call changed nothing. -/
theorem endpoints_of_mem {c : EndpointCache ι E ε} {now₁ now₂ : Int} {e : E}
    (h : e ∈ (endpoints factory c now₁ now₂).1.1) :
    (endpoints factory c now₁ now₂).2 = c ∧ e ∈ c.endpoints := by
  rcases endpoints_cases factory c now₁ now₂ with ⟨-, hc⟩ | ⟨-, -, hc⟩ <;> rw [hc] at h ⊢
  · exact ⟨rfl, h⟩
  · cases h

end GoKit.Lb
