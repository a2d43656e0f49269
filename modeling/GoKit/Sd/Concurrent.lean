import GoKit.Sd.Lifecycle

/-!
# `Endpoints` under its locks

`Endpoints` takes the read lock for the fast path, releases it, and takes the write lock for the
slow path, where it re-checks before invalidating. Under the `RWMutex` each locked section runs
whole, so a run with concurrent readers is an interleaving of locked sections: `Update`s, the
read-locked section of each reader's call, and, after a failed fast path, its write-locked section.
Between the two sections of one call anything may run.

Each call behaves as if executed whole at its last locked section (`completes`): the read-locked
section when the fast path answers, the write-locked one otherwise. The run reaches the state, and
gives the answers, of the sequential run of those calls (`concRun_linearizes`). The re-check is what
makes this so: the write-locked section is `Endpoints` run whole at that moment.
-/

namespace GoKit.Sd

/-- A locked section: an `Update`, or the read-locked or write-locked section of reader `r`'s
`Endpoints` call, with the clock reading it takes. -/
inductive Section (ι ε : Type)
  | update (event : Event ι ε) (now : Int)
  | rlocked (r : Nat) (now : Int)
  | locked (r : Nat) (now : Int)

/-- The shared cache, and the readers between `RUnlock` and `Lock`. -/
structure ConcState (ι E ε : Type) where
  cache : EndpointCache ι E ε
  upgrading : List Nat

variable {ι E ε : Type} [LinearOrder ι] (factory : Factory ι E ε)

/-- One locked section: `none` if it cannot run (a reader's sections come in order), else the new
state and the answer of the call it completes, with the reader that gets it. -/
def concStep (s : ConcState ι E ε) :
    Section ι ε → Option (ConcState ι E ε × Option (Nat × (List E × Option ε)))
  | .update event now => some (⟨update factory s.cache event now, s.upgrading⟩, none)
  | .rlocked r now =>
    if r ∈ s.upgrading then none
    else match endpointsRLocked s.cache now with
      | some answer => some (s, some (r, answer))
      | none => some (⟨s.cache, r :: s.upgrading⟩, none)
  | .locked r now =>
    if r ∈ s.upgrading then
      some (⟨(endpointsLocked factory s.cache now).2, s.upgrading.erase r⟩,
        some (r, (endpointsLocked factory s.cache now).1))
    else none

/-- An interleaving of locked sections: the final state and the answers, in order. -/
def concRun (s : ConcState ι E ε) :
    List (Section ι ε) → Option (ConcState ι E ε × List (Nat × (List E × Option ε)))
  | [] => some (s, [])
  | sec :: secs => do
    let (s', out) ← concStep factory s sec
    let (s'', outs) ← concRun s' secs
    pure (s'', out.toList ++ outs)

/-- The call a locked section completes, as one whole call at that section's clock reading. -/
def completes (s : ConcState ι E ε) : Section ι ε → Option (Op ι ε)
  | .update event now => some (.update event now)
  | .rlocked _ now => (endpointsRLocked s.cache now).map fun _ => .endpoints now now
  | .locked _ now => some (.endpoints now now)

/-- The sequential run an interleaving is compared with: each call at its last locked section. -/
def linearize (s : ConcState ι E ε) : List (Section ι ε) → List (Op ι ε)
  | [] => []
  | sec :: secs =>
    match concStep factory s sec with
    | some (s', _) => (completes s sec).toList ++ linearize s' secs
    | none => []

/-- `Endpoints` run whole at one clock reading is its write-locked section: the fast path answers
exactly when the re-check would. -/
theorem endpoints_self (c : EndpointCache ι E ε) (now : Int) :
    endpoints factory c now now = endpointsLocked factory c now := by
  unfold endpoints endpointsRLocked endpointsLocked
  by_cases h : serving c now <;> simp [h]

/-- A locked section that runs is the whole call it completes, if any. -/
theorem concStep_completes {s s' : ConcState ι E ε} {sec : Section ι ε}
    {out : Option (Nat × (List E × Option ε))} (h : concStep factory s sec = some (s', out)) :
    run factory s.cache (completes s sec).toList = (s'.cache, (out.map (·.2)).toList) := by
  cases sec with
  | update event now => cases h; rfl
  | rlocked r now =>
    simp only [concStep] at h
    split at h
    · cases h
    · cases hr : endpointsRLocked s.cache now with
      | none => simp only [hr, Option.some.injEq] at h; cases h; simp [completes, hr]
      | some answer =>
        simp only [hr, Option.some.injEq] at h; cases h
        simp [completes, hr, step, endpoints]
  | locked r now =>
    simp only [concStep] at h
    split at h
    · cases h; simp [completes, step, endpoints_self]
    · cases h

theorem concRun_cons_eq_some {s : ConcState ι E ε} {sec : Section ι ε} {secs : List (Section ι ε)}
    {r : ConcState ι E ε × List (Nat × (List E × Option ε))}
    (h : concRun factory s (sec :: secs) = some r) :
    ∃ s₁ out rest, concStep factory s sec = some (s₁, out) ∧ concRun factory s₁ secs = some rest ∧
      r = (rest.1, out.toList ++ rest.2) := by
  simp only [concRun, Option.bind_eq_bind, Option.bind_eq_some] at h
  obtain ⟨⟨s₁, out⟩, h₁, ⟨s₂, outs⟩, h₂, h₃⟩ := h
  exact ⟨s₁, out, (s₂, outs), h₁, h₂, (Option.some.inj h₃).symm⟩

/-- Every interleaving reaches the state, and gives the answers, of the sequential run of its calls
each executed whole at its last locked section. -/
theorem concRun_linearizes (s : ConcState ι E ε) (secs : List (Section ι ε))
    {r : ConcState ι E ε × List (Nat × (List E × Option ε))} (h : concRun factory s secs = some r) :
    run factory s.cache (linearize factory s secs) = (r.1.cache, r.2.map (·.2)) := by
  induction secs generalizing s r with
  | nil => cases h; rfl
  | cons sec secs ih =>
    obtain ⟨s₁, out, rest, h₁, h₂, rfl⟩ := concRun_cons_eq_some factory h
    simp only [linearize, h₁, run_append, concStep_completes factory h₁, ih s₁ h₂]
    cases out <;> simp

theorem concStep_rlocked_cache {t t' : ConcState ι E ε} {rd : Nat} {now : Int}
    {out : Option (Nat × (List E × Option ε))}
    (h : concStep factory t (.rlocked rd now) = some (t', out)) : t'.cache = t.cache := by
  simp only [concStep] at h
  split at h
  · cases h
  · cases hr : endpointsRLocked t.cache now <;> simp only [hr, Option.some.injEq] at h <;>
      (cases h; rfl)

/-- The write-locked section changes the cache only with an error recorded and the deadline
reached. -/
theorem endpointsLocked_changes {c : EndpointCache ι E ε} {now : Int}
    (h : (endpointsLocked factory c now).2 ≠ c) : c.err.isSome ∧ c.invalidateDeadline ≤ now := by
  unfold endpointsLocked at h
  by_cases hs : serving c now
  · simp [hs] at h
  · simp only [serving, Bool.or_eq_true, decide_eq_true_eq, not_or] at hs
    exact ⟨by cases he : c.err <;> simp_all, not_lt.mp hs.2⟩

/-- Linearizability of `Endpoints` against `Update`: every interleaving of locked sections reaches
the state, with the same closers closed, and gives the answers of the sequential run where each
call runs whole at its last locked section. A read-locked section never changes the cache; a
write-locked section changes it only with an error recorded and the clock at or past the
deadline. -/
theorem endpoints_linearizable (s : ConcState ι E ε) (secs : List (Section ι ε))
    (r : ConcState ι E ε × List (Nat × (List E × Option ε)))
    (h : concRun factory s secs = some r) :
    run factory s.cache (linearize factory s secs) = (r.1.cache, r.2.map (·.2)) ∧
    (∀ (t t' : ConcState ι E ε) (rd : Nat) (now : Int) out,
      concStep factory t (.rlocked rd now) = some (t', out) → t'.cache = t.cache) ∧
    (∀ (t t' : ConcState ι E ε) (rd : Nat) (now : Int) out,
      concStep factory t (.locked rd now) = some (t', out) → t'.cache ≠ t.cache →
        t.cache.err.isSome ∧ t.cache.invalidateDeadline ≤ now) := by
  refine ⟨concRun_linearizes factory s secs h, fun _ _ _ _ _ => concStep_rlocked_cache factory,
    fun t t' rd now out hstep hne => endpointsLocked_changes factory ?_⟩
  simp only [concStep] at hstep
  split at hstep
  · cases hstep; exact hne
  · cases hstep

/-- Two readers find the deadline passed, then a good event lands before their write-locked
sections: both re-check, find no error, and answer the new snapshot. -/
theorem endpoints_linearizable_example :
    let factory : Factory ℕ ℕ Unit := fun k _ => .ok (k, true)
    let s₀ : ConcState ℕ ℕ Unit := ⟨newEndpointCache (endpointerOptionsOf [invalidateOnError 5]), []⟩
    let secs : List (Section ℕ Unit) := [.update ⟨[1], none⟩ 0, .update ⟨[], some ()⟩ 1,
      .rlocked 0 7, .rlocked 1 7, .update ⟨[1], none⟩ 8, .locked 0 9, .locked 1 9]
    let r := (concRun factory s₀ secs).getD (s₀, [])
    concRun factory s₀ secs = some r ∧ r.2 = [(0, ([0], none)), (1, ([0], none))] ∧
      (run factory s₀.cache (linearize factory s₀ secs) = (r.1.cache, r.2.map (·.2)) ∧
      (∀ (t t' : ConcState ℕ ℕ Unit) (rd : Nat) (now : Int) out,
        concStep factory t (.rlocked rd now) = some (t', out) → t'.cache = t.cache) ∧
      (∀ (t t' : ConcState ℕ ℕ Unit) (rd : Nat) (now : Int) out,
        concStep factory t (.locked rd now) = some (t', out) → t'.cache ≠ t.cache →
          t.cache.err.isSome ∧ t.cache.invalidateDeadline ≤ now)) :=
  ⟨rfl, rfl, endpoints_linearizable _ _ _ _ rfl⟩

/-- Readers that race past the deadline together close each closer at most once: along every
interleaving from a new cache, a closer is held or closed at most once, and only if issued. -/
theorem concurrent_closer_closed_at_most_once (o : EndpointerOptions) (secs : List (Section ι ε))
    (r : ConcState ι E ε × List (Nat × (List E × Option ε)))
    (h : concRun factory ⟨newEndpointCache o, []⟩ secs = some r) (k : Nat) :
    (heldClosers r.1.cache.cache).count k + r.1.cache.closed.count k ≤
      if k ∈ issuedClosers factory r.1.cache.calls then 1 else 0 := by
  have hrun := congrArg Prod.fst (concRun_linearizes factory _ secs h)
  simp only at hrun
  exact hrun ▸ count_accounted_le factory (accountedClosers_subperm_run factory o _) k

/-- Two readers past the deadline, both invalidating: closer `0` is closed once. -/
theorem concurrent_closer_closed_at_most_once_example :
    let factory : Factory ℕ ℕ Unit := fun k _ => .ok (k, true)
    let s₀ : ConcState ℕ ℕ Unit := ⟨newEndpointCache (endpointerOptionsOf [invalidateOnError 5]), []⟩
    let secs : List (Section ℕ Unit) := [.update ⟨[1], none⟩ 0, .update ⟨[], some ()⟩ 1,
      .rlocked 0 7, .rlocked 1 7, .locked 0 9, .locked 1 9]
    let r := (concRun factory s₀ secs).getD (s₀, [])
    concRun factory s₀ secs = some r ∧ r.1.cache.closed = [0] ∧
      (heldClosers r.1.cache.cache).count 0 + r.1.cache.closed.count 0 ≤
        if 0 ∈ issuedClosers factory r.1.cache.calls then 1 else 0 :=
  by
    intro factory s₀ secs r
    exact ⟨rfl, rfl, concurrent_closer_closed_at_most_once factory
      (endpointerOptionsOf [invalidateOnError 5]) secs r rfl 0⟩

end GoKit.Sd
