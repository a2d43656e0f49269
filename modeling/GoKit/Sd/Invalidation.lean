import GoKit.Sd.Run

/-!
# Error handling and invalidation

What a reader sees, by the documentation of `InvalidateOnError`: the snapshot `S` of the last good
`Update`, until the first error event `E` after it has aged `invalidateTimeout`; from then on no
endpoints and `E`'s error, until the next good event. `ErrorView` is that reading of a run: the
snapshot and the first error since, with the clock reading at which it was applied.

The cache agrees with the view on every run whose `Endpoints` clock readings do not go back
(`Tracks` is the invariant that links them). The readings must not go back because an invalidation
empties the cache: a later reading before the deadline would take the fast path and return the
emptied snapshot with no error.
-/

namespace GoKit.Sd

/-- The snapshot of the last good `Update` and the first error event since, with the clock reading
at which it was applied. -/
structure ErrorView (E ε : Type) where
  snapshot : List E
  firstErr : Option (ε × Int)

variable {ι E ε : Type}

namespace ErrorView

/-- The view after an `Update` of `event` at `now` that left the cache at `c'`. -/
def observe (o : EndpointerOptions) (v : ErrorView E ε) (c' : EndpointCache ι E ε)
    (event : Event ι ε) (now : Int) : ErrorView E ε :=
  match event.err with
  | none => ⟨c'.endpoints, none⟩
  | some e => if o.invalidateOnError ∧ v.firstErr.isNone then { v with firstErr := some (e, now) } else v

/-- What a read at `now` returns by the documentation. -/
def expected (o : EndpointerOptions) (v : ErrorView E ε) (now : Int) : List E × Option ε :=
  match v.firstErr with
  | some (e, tE) => if tE + o.invalidateTimeout ≤ now then ([], some e) else (v.snapshot, none)
  | none => (v.snapshot, none)

end ErrorView

/-- The clock readings of the `Endpoints` calls of a run, in order. -/
def readClocks : List (Op ι ε) → List Int
  | [] => []
  | .update _ _ :: ops => readClocks ops
  | .endpoints now₁ now₂ :: ops => now₁ :: now₂ :: readClocks ops

section Linking
variable (o : EndpointerOptions)

/-- The cache agrees with the view, for reads at the clock readings `ts` still to come. -/
structure Tracks (c : EndpointCache ι E ε) (v : ErrorView E ε) (ts : List Int) : Prop where
  options : c.options = o
  err : c.err = v.firstErr.map (·.1)
  deadline : ∀ e tE, v.firstErr = some (e, tE) → c.invalidateDeadline = tE + o.invalidateTimeout
  snapshot : c.endpoints = v.snapshot ∨
    ∃ e tE, v.firstErr = some (e, tE) ∧ ∀ t ∈ ts, tE + o.invalidateTimeout ≤ t

namespace Tracks
variable {o} {c : EndpointCache ι E ε} {v : ErrorView E ε} {ts : List Int}

theorem mono (h : Tracks o c v ts) {ts' : List Int} (hts : ∀ t ∈ ts', t ∈ ts) :
    Tracks o c v ts' :=
  ⟨h.options, h.err, h.deadline, h.snapshot.imp_right fun ⟨e, tE, he, hle⟩ =>
    ⟨e, tE, he, fun t ht => hle t (hts t ht)⟩⟩

/-- While no error is pending, the cache serves the view's snapshot. -/
theorem endpoints_eq_of_none (h : Tracks o c v ts) (hv : v.firstErr = none) :
    c.endpoints = v.snapshot :=
  h.snapshot.resolve_right fun ⟨_, _, he, _⟩ => by simp [hv] at he

end Tracks

end Linking

section Runs
variable [LinearOrder ι] (factory : Factory ι E ε) (o : EndpointerOptions)

/-- The answers the `Endpoints` calls of a run give by the documentation; the snapshot of a good
`Update` is the one the cache built. -/
def expectedReads (c : EndpointCache ι E ε) (v : ErrorView E ε) :
    List (Op ι ε) → List (List E × Option ε)
  | [] => []
  | .update event now :: ops =>
    expectedReads (update factory c event now)
      (v.observe o (update factory c event now) event now) ops
  | .endpoints now₁ now₂ :: ops =>
    v.expected o now₁ :: expectedReads (endpoints factory c now₁ now₂).2 v ops

namespace Tracks
variable {o} {c : EndpointCache ι E ε} {v : ErrorView E ε} {ts : List Int}

/-- An `Update` keeps the cache and the view in step. -/
theorem update (h : Tracks o c v ts) (event : Event ι ε) (now : Int) :
    Tracks o (update factory c event now) (v.observe o (update factory c event now) event now) ts := by
  cases h.options
  obtain ⟨l, _ | e⟩ := event
  · exact ⟨by simp [update_of_ok], rfl, by simp [ErrorView.observe], .inl rfl⟩
  · have hnone : c.err.isNone = v.firstErr.isNone := by simp [h.err]
    rw [update_of_err]
    by_cases hc : c.options.invalidateOnError ∧ c.err.isNone
    · have hv : v.firstErr = none := by simpa [hnone] using hc.2
      rw [if_pos hc]
      simp only [ErrorView.observe, hc.1, ← hnone, hc.2, and_self, if_true]
      exact ⟨rfl, rfl, by simp, .inl (h.endpoints_eq_of_none hv)⟩
    · rw [if_neg hc]
      simp only [ErrorView.observe, ← hnone, hc, if_false]
      exact ⟨rfl, h.err, h.deadline, h.snapshot⟩

/-- An `Endpoints` call answers what the view expects and keeps the cache and the view in step,
provided its readings do not go back and later readings are no earlier. -/
theorem endpoints {now₁ now₂ : Int} (h : Tracks o c v (now₁ :: now₂ :: ts))
    (hs : (now₁ :: now₂ :: ts).Sorted (· ≤ ·)) :
    (endpoints factory c now₁ now₂).1 = v.expected o now₁ ∧
      Tracks o (endpoints factory c now₁ now₂).2 v ts := by
  cases h.options
  have hle : ∀ t ∈ now₂ :: ts, now₁ ≤ t := (List.sorted_cons.mp hs).1
  have hts : ∀ t ∈ ts, t ∈ now₁ :: now₂ :: ts := fun t ht => by simp [ht]
  rcases hv : v.firstErr with _ | ⟨e, tE⟩
  · have hserve : serving c now₁ = true := by simp [serving, h.err, hv]
    simp only [GoKit.Sd.endpoints, endpointsRLocked, hserve, if_true, ErrorView.expected, hv]
    exact ⟨by rw [h.endpoints_eq_of_none hv], h.mono hts⟩
  · have hdl := h.deadline e tE hv
    by_cases hlt : now₁ < tE + c.options.invalidateTimeout
    · have hserve : serving c now₁ = true := by simp [serving, hdl, hlt]
      simp only [GoKit.Sd.endpoints, endpointsRLocked, hserve, if_true, ErrorView.expected, hv,
        if_neg (not_le.mpr hlt)]
      refine ⟨?_, h.mono hts⟩
      rcases h.snapshot with hsnap | ⟨e', tE', he', hge⟩
      · rw [hsnap]
      · rw [hv, Option.some_inj, Prod.mk.injEq] at he'
        obtain ⟨rfl, rfl⟩ := he'
        exact absurd (hge _ (List.mem_cons_self _ _)) (not_le.mpr hlt)
    · have h₂ := hle now₂ (List.mem_cons_self _ _)
      have hserve₁ : serving c now₁ = false := by simp [serving, h.err, hv, hdl]; omega
      have hserve₂ : serving c now₂ = false := by simp [serving, h.err, hv, hdl]; omega
      simp only [GoKit.Sd.endpoints, endpointsRLocked, endpointsLocked, hserve₁, hserve₂,
        Bool.false_eq_true, if_false, updateCache_err, h.err, hv, ErrorView.expected,
        if_pos (not_lt.mp hlt)]
      refine ⟨rfl, ⟨by simp, by simp [h.err, hv], fun e' tE' he' => by simp [h.deadline e' tE' he'],
        .inr ⟨e, tE, hv, fun t ht => ?_⟩⟩⟩
      exact le_trans (not_lt.mp hlt) (hle t (List.mem_cons_of_mem _ ht))

end Tracks

/-- Along a run whose read clock readings do not go back, the cache answers every `Endpoints` call
as the view expects. -/
theorem run_reads_eq_expectedReads (c : EndpointCache ι E ε) (v : ErrorView E ε)
    (ops : List (Op ι ε)) (hs : (readClocks ops).Sorted (· ≤ ·))
    (h : Tracks o c v (readClocks ops)) :
    (run factory c ops).2 = expectedReads factory o c v ops := by
  induction ops generalizing c v with
  | nil => rfl
  | cons op ops ih =>
    cases op with
    | update event now => exact ih _ _ hs (h.update factory event now)
    | endpoints now₁ now₂ =>
      obtain ⟨hr, h'⟩ := h.endpoints factory hs
      simp only [run_cons, step, Option.toList, expectedReads, hr, List.singleton_append]
      exact congrArg _ (ih _ _ (hs.of_cons.of_cons) h')

/-- An `Endpoints` call that reports an error has emptied the map and the snapshot and closed every
closer the map held. -/
theorem endpoints_of_err (c : EndpointCache ι E ε) (now₁ now₂ : Int) {e : ε}
    (h : (endpoints factory c now₁ now₂).1.2 = some e) :
    (endpoints factory c now₁ now₂).1.1 = [] ∧ (endpoints factory c now₁ now₂).2.cache = ∅ ∧
      (endpoints factory c now₁ now₂).2.endpoints = [] ∧
      (endpoints factory c now₁ now₂).2.closed = c.closed ++ heldClosers c.cache := by
  rcases endpoints_cases factory c now₁ now₂ with ⟨-, h'⟩ | ⟨-, -, h'⟩ <;> rw [h'] at h ⊢
  · cases h
  · exact ⟨rfl, rfl, rfl, rfl⟩

/-- The error state machine of the cache: reads follow `ErrorView` along every run from a new cache
whose read clock readings do not go back; a read that reports the error has emptied the cache and
closed its closers; without `InvalidateOnError` an error event leaves the map, the snapshot and the
recorded error alone; once an error is recorded, further error events change neither it nor the
deadline; a good event clears it. -/
theorem endpoints_invalidation_state_machine :
    (∀ (o : EndpointerOptions) (ops : List (Op ι ε)), (readClocks ops).Sorted (· ≤ ·) →
      (run factory (newEndpointCache o) ops).2 =
        expectedReads factory o (newEndpointCache o) ⟨[], none⟩ ops) ∧
    (∀ (c : EndpointCache ι E ε) (now₁ now₂ : Int) (e : ε),
      (endpoints factory c now₁ now₂).1.2 = some e →
      (endpoints factory c now₁ now₂).1.1 = [] ∧ (endpoints factory c now₁ now₂).2.cache = ∅ ∧
        (endpoints factory c now₁ now₂).2.endpoints = [] ∧
        (endpoints factory c now₁ now₂).2.closed = c.closed ++ heldClosers c.cache) ∧
    (∀ (c : EndpointCache ι E ε) (l : List ι) (e : ε) (now : Int),
      c.options.invalidateOnError = false →
      (update factory c ⟨l, some e⟩ now).cache = c.cache ∧
        (update factory c ⟨l, some e⟩ now).endpoints = c.endpoints ∧
        (update factory c ⟨l, some e⟩ now).err = c.err) ∧
    (∀ (c : EndpointCache ι E ε) (l : List ι) (e : ε) (now : Int), c.err.isSome →
      (update factory c ⟨l, some e⟩ now).err = c.err ∧
        (update factory c ⟨l, some e⟩ now).invalidateDeadline = c.invalidateDeadline) ∧
    (∀ (c : EndpointCache ι E ε) (l : List ι) (now : Int),
      (update factory c ⟨l, none⟩ now).err = none) := by
  refine ⟨fun o ops hs => run_reads_eq_expectedReads factory o _ _ ops hs
      ⟨rfl, rfl, (fun _ _ h => by cases h), .inl rfl⟩,
    fun c now₁ now₂ e h => endpoints_of_err factory c now₁ now₂ h,
    fun c l e now ho => ?_, fun c l e now he => ?_, fun _ _ _ => rfl⟩
  · rw [update_of_err, if_neg (by simp [ho])]; exact ⟨rfl, rfl, rfl⟩
  · rw [update_of_err, if_neg (by cases hc : c.err <;> simp_all)]; exact ⟨rfl, rfl⟩

end Runs

end GoKit.Sd
