import Mathlib.Data.List.AList
import Mathlib.Data.List.Sort

/-!
# The endpoint cache (`sd.endpointCache`)

`endpointCache` turns the instance lists a service-discovery system publishes into endpoints. On a
good event `updateCache` sorts the instances, carries the entries of surviving instances over, calls
the factory for the new ones, closes the closers of the instances that disappeared and publishes the
endpoints in instance order. On an error event, with `InvalidateOnError`, the first error starts a
grace period; an `Endpoints` call after it empties the cache and reports the error.

The factory, the closers and the logger are the cache's only contacts with the world outside. The
state records each call made to them (`calls`, `closed`, `logs`), so that what the code does to them
is part of what a theorem can speak about. The factory answers as a function of its call index and
the instance, which covers every answer a Go closure can give; the closer handed out by call `k` is
named `k`. Clock readings and durations are nanoseconds.
-/

namespace GoKit.Sd

/-- `Event`, with the two fields `Update` reads. -/
structure Event (ι ε : Type) where
  instances : List ι
  err : Option ε
deriving Repr, DecidableEq

/-- `endpointerOptions`; `InvalidateOnError` sets both fields. -/
structure EndpointerOptions where
  invalidateOnError : Bool := false
  invalidateTimeout : Int := 0
deriving Repr, DecidableEq

/-- `EndpointerOption`. -/
def EndpointerOption := EndpointerOptions → EndpointerOptions

/-- `InvalidateOnError(timeout)`. -/
def invalidateOnError (timeout : Int) : EndpointerOption :=
  fun opts => { opts with invalidateOnError := true, invalidateTimeout := timeout }

/-- The options `NewEndpointer` passes to the cache: each option applied in turn to the zero value. -/
def endpointerOptionsOf (options : List EndpointerOption) : EndpointerOptions :=
  options.foldl (fun opts opt => opt opts) {}

/-- `endpointCloser`: an endpoint and its closer, `none` for a nil `io.Closer`. -/
structure EndpointCloser (E : Type) where
  endpoint : E
  closer : Option Nat
deriving Repr, DecidableEq

/-- `Factory`, answering its `k`-th call: `ok (e, true)` is an endpoint with a non-nil closer,
`ok (e, false)` one with a nil closer. -/
def Factory (ι E ε : Type) := Nat → ι → Except ε (E × Bool)

/-- A value in the key/value pairs of a log line. -/
inductive LogValue (ι ε : Type)
  | ofInstance (i : ι)
  | ofErr (e : ε)
deriving Repr, DecidableEq

/-- One `logger.Log(keyvals...)` call. -/
abbrev LogLine (ι ε : Type) := List (String × LogValue ι ε)

/-- The cache's map from instance to its endpoint and closer. -/
abbrev CacheMap (ι E : Type) := AList fun _ : ι => EndpointCloser E

/-- The non-nil closers held by the entries of a map, in iteration order. -/
def heldClosers {ι E : Type} (m : CacheMap ι E) : List Nat :=
  m.entries.filterMap (·.2.closer)

/-- `endpointCache`, with the record of its calls to the factory, the closers and the logger. -/
structure EndpointCache (ι E ε : Type) where
  options : EndpointerOptions
  cache : CacheMap ι E
  err : Option ε
  endpoints : List E
  invalidateDeadline : Int
  /-- the instances passed to the factory, in call order -/
  calls : List ι
  /-- the closers closed, in call order -/
  closed : List Nat
  logs : List (LogLine ι ε)

variable {ι E ε : Type}

/-- `newEndpointCache`. The zero `time.Time` deadline is read only after an error sets it. -/
def newEndpointCache (options : EndpointerOptions) : EndpointCache ι E ε where
  options := options
  cache := ∅
  err := none
  endpoints := []
  invalidateDeadline := 0
  calls := []
  closed := []
  logs := []

/-! ### `updateCache` and `Update` -/

section Update
variable [LinearOrder ι] (factory : Factory ι E ε)

/-- One round of `updateCache`'s first loop: carry the old entry of `i` over into the new map,
deleting it from `c.cache`, or else call the factory and keep what it made unless it failed. -/
def fillStep (s : EndpointCache ι E ε × CacheMap ι E) (i : ι) : EndpointCache ι E ε × CacheMap ι E :=
  match s.1.cache.lookup i with
  | some sc => ({ s.1 with cache := s.1.cache.erase i }, s.2.insert i sc)
  | none =>
    let k := s.1.calls.length
    let c := { s.1 with calls := s.1.calls ++ [i] }
    match factory k i with
    | .error err => ({ c with logs := c.logs ++ [[("instance", .ofInstance i), ("err", .ofErr err)]] }, s.2)
    | .ok (service, hasCloser) => (c, s.2.insert i ⟨service, if hasCloser then some k else none⟩)

/-- Close every closer left in `c.cache`, in the map's iteration order. -/
def closeLeftover (c : EndpointCache ι E ε) : EndpointCache ι E ε :=
  { c with closed := c.closed ++ heldClosers c.cache }

/-- `updateCache`: sort, fill the new map, close the leftovers, publish the endpoints in instance
order and swap the new map in. -/
def updateCache (c : EndpointCache ι E ε) (instances : List ι) : EndpointCache ι E ε :=
  let instances := instances.insertionSort (· ≤ ·)
  let s := instances.foldl (fillStep factory) (c, ∅)
  { closeLeftover s.1 with
    endpoints := instances.filterMap fun i => (s.2.lookup i).map (·.endpoint)
    cache := s.2 }

/-- `Update`: the happy path rebuilds the cache and clears the error; an error event is logged, and
with `InvalidateOnError` the first one records itself and the deadline. -/
def update (c : EndpointCache ι E ε) (event : Event ι ε) (now : Int) : EndpointCache ι E ε :=
  match event.err with
  | none => { updateCache factory c event.instances with err := none }
  | some err =>
    let c := { c with logs := c.logs ++ [[("err", .ofErr err)]] }
    if !c.options.invalidateOnError then c
    else if c.err.isSome then c
    else { c with err := some err, invalidateDeadline := now + c.options.invalidateTimeout }

/-! #### What the loop leaves alone -/

section Frame
variable (s : EndpointCache ι E ε × CacheMap ι E) (i : ι)

@[simp] theorem fillStep_options : (fillStep factory s i).1.options = s.1.options := by
  unfold fillStep; split; rfl; dsimp only; split <;> rfl

@[simp] theorem fillStep_err : (fillStep factory s i).1.err = s.1.err := by
  unfold fillStep; split; rfl; dsimp only; split <;> rfl

@[simp] theorem fillStep_invalidateDeadline :
    (fillStep factory s i).1.invalidateDeadline = s.1.invalidateDeadline := by
  unfold fillStep; split; rfl; dsimp only; split <;> rfl

@[simp] theorem fillStep_closed : (fillStep factory s i).1.closed = s.1.closed := by
  unfold fillStep; split; rfl; dsimp only; split <;> rfl

/-- What the factory's `k`-th call for `i` makes an entry of: its endpoint, and closer `k` if it
handed one out; nothing if it failed. -/
def factoryEntry (k : Nat) (i : ι) : Option (EndpointCloser E) :=
  match factory k i with
  | .ok (service, hasCloser) => some ⟨service, if hasCloser then some k else none⟩
  | .error _ => none

theorem fillStep_cache : (fillStep factory s i).1.cache = s.1.cache.erase i := by
  unfold fillStep
  split
  · rfl
  · next h =>
    have hi : i ∉ s.1.cache.keys := AList.mem_keys.not.mp (AList.lookup_eq_none.mp h)
    dsimp only; split <;> exact (AList.ext (List.kerase_of_not_mem_keys hi)).symm

theorem fillStep_calls :
    (fillStep factory s i).1.calls = s.1.calls ++ if i ∈ s.1.cache then [] else [i] := by
  unfold fillStep
  split
  · next h => simp [← AList.lookup_isSome, h]
  · next h => dsimp only; split <;> simp [AList.lookup_eq_none.mp h]

theorem fillStep_lookup_ne {j : ι} (h : j ≠ i) :
    (fillStep factory s i).2.lookup j = s.2.lookup j := by
  unfold fillStep
  split
  · exact AList.lookup_insert_ne h
  · dsimp only; split
    · rfl
    · exact AList.lookup_insert_ne h

/-- The new map's entry for `i`: the old entry, else what the factory made, else what was there. -/
theorem fillStep_lookup_self :
    (fillStep factory s i).2.lookup i =
      ((s.1.cache.lookup i).or (factoryEntry factory s.1.calls.length i)).or (s.2.lookup i) := by
  unfold fillStep factoryEntry
  split
  · next h => simp [h]
  · next h => dsimp only; split <;> simp [*]

theorem mem_fillStep_snd {j : ι} (h : j ∈ (fillStep factory s i).2) : j = i ∨ j ∈ s.2 := by
  unfold fillStep at h
  split at h
  · exact (AList.mem_insert _).mp h
  · dsimp only at h
    split at h
    · exact .inr h
    · exact (AList.mem_insert _).mp h

/-- A field that one round of the loop leaves alone, the whole loop leaves alone. -/
theorem foldl_fillStep_frame {β : Type} (f : EndpointCache ι E ε → β)
    (hf : ∀ s i, f (fillStep factory s i).1 = f s.1) (l : List ι) :
    f (l.foldl (fillStep factory) s).1 = f s.1 := by
  induction l generalizing s with
  | nil => rfl
  | cons j l ih => rw [List.foldl_cons, ih, hf]

end Frame

@[simp] theorem updateCache_options (c : EndpointCache ι E ε) (l : List ι) :
    (updateCache factory c l).options = c.options :=
  foldl_fillStep_frame factory _ EndpointCache.options (fillStep_options factory) _

@[simp] theorem updateCache_err (c : EndpointCache ι E ε) (l : List ι) :
    (updateCache factory c l).err = c.err :=
  foldl_fillStep_frame factory _ EndpointCache.err (fillStep_err factory) _

@[simp] theorem updateCache_invalidateDeadline (c : EndpointCache ι E ε) (l : List ι) :
    (updateCache factory c l).invalidateDeadline = c.invalidateDeadline :=
  foldl_fillStep_frame factory _ _ (fillStep_invalidateDeadline factory) _

/-- `updateCache(nil)`, the invalidation: every closer closed, map and endpoints emptied. -/
theorem updateCache_nil (c : EndpointCache ι E ε) :
    updateCache factory c [] =
      { c with closed := c.closed ++ heldClosers c.cache, endpoints := [], cache := ∅ } := rfl

/-- The happy path of `Update`. -/
theorem update_of_ok (c : EndpointCache ι E ε) (l : List ι) (now : Int) :
    update factory c ⟨l, none⟩ now = { updateCache factory c l with err := none } := rfl

/-- The sad path of `Update` changes nothing but the log and, for the first error with
`InvalidateOnError`, the recorded error and the deadline. -/
theorem update_of_err (c : EndpointCache ι E ε) (l : List ι) (e : ε) (now : Int) :
    update factory c ⟨l, some e⟩ now =
      if c.options.invalidateOnError ∧ c.err.isNone then
        { c with logs := c.logs ++ [[("err", LogValue.ofErr e)]], err := some e,
                 invalidateDeadline := now + c.options.invalidateTimeout }
      else { c with logs := c.logs ++ [[("err", LogValue.ofErr e)]] } := by
  cases ho : c.options.invalidateOnError <;> cases he : c.err <;> simp [update, ho, he]

@[simp] theorem update_options (c : EndpointCache ι E ε) (ev : Event ι ε) (now : Int) :
    (update factory c ev now).options = c.options := by
  obtain ⟨l, _ | e⟩ := ev
  · simp [update_of_ok]
  · rw [update_of_err]; split <;> rfl

/-! ### `Endpoints` -/

/-- The test `Endpoints` makes under each lock: no error recorded, or still before the deadline. -/
def serving (c : EndpointCache ι E ε) (now : Int) : Bool :=
  c.err.isNone || decide (now < c.invalidateDeadline)

/-- The read-locked section of `Endpoints`: the fast path's answer, or `none` to take the write
lock. -/
def endpointsRLocked (c : EndpointCache ι E ε) (now : Int) : Option (List E × Option ε) :=
  if serving c now then some (c.endpoints, none) else none

/-- The write-locked section of `Endpoints`: re-check, else close everything and report the error. -/
def endpointsLocked (c : EndpointCache ι E ε) (now : Int) :
    (List E × Option ε) × EndpointCache ι E ε :=
  if serving c now then ((c.endpoints, none), c)
  else
    let c := updateCache factory c []
    (([], c.err), c)

/-- `Endpoints`, with the clock readings of the fast path and of the re-check. -/
def endpoints (c : EndpointCache ι E ε) (now₁ now₂ : Int) :
    (List E × Option ε) × EndpointCache ι E ε :=
  match endpointsRLocked c now₁ with
  | some r => (r, c)
  | none => endpointsLocked factory c now₂

/-- What an `Endpoints` call can do: answer with the snapshot and change nothing, or, failing the
test under both locks, invalidate and answer with the recorded error. -/
theorem endpoints_cases (c : EndpointCache ι E ε) (now₁ now₂ : Int) :
    ((serving c now₁ = true ∨ serving c now₂ = true) ∧
        endpoints factory c now₁ now₂ = ((c.endpoints, none), c)) ∨
      (serving c now₁ = false ∧ serving c now₂ = false ∧
        endpoints factory c now₁ now₂ = (([], c.err), updateCache factory c [])) := by
  unfold endpoints endpointsRLocked endpointsLocked
  by_cases h₁ : serving c now₁ <;> by_cases h₂ : serving c now₂ <;> simp [h₁, h₂]

end Update

end GoKit.Sd
