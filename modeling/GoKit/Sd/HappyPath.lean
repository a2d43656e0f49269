import GoKit.Sd.Run

/-!
# The happy path of `Update`

For an event without error and an instance list `L` that repeats no instance, `Update` does what
its comment says: instances already cached keep their entry, the factory is called once for each
other instance, in ascending order, the closers of the instances that disappeared are closed, and
the endpoints are published in ascending instance order, one per cached instance. Everything it
does is a function of the sorted list, so a permutation of `L` changes nothing.

The loop lemmas below are stated for any list from any loop state; `updateCache` runs the loop on
the sorted instances from `(c, ∅)`.
-/

namespace GoKit.Sd
open scoped List

variable {ι E ε : Type} [LinearOrder ι] (factory : Factory ι E ε)

/-! ### The loop -/

/-- Under distinct keys, erasing a key is filtering it out. -/
theorem kerase_eq_filter {β : ι → Type} {a : ι} :
    ∀ {l : List (Sigma β)}, l.NodupKeys → l.kerase a = l.filter (·.1 ≠ a)
  | [], _ => rfl
  | x :: l, h => by
    rw [List.nodupKeys_cons] at h
    by_cases hx : a = x.1
    · rw [List.kerase_cons_eq hx, List.filter_cons_of_neg (by simp [hx]), eq_comm,
        List.filter_eq_self]
      intro y hy
      have : y.1 ≠ x.1 := fun hyx => h.1 (hyx ▸ List.mem_keys_of_mem hy)
      simpa [hx] using this
    · rw [List.kerase_cons_ne hx, List.filter_cons_of_pos (by simpa using Ne.symm hx),
        kerase_eq_filter h.2]

section Loop
variable (l : List ι) (s : EndpointCache ι E ε × CacheMap ι E)

theorem foldl_fillStep_lookup_of_not_mem {j : ι} (hj : j ∉ l) :
    (l.foldl (fillStep factory) s).2.lookup j = s.2.lookup j := by
  induction l generalizing s with
  | nil => rfl
  | cons i l ih =>
    rw [List.mem_cons, not_or] at hj
    rw [List.foldl_cons, ih _ hj.2, fillStep_lookup_ne factory _ _ hj.1]

/-- The old map ends up without the listed instances: carried-over entries are deleted from it. -/
theorem foldl_fillStep_cache :
    (l.foldl (fillStep factory) s).1.cache.entries = s.1.cache.entries.filter (·.1 ∉ l) := by
  induction l generalizing s with
  | nil => simp
  | cons i l ih =>
    rw [List.foldl_cons, ih, fillStep_cache]
    show (s.1.cache.entries.kerase i).filter _ = _
    rw [kerase_eq_filter s.1.cache.nodupKeys, List.filter_filter]
    congr 1; funext e; simp [Bool.and_comm]

theorem foldl_fillStep_calls (hl : l.Nodup) :
    (l.foldl (fillStep factory) s).1.calls = s.1.calls ++ l.filter (· ∉ s.1.cache) := by
  induction l generalizing s with
  | nil => simp
  | cons i l ih =>
    rw [List.nodup_cons] at hl
    have : l.filter (· ∉ s.1.cache.erase i) = l.filter (· ∉ s.1.cache) :=
      List.filter_congr fun j hj => by simp [ne_of_mem_of_not_mem hj hl.1]
    rw [List.foldl_cons, ih _ hl.2, fillStep_calls, fillStep_cache, this, List.filter_cons]
    by_cases hi : i ∈ s.1.cache <;> simp [hi]

/-- An instance cached before the loop keeps its entry. -/
theorem foldl_fillStep_lookup_carried (hl : l.Nodup) {j : ι} (hj : j ∈ l) {v : EndpointCloser E}
    (hv : s.1.cache.lookup j = some v) : (l.foldl (fillStep factory) s).2.lookup j = some v := by
  induction l generalizing s with
  | nil => cases hj
  | cons i l ih =>
    rw [List.nodup_cons] at hl
    rw [List.foldl_cons]
    rcases List.mem_cons.mp hj with rfl | hj
    · rw [foldl_fillStep_lookup_of_not_mem factory _ _ hl.1, fillStep_lookup_self, hv]; rfl
    · refine ih _ hl.2 hj ?_
      rw [fillStep_cache, AList.lookup_erase_ne (ne_of_mem_of_not_mem hj hl.1), hv]

/-- An instance the factory was called for holds what that call made. -/
theorem foldl_fillStep_lookup_fresh (hl : l.Nodup) (hs : ∀ i ∈ l, i ∉ s.2) {j : ι} {k : Nat}
    (hk : s.1.calls.length ≤ k) (hj : (l.foldl (fillStep factory) s).1.calls[k]? = some j) :
    (l.foldl (fillStep factory) s).2.lookup j = factoryEntry factory k j := by
  induction l generalizing s with
  | nil => simp [List.getElem?_eq_none hk] at hj
  | cons i l ih =>
    rw [List.nodup_cons] at hl
    rw [List.foldl_cons] at hj ⊢
    have hcalls := fillStep_calls factory s i
    by_cases hk₁ : (fillStep factory s i).1.calls.length ≤ k
    · refine ih _ hl.2 (fun j' hj' hmem => ?_) hk₁ hj
      rcases mem_fillStep_snd factory _ _ hmem with rfl | h
      · exact hl.1 hj'
      · exact hs j' (List.mem_cons_of_mem _ hj') h
    · rw [foldl_fillStep_calls factory l _ hl.2, List.getElem?_append_left (by omega)] at hj
      by_cases hi : i ∈ s.1.cache
      · simp [hcalls, hi] at hk₁; omega
      · have hk' : k = s.1.calls.length := by simp [hcalls, hi] at hk₁; omega
        subst hk'
        simp only [hcalls, hi, if_false, List.getElem?_concat_length, Option.some.injEq] at hj
        subst hj
        rw [foldl_fillStep_lookup_of_not_mem factory _ _ hl.1, fillStep_lookup_self,
          AList.lookup_eq_none.mpr hi, AList.lookup_eq_none.mpr (hs _ (List.mem_cons_self _ _))]
        simp

end Loop

/-! ### `updateCache` -/

/-- `sort.Strings` has one possible result: the sorted permutation. -/
theorem insertionSort_eq_of_perm {L L' : List ι} (h : L' ~ L) :
    L'.insertionSort (· ≤ ·) = L.insertionSort (· ≤ ·) :=
  List.eq_of_perm_of_sorted
    ((List.perm_insertionSort _ L').trans (h.trans (List.perm_insertionSort _ L).symm))
    (List.sorted_insertionSort _ _) (List.sorted_insertionSort _ _)

theorem updateCache_perm (c : EndpointCache ι E ε) {L L' : List ι} (h : L' ~ L) :
    updateCache factory c L' = updateCache factory c L := by
  simp only [updateCache, insertionSort_eq_of_perm h]

section UpdateCache
variable (c : EndpointCache ι E ε) (L : List ι)

theorem mem_insertionSort {i : ι} : i ∈ L.insertionSort (· ≤ ·) ↔ i ∈ L :=
  (List.perm_insertionSort _ L).mem_iff

theorem updateCache_lookup_of_not_mem {i : ι} (hi : i ∉ L) :
    (updateCache factory c L).cache.lookup i = none :=
  foldl_fillStep_lookup_of_not_mem factory _ _ ((mem_insertionSort L).not.mpr hi)

theorem updateCache_lookup_carried (hL : L.Nodup) {i : ι} (hi : i ∈ L) {v : EndpointCloser E}
    (hv : c.cache.lookup i = some v) : (updateCache factory c L).cache.lookup i = some v :=
  foldl_fillStep_lookup_carried factory _ _ ((List.perm_insertionSort _ L).nodup_iff.mpr hL)
    ((mem_insertionSort L).mpr hi) hv

theorem updateCache_lookup_fresh (hL : L.Nodup) {i : ι} {k : Nat} (hk : c.calls.length ≤ k)
    (hi : (updateCache factory c L).calls[k]? = some i) :
    (updateCache factory c L).cache.lookup i = factoryEntry factory k i :=
  foldl_fillStep_lookup_fresh factory _ _ ((List.perm_insertionSort _ L).nodup_iff.mpr hL)
    (fun _ _ => AList.not_mem_empty _) hk hi

theorem updateCache_calls (hL : L.Nodup) :
    (updateCache factory c L).calls =
      c.calls ++ (L.insertionSort (· ≤ ·)).filter (· ∉ c.cache) :=
  foldl_fillStep_calls factory _ _ ((List.perm_insertionSort _ L).nodup_iff.mpr hL)

theorem updateCache_closed :
    (updateCache factory c L).closed =
      c.closed ++ (c.cache.entries.filter (·.1 ∉ L)).filterMap (·.2.closer) := by
  have hframe := foldl_fillStep_frame factory (c, ∅) EndpointCache.closed (fillStep_closed factory)
    (L.insertionSort (· ≤ ·))
  simp only [updateCache, closeLeftover, heldClosers, foldl_fillStep_cache, hframe]
  congr 2
  exact List.filter_congr fun e _ => by simp [mem_insertionSort]

/-- The endpoints are those of the new map's keys, in strictly ascending order. -/
theorem updateCache_endpoints (hL : L.Nodup) :
    ∃ K : List ι, K.Sorted (· < ·) ∧ (∀ i, i ∈ K ↔ i ∈ (updateCache factory c L).cache) ∧
      (updateCache factory c L).endpoints =
        K.filterMap fun i => ((updateCache factory c L).cache.lookup i).map (·.endpoint) := by
  have hsorted := (List.sorted_insertionSort (· ≤ ·) L).lt_of_le
    ((List.perm_insertionSort _ L).nodup_iff.mpr hL)
  refine ⟨(L.insertionSort (· ≤ ·)).filter (· ∈ (updateCache factory c L).cache),
    hsorted.filter _, fun i => ?_, ?_⟩
  · simp only [List.mem_filter, decide_eq_true_eq, and_iff_right_iff_imp, mem_insertionSort]
    intro hi
    by_contra hn
    exact AList.lookup_eq_none.mp (updateCache_lookup_of_not_mem factory c L hn) hi
  · rw [List.filterMap_filter]
    refine List.filterMap_congr fun i _ => ?_
    split
    · rfl
    · next h => rw [AList.lookup_eq_none.mpr (by simpa using h)]; rfl

end UpdateCache

/-! ### `Update` on a good event -/

/-- What the happy path of `Update` promises for the instance list `L`: cached instances keep their
entry, the factory is called once for each other instance, in ascending order, and its entry is
what that call made; no other key is present; the closers of the instances that disappeared are
closed; the endpoints are the map's, one per key in ascending order; the error is cleared; and a
permutation of the list gives the same state. -/
structure UpdateHappyPath (c : EndpointCache ι E ε) (L : List ι) (now : Int) : Prop where
  carried : ∀ i ∈ L, ∀ v, c.cache.lookup i = some v →
    (update factory c ⟨L, none⟩ now).cache.lookup i = some v
  fresh : ∀ i k, c.calls.length ≤ k → (update factory c ⟨L, none⟩ now).calls[k]? = some i →
    (update factory c ⟨L, none⟩ now).cache.lookup i = factoryEntry factory k i
  keys : ∀ i ∉ L, (update factory c ⟨L, none⟩ now).cache.lookup i = none
  calls : (update factory c ⟨L, none⟩ now).calls =
    c.calls ++ (L.insertionSort (· ≤ ·)).filter (· ∉ c.cache)
  calls_sorted : ((update factory c ⟨L, none⟩ now).calls.drop c.calls.length).Sorted (· < ·)
  closed : (update factory c ⟨L, none⟩ now).closed =
    c.closed ++ (c.cache.entries.filter (·.1 ∉ L)).filterMap (·.2.closer)
  endpoints : ∃ K : List ι, K.Sorted (· < ·) ∧
    (∀ i, i ∈ K ↔ i ∈ (update factory c ⟨L, none⟩ now).cache) ∧
    (update factory c ⟨L, none⟩ now).endpoints =
      K.filterMap fun i => ((update factory c ⟨L, none⟩ now).cache.lookup i).map (·.endpoint)
  err : (update factory c ⟨L, none⟩ now).err = none
  perm : ∀ L', L' ~ L → update factory c ⟨L', none⟩ now = update factory c ⟨L, none⟩ now

theorem update_happy_path (c : EndpointCache ι E ε) (L : List ι) (hL : L.Nodup) (now : Int) :
    UpdateHappyPath factory c L now := by
  refine ⟨fun i hi v hv => updateCache_lookup_carried factory c L hL hi hv,
    fun i k hk hi => updateCache_lookup_fresh factory c L hL hk hi,
    fun i hi => updateCache_lookup_of_not_mem factory c L hi,
    updateCache_calls factory c L hL, ?_, updateCache_closed factory c L,
    updateCache_endpoints factory c L hL, rfl,
    fun L' h => by simp only [update_of_ok, updateCache_perm factory c h]⟩
  rw [update_of_ok, updateCache_calls factory c L hL, List.drop_left]
  exact ((List.sorted_insertionSort (· ≤ ·) L).lt_of_le
    ((List.perm_insertionSort _ L).nodup_iff.mpr hL)).filter _

/-- Instances `2, 0, 1` into a cache holding `1` and `3`: the factory is called for `0` and `2`. -/
theorem update_happy_path_example :
    let factory : Factory ℕ ℕ Unit := fun k _ => .ok (k, true)
    let c := update factory (newEndpointCache {}) ⟨[3, 1], none⟩ 0
    [2, 0, 1].Nodup ∧ UpdateHappyPath factory c [2, 0, 1] 5 :=
  ⟨by decide, update_happy_path _ _ _ (by decide) 5⟩

end GoKit.Sd
