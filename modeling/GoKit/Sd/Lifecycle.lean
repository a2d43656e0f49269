import GoKit.Sd.Run

/-!
# Closer lifecycle

The factory's `k`-th call, when it succeeds with a non-nil closer, issues closer `k`. A closer is
*accounted for* while it is held by an entry of the cache map or has been closed. The lifecycle
the cache is meant to keep is that the accounted closers are exactly the issued ones, each once:
`accountedClosers c ~ issuedClosers factory c.calls`.

One round of `updateCache`'s loop can only lose a closer, never duplicate one: carrying an entry
over or storing a fresh one overwrites whatever the new map already held for that instance
(`overwritten`). The new map holds nothing for the instance unless it was listed twice, so with
duplicate-free instance lists nothing is lost.
-/

namespace GoKit.Sd
open scoped List

variable {ι E ε : Type}

/-! ### Closers held by a map -/

section Held
variable [DecidableEq ι] (m : CacheMap ι E) (i : ι)

/-- The closer of the entry that `m.insert i` replaces. -/
def overwritten : List Nat := ((m.lookup i).bind (·.closer)).toList

theorem entries_erase : (m.erase i).entries = m.entries.kerase i := rfl

theorem overwritten_of_not_mem (h : i ∉ m) : overwritten m i = [] := by
  simp [overwritten, AList.lookup_eq_none.mpr h]

theorem heldClosers_erase_of_not_mem (h : i ∉ m) : heldClosers (m.erase i) = heldClosers m := by
  simp only [heldClosers, entries_erase, List.kerase_of_not_mem_keys (AList.mem_keys.not.mp h)]

theorem heldClosers_perm_erase {v : EndpointCloser E} (h : m.lookup i = some v) :
    heldClosers m ~ v.closer.toList ++ heldClosers (m.erase i) := by
  have hi : i ∈ m.keys := AList.mem_keys.mp (AList.lookup_isSome.mp (by simp [h]))
  obtain ⟨b, l₁, l₂, -, he, hk⟩ := List.exists_of_kerase hi
  have hb : b ∈ m.lookup i := List.mem_dlookup m.nodupKeys (by rw [he]; simp)
  rw [h, Option.mem_def, Option.some_inj] at hb
  subst hb
  simp only [heldClosers, entries_erase]
  rw [hk, he]
  cases hc : v.closer <;> simp [hc, List.perm_middle]

theorem heldClosers_insert_perm (v : EndpointCloser E) :
    heldClosers (m.insert i v) ++ overwritten m i ~ v.closer.toList ++ heldClosers m := by
  have hins : heldClosers (m.insert i v) = v.closer.toList ++ heldClosers (m.erase i) := by
    cases h : v.closer <;> simp [heldClosers, entries_erase, h]
  rw [hins, List.append_assoc]
  refine List.Perm.append_left _ ?_
  cases h : m.lookup i with
  | none => simp [overwritten, h, heldClosers_erase_of_not_mem m i (AList.lookup_eq_none.mp h)]
  | some w =>
    simpa [overwritten, h] using List.perm_append_comm.trans (heldClosers_perm_erase m i h).symm

end Held

/-! ### Issued closers -/

/-- Whether a factory answer hands out a non-nil closer. -/
def handsOutCloser : Except ε (E × Bool) → Bool
  | .ok (_, hasCloser) => hasCloser
  | .error _ => false

/-- The closers issued over the factory calls `calls`: the indices of the calls that succeeded with
a non-nil closer. -/
def issuedClosers (factory : Factory ι E ε) (calls : List ι) : List Nat :=
  (List.range calls.length).filter fun k => calls[k]?.any fun i => handsOutCloser (factory k i)

theorem issuedClosers_append_singleton (factory : Factory ι E ε) (calls : List ι) (i : ι) :
    issuedClosers factory (calls ++ [i]) =
      issuedClosers factory calls ++
        if handsOutCloser (factory calls.length i) then [calls.length] else [] := by
  simp only [issuedClosers, List.length_append, List.length_singleton, List.range_succ,
    List.filter_append]
  congr 1
  · refine List.filter_congr fun k hk => ?_
    rw [List.getElem?_append_left (List.mem_range.mp hk)]
  · cases h : handsOutCloser (factory calls.length i) <;> simp [List.filter_cons, h]

theorem issuedClosers_nodup (factory : Factory ι E ε) (calls : List ι) :
    (issuedClosers factory calls).Nodup :=
  (List.nodup_range _).filter _

/-! ### One round of the loop, and the loop -/

/-- The closers a state of `updateCache`'s loop accounts for: held by the old map, held by the new
map, or closed. -/
def loopClosers (s : EndpointCache ι E ε × CacheMap ι E) : List Nat :=
  heldClosers s.1.cache ++ heldClosers s.2 ++ s.1.closed

/-- The closers a cache accounts for: held by its map, or closed. -/
def accountedClosers (c : EndpointCache ι E ε) : List Nat :=
  heldClosers c.cache ++ c.closed

/-- From closers `L` against issued closers `I` to `L'` against `I'`: the closers issued in between
are `δ`, at most `d` are lost, and none when `fresh` holds. -/
def Accounts (I I' L L' : List Nat) (fresh : Prop) : Prop :=
  ∃ δ d, I' = I ++ δ ∧ L' ++ d ~ L ++ δ ∧ (fresh → d = [])

namespace Accounts
variable {I I' I'' L L' L'' M M' : List Nat} {p q : Prop}

theorem of_perm (hI : I' = I) (hL : L' ~ L) : Accounts I I' L L' p :=
  ⟨[], [], by simp [hI], by simpa using hL, fun _ => rfl⟩

theorem mono (h : Accounts I I' L L' p) (hqp : q → p) : Accounts I I' L L' q :=
  let ⟨δ, d, hI, hL, hd⟩ := h
  ⟨δ, d, hI, hL, fun hq => hd (hqp hq)⟩

theorem trans (h₁ : Accounts I I' L L' p) (h₂ : Accounts I' I'' L' L'' q) :
    Accounts I I'' L L'' (p ∧ q) := by
  obtain ⟨δ₁, d₁, hI₁, hL₁, hd₁⟩ := h₁
  obtain ⟨δ₂, d₂, hI₂, hL₂, hd₂⟩ := h₂
  refine ⟨δ₁ ++ δ₂, d₁ ++ d₂, by simp [hI₂, hI₁], ?_, fun ⟨hp, hq⟩ => by simp [hd₁ hp, hd₂ hq]⟩
  rw [List.perm_iff_count]; intro a
  have h₁ := hL₁.count_eq a; have h₂ := hL₂.count_eq a
  simp only [List.count_append] at h₁ h₂ ⊢
  omega

theorem perm_right (h : Accounts I I' L L' p) (hM : M' ~ L') : Accounts I I' L M' p :=
  let ⟨δ, d, hI, hL, hd⟩ := h
  ⟨δ, d, hI, (hM.append_right d).trans hL, hd⟩

theorem perm_left (h : Accounts I I' L L' p) (hM : L ~ M) : Accounts I I' M L' p :=
  let ⟨δ, d, hI, hL, hd⟩ := h
  ⟨δ, d, hI, hL.trans (hM.append_right δ), hd⟩

/-- Accounting keeps "every accounted closer was issued, at most once". -/
theorem subperm (h : Accounts I I' L L' p) (hL : L <+~ I) : L' <+~ I' := by
  obtain ⟨δ, d, rfl, hp, -⟩ := h
  exact (List.sublist_append_left L' d).subperm.trans (hp.subperm.trans ((List.subperm_append_right δ).mpr hL))

/-- Accounting without loss keeps "the accounted closers are the issued ones". -/
theorem perm (h : Accounts I I' L L' p) (hp : p) (hL : L ~ I) : L' ~ I' := by
  obtain ⟨δ, d, rfl, hperm, hd⟩ := h
  simpa [hd hp] using hperm.trans (hL.append_right δ)

end Accounts

/-- A state whose accounted closers are issued ones, each at most once: a closer is held or closed
at most once, and only if issued. -/
theorem count_accounted_le (factory : Factory ι E ε) {c : EndpointCache ι E ε}
    (h : accountedClosers c <+~ issuedClosers factory c.calls) (k : Nat) :
    (heldClosers c.cache).count k + c.closed.count k ≤
      if k ∈ issuedClosers factory c.calls then 1 else 0 := by
  rw [← List.count_eq_of_nodup (issuedClosers_nodup _ _), ← List.count_append]
  exact h.count_le k

section Loop
variable [LinearOrder ι] (factory : Factory ι E ε)

theorem fillStep_accounts (s : EndpointCache ι E ε × CacheMap ι E) (i : ι) :
    Accounts (issuedClosers factory s.1.calls) (issuedClosers factory (fillStep factory s i).1.calls)
      (loopClosers s) (loopClosers (fillStep factory s i)) (i ∉ s.2) := by
  unfold fillStep
  split
  · next sc hsc =>
    have hold := heldClosers_perm_erase _ _ hsc
    have hnew := heldClosers_insert_perm s.2 i sc
    refine ⟨[], overwritten s.2 i, by simp, ?_, overwritten_of_not_mem _ _⟩
    rw [List.perm_iff_count]; intro a
    have h1 := hold.count_eq a; have h2 := hnew.count_eq a
    simp only [loopClosers, List.count_append, List.count_nil] at h1 h2 ⊢
    omega
  · dsimp only
    split
    · next err herr =>
      refine ⟨[], [], ?_, by simp [loopClosers], fun _ => rfl⟩
      simp [issuedClosers_append_singleton, herr, handsOutCloser]
    · next service hasCloser hok =>
      have hnew := heldClosers_insert_perm s.2 i
        ⟨service, if hasCloser then some s.1.calls.length else none⟩
      refine ⟨if hasCloser then [s.1.calls.length] else [], overwritten s.2 i, ?_, ?_,
        overwritten_of_not_mem _ _⟩
      · simp [issuedClosers_append_singleton, hok, handsOutCloser]
      · rw [List.perm_iff_count]; intro a
        have h2 := hnew.count_eq a
        cases hasCloser <;> simp only [loopClosers, List.count_append, Option.toList,
          ite_true, ite_false, Bool.false_eq_true, List.count_nil] at h2 ⊢ <;> omega

theorem foldl_fillStep_accounts (l : List ι) (s : EndpointCache ι E ε × CacheMap ι E) :
    Accounts (issuedClosers factory s.1.calls)
      (issuedClosers factory (l.foldl (fillStep factory) s).1.calls)
      (loopClosers s) (loopClosers (l.foldl (fillStep factory) s)) (l.Nodup ∧ ∀ i ∈ l, i ∉ s.2) := by
  induction l generalizing s with
  | nil => exact .of_perm rfl (.refl _)
  | cons i l ih =>
    refine ((fillStep_accounts factory s i).trans (ih _)).mono ?_
    rintro ⟨hnd, hfresh⟩
    rw [List.nodup_cons] at hnd
    refine ⟨hfresh i (List.mem_cons_self _ _), hnd.2, fun j hj hmem => ?_⟩
    rcases mem_fillStep_snd factory _ _ hmem with rfl | h
    · exact hnd.1 hj
    · exact hfresh j (List.mem_cons_of_mem _ hj) h

theorem updateCache_accounts (c : EndpointCache ι E ε) (l : List ι) :
    Accounts (issuedClosers factory c.calls) (issuedClosers factory (updateCache factory c l).calls)
      (accountedClosers c) (accountedClosers (updateCache factory c l)) l.Nodup := by
  have h := foldl_fillStep_accounts factory (l.insertionSort (· ≤ ·)) (c, ∅)
  refine ((h.mono fun hnd => ⟨(List.perm_insertionSort _ l).nodup_iff.mpr hnd,
    fun _ _ => AList.not_mem_empty _⟩).perm_left (by simp [loopClosers, accountedClosers,
      heldClosers])).perm_right ?_
  rw [List.perm_iff_count]; intro a
  simp only [accountedClosers, updateCache, closeLeftover, loopClosers, List.count_append]
  omega

theorem update_accounts (c : EndpointCache ι E ε) (event : Event ι ε) (now : Int) :
    Accounts (issuedClosers factory c.calls) (issuedClosers factory (update factory c event now).calls)
      (accountedClosers c) (accountedClosers (update factory c event now)) event.instances.Nodup := by
  obtain ⟨l, _ | e⟩ := event
  · exact updateCache_accounts factory c l
  · rw [update_of_err]; split <;> exact .of_perm rfl (.refl _)

theorem endpoints_accounts (c : EndpointCache ι E ε) (now₁ now₂ : Int) :
    Accounts (issuedClosers factory c.calls)
      (issuedClosers factory (endpoints factory c now₁ now₂).2.calls)
      (accountedClosers c) (accountedClosers (endpoints factory c now₁ now₂).2) True := by
  rcases endpoints_cases factory c now₁ now₂ with ⟨-, h⟩ | ⟨-, -, h⟩ <;> rw [h]
  · exact .of_perm rfl (.refl _)
  · exact (updateCache_accounts factory c []).mono fun _ => List.nodup_nil

/-- A call whose instance list, if it has one, repeats no instance. -/
def Op.NoRepeats : Op ι ε → Prop
  | .update event _ => event.instances.Nodup
  | .endpoints _ _ => True

instance : DecidablePred (Op.NoRepeats : Op ι ε → Prop)
  | .update event _ => inferInstanceAs (Decidable event.instances.Nodup)
  | .endpoints _ _ => inferInstanceAs (Decidable True)

theorem step_accounts (c : EndpointCache ι E ε) (op : Op ι ε) :
    Accounts (issuedClosers factory c.calls) (issuedClosers factory (step factory c op).1.calls)
      (accountedClosers c) (accountedClosers (step factory c op).1) op.NoRepeats := by
  cases op with
  | update event now => exact update_accounts factory c event now
  | endpoints now₁ now₂ => exact endpoints_accounts factory c now₁ now₂

end Loop

/-! ### Whole runs -/

section Runs
variable [LinearOrder ι] (factory : Factory ι E ε)

/-- Along every run, each closer is held or closed at most as often as it was issued. -/
theorem accountedClosers_subperm_run (options : EndpointerOptions) (ops : List (Op ι ε)) :
    accountedClosers (run factory (newEndpointCache options) ops).1 <+~
      issuedClosers factory (run factory (newEndpointCache options) ops).1.calls :=
  run_invariant factory (fun c => accountedClosers c <+~ issuedClosers factory c.calls) (fun _ => True)
    (fun c op _ hc => (step_accounts factory c op).subperm hc) _ ops (fun _ _ => trivial)
    (List.nil_subperm)

/-- Along every run whose instance lists repeat no instance, the held and closed closers are
exactly the issued ones. -/
theorem accountedClosers_perm_run (options : EndpointerOptions) (ops : List (Op ι ε))
    (hops : ∀ op ∈ ops, op.NoRepeats) :
    accountedClosers (run factory (newEndpointCache options) ops).1 ~
      issuedClosers factory (run factory (newEndpointCache options) ops).1.calls :=
  run_invariant factory (fun c => accountedClosers c ~ issuedClosers factory c.calls) Op.NoRepeats
    (fun c op hop hc => (step_accounts factory c op).perm hop hc) _ ops hops (.refl _)

/-- Along every run, no closer is closed twice, none is closed while an entry still holds it, no
two entries hold the same closer, and only issued closers are held or closed. -/
theorem closer_closed_at_most_once (options : EndpointerOptions) (ops : List (Op ι ε)) (k : Nat) :
    (heldClosers (run factory (newEndpointCache options) ops).1.cache).count k +
        (run factory (newEndpointCache options) ops).1.closed.count k ≤
      if k ∈ issuedClosers factory (run factory (newEndpointCache options) ops).1.calls then 1 else 0 :=
  count_accounted_le factory (accountedClosers_subperm_run factory options ops) k

/-- Along every run whose instance lists repeat no instance, every issued closer is either held by
exactly one entry and not closed, or held by none and closed exactly once. -/
theorem closer_lifecycle_of_no_repeats (options : EndpointerOptions) (ops : List (Op ι ε))
    (hops : ∀ op ∈ ops, op.NoRepeats) (k : Nat)
    (hk : k ∈ issuedClosers factory (run factory (newEndpointCache options) ops).1.calls) :
    ((heldClosers (run factory (newEndpointCache options) ops).1.cache).count k = 1 ∧
        (run factory (newEndpointCache options) ops).1.closed.count k = 0) ∨
      ((heldClosers (run factory (newEndpointCache options) ops).1.cache).count k = 0 ∧
        (run factory (newEndpointCache options) ops).1.closed.count k = 1) := by
  have h := (accountedClosers_perm_run factory options ops hops).count_eq k
  rw [List.count_eq_one_of_mem (issuedClosers_nodup _ _) hk, accountedClosers,
    List.count_append] at h
  omega

end Runs

/-- Instance `0` leaves and comes back, instance `1` stays: the first closer of `0` is closed. -/
theorem closer_lifecycle_of_no_repeats_example :
    let factory : Factory ℕ ℕ Unit := fun k _ => .ok (k, true)
    let ops : List (Op ℕ Unit) :=
      [.update ⟨[1, 0], none⟩ 0, .update ⟨[1], none⟩ 1, .update ⟨[0, 1], none⟩ 2]
    let c := (run factory (newEndpointCache {}) ops).1
    (∀ op ∈ ops, op.NoRepeats) ∧ 0 ∈ issuedClosers factory c.calls ∧
      ((heldClosers c.cache).count 0 = 1 ∧ c.closed.count 0 = 0 ∨
        (heldClosers c.cache).count 0 = 0 ∧ c.closed.count 0 = 1) :=
  ⟨by decide, by decide, closer_lifecycle_of_no_repeats _ {} _ (by decide) 0 (by decide)⟩

/-- An instance listed twice in one event: the factory is called for both occurrences and the
second entry overwrites the first, whose closer is then neither held nor closed. -/
theorem update_repeated_instance_leaks_closer :
    let factory : Factory ℕ ℕ Unit := fun k _ => .ok (k, true)
    let c := update factory (newEndpointCache {}) ⟨[0, 0], none⟩ 0
    issuedClosers factory c.calls = [0, 1] ∧ heldClosers c.cache = [1] ∧ c.closed = [] := by
  decide

end GoKit.Sd
