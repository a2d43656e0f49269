import Mathlib.Data.List.Rotate
import Mathlib.Data.UInt
import GoKit.Endpoint

/-!
# Load balancers (`lb.roundRobin`, `lb.random`)

Both balancers fetch the snapshot from their `Endpointer` on every call, pass its error on, fail
with `ErrNoEndpoints` on an empty snapshot, and otherwise pick an index with state of their own:
`roundRobin` an atomic `uint64` call counter, `random` a seeded `rand.Rand`. `selectEndpoint` is
that shared shape, with the pick as a parameter. A call that picks is *counter-advancing*
(`advances`); the others leave the balancer's state alone.

The counter wraps from `2^64 - 1` to `0`, and `(2^64 - 1) % N` is followed by `0 % N`: unless `N`
divides `2^64`, a window of `N` calls across the wrap repeats an endpoint and misses another.
-/

namespace GoKit.Lb

/-- The errors a balancer returns: the endpointer's error, or `ErrNoEndpoints`. -/
inductive BalancerError (ε : Type)
  | endpointer (err : ε)
  | noEndpoints
deriving DecidableEq, Repr

variable {E ε σ : Type}

/-- The shape of `Endpoint()` both balancers share: fetch the snapshot, pass the endpointer's error
on, fail on an empty snapshot, else pick an index below its length. -/
def selectEndpoint (pick : σ → (n : Nat) → 0 < n → Fin n × σ) (st : σ) :
    List E × Option ε → Except (BalancerError ε) E × σ
  | (_, some err) => (.error (.endpointer err), st)
  | (endpoints, none) =>
    if h : endpoints.length ≤ 0 then (.error .noEndpoints, st)
    else
      let p := pick st endpoints.length (by omega)
      (.ok (endpoints.get p.1), p.2)

/-- A call that reaches the pick: no endpointer error and a non-empty snapshot. -/
def advances (answer : List E × Option ε) : Bool :=
  answer.2.isNone && !answer.1.isEmpty

/-- A run of calls, each given the endpointer's answer: the results and the final state. -/
def runBalancer (pick : σ → (n : Nat) → 0 < n → Fin n × σ) (st : σ) :
    List (List E × Option ε) → List (Except (BalancerError ε) E) × σ
  | [] => ([], st)
  | answer :: answers =>
    let r := selectEndpoint pick st answer
    let rest := runBalancer pick r.2 answers
    (r.1 :: rest.1, rest.2)

/-! ### What every call of either balancer does -/

section Family
variable (pick : σ → (n : Nat) → 0 < n → Fin n × σ) (st : σ)

theorem selectEndpoint_of_err (endpoints : List E) (err : ε) :
    selectEndpoint pick st (endpoints, some err) = (.error (.endpointer err), st) := rfl

theorem selectEndpoint_nil : selectEndpoint pick st (([] : List E), (none : Option ε)) =
    (.error .noEndpoints, st) := rfl

theorem selectEndpoint_of_advances {answer : List E × Option ε} (h : advances answer) :
    ∃ hn : 0 < answer.1.length,
      selectEndpoint pick st answer =
        (.ok (answer.1.get (pick st answer.1.length hn).1), (pick st answer.1.length hn).2) := by
  obtain ⟨endpoints, _ | err⟩ := answer
  · have hn : 0 < endpoints.length := by
      cases endpoints <;> simp_all [advances]
    exact ⟨hn, by simp [selectEndpoint, Nat.not_le.mpr hn]⟩
  · simp [advances] at h

/-- A call that does not reach the pick leaves the state alone. -/
theorem selectEndpoint_state_of_not_advances {answer : List E × Option ε} (h : ¬advances answer) :
    (selectEndpoint pick st answer).2 = st := by
  obtain ⟨endpoints, _ | err⟩ := answer
  · cases endpoints with
    | nil => rfl
    | cons _ _ => simp [advances] at h
  · rfl

/-- What a call answers: the endpointer's error if there is one, `ErrNoEndpoints` exactly on an
empty snapshot, and otherwise an element of the snapshot. -/
structure CallOutcome (answer : List E × Option ε) (result : Except (BalancerError ε) E) : Prop where
  err : ∀ e, answer.2 = some e → result = .error (.endpointer e)
  empty : answer.2 = none → (result = .error .noEndpoints ↔ answer.1 = [])
  pick : advances answer → ∃ x ∈ answer.1, result = .ok x

theorem selectEndpoint_outcome (answer : List E × Option ε) :
    CallOutcome answer (selectEndpoint pick st answer).1 := by
  obtain ⟨endpoints, _ | err⟩ := answer
  · cases endpoints with
    | nil => exact ⟨fun _ h => (by cases h), fun _ => (by simp [selectEndpoint_nil]),
        fun h => (by simp [advances] at h)⟩
    | cons x xs =>
      obtain ⟨hn, heq⟩ := selectEndpoint_of_advances pick st (show advances (x :: xs, none) from rfl)
      refine ⟨fun _ h => (by cases h), fun _ => (by rw [heq]; simp), fun _ => ⟨_, List.get_mem _ _ _, by rw [heq]⟩⟩
  · exact ⟨fun e h => (by cases h; rfl), fun h => (by cases h), fun h => (by simp [advances] at h)⟩

/-- A call that returns an endpoint saw no endpointer error and took it from the snapshot. -/
theorem mem_of_selectEndpoint_eq_ok {answer : List E × Option ε} {e : E}
    (h : (selectEndpoint pick st answer).1 = .ok e) : answer.2 = none ∧ e ∈ answer.1 := by
  obtain ⟨endpoints, _ | err⟩ := answer
  · cases endpoints with
    | nil => cases h
    | cons x xs =>
      obtain ⟨hn, heq⟩ := selectEndpoint_of_advances pick st (show advances (x :: xs, none) from rfl)
      rw [heq] at h
      cases h
      exact ⟨rfl, List.get_mem _ _ _⟩
  · cases h

/-- Every call of every run answers as `CallOutcome` says. -/
theorem runBalancer_outcome (answers : List (List E × Option ε)) :
    List.Forall₂ CallOutcome answers (runBalancer pick st answers).1 := by
  induction answers generalizing st with
  | nil => exact .nil
  | cons answer answers ih => exact .cons (selectEndpoint_outcome pick st answer) (ih _)

@[simp] theorem length_runBalancer (answers : List (List E × Option ε)) :
    (runBalancer pick st answers).1.length = answers.length := by
  induction answers generalizing st with
  | nil => rfl
  | cons a answers ih => simp [runBalancer, ih]

theorem take_runBalancer (answers : List (List E × Option ε)) (n : Nat) :
    (runBalancer pick st answers).1.take n = (runBalancer pick st (answers.take n)).1 := by
  induction answers generalizing st n with
  | nil => simp [runBalancer]
  | cons a answers ih => cases n <;> simp [runBalancer, ih]

theorem drop_runBalancer (answers : List (List E × Option ε)) (n : Nat) :
    (runBalancer pick st answers).1.drop n =
      (runBalancer pick (runBalancer pick st (answers.take n)).2 (answers.drop n)).1 := by
  induction answers generalizing st n with
  | nil => simp [runBalancer]
  | cons a answers ih => cases n <;> simp [runBalancer, ih]

/-- The results of the counter-advancing calls of a run. -/
def selections (answers : List (List E × Option ε)) (results : List (Except (BalancerError ε) E)) :
    List (Except (BalancerError ε) E) :=
  ((answers.zip results).filter (advances ·.1)).map (·.2)

/-- Only counter-advancing calls see or change the state: the run restricted to them picks the
same and ends in the same state. -/
theorem runBalancer_filter_advances (answers : List (List E × Option ε)) :
    selections answers (runBalancer pick st answers).1 =
        (runBalancer pick st (answers.filter advances)).1 ∧
      (runBalancer pick st answers).2 = (runBalancer pick st (answers.filter advances)).2 := by
  induction answers generalizing st with
  | nil => exact ⟨rfl, rfl⟩
  | cons a answers ih =>
    by_cases ha : advances a
    · obtain ⟨h₁, h₂⟩ := ih (selectEndpoint pick st a).2
      simp only [selections, runBalancer, List.zip_cons_cons, List.filter_cons, ha, if_true,
        List.map_cons] at h₁ ⊢
      exact ⟨congrArg _ h₁, h₂⟩
    · obtain ⟨h₁, h₂⟩ := ih st
      have hst := selectEndpoint_state_of_not_advances pick st ha
      simp only [selections, runBalancer, List.zip_cons_cons, List.filter_cons, ha, if_false,
        Bool.false_eq_true, hst] at h₁ ⊢
      exact ⟨h₁, h₂⟩

end Family

/-! ### `roundRobin` -/

/-- `roundRobin`: its call counter. -/
structure RoundRobin where
  c : UInt64

/-- `NewRoundRobin`: the counter starts at `0`. -/
def newRoundRobin : RoundRobin := ⟨0⟩

/-- The round-robin pick: `old := atomic.AddUint64(&rr.c, 1) - 1`, index `old % uint64(len)`. Go's
slices are shorter than `2^63`, so `uint64(len(endpoints))` is the length itself. -/
def RoundRobin.pick (rr : RoundRobin) (n : Nat) (hn : 0 < n) : Fin n × RoundRobin :=
  let old := (rr.c + 1) - 1
  (⟨old.toNat % n, Nat.mod_lt _ hn⟩, ⟨rr.c + 1⟩)

/-- `roundRobin.Endpoint`. -/
def RoundRobin.endpoint (rr : RoundRobin) (answer : List E × Option ε) :
    Except (BalancerError ε) E × RoundRobin :=
  selectEndpoint RoundRobin.pick rr answer

namespace RoundRobin

theorem pick_eq (rr : RoundRobin) (n : Nat) (hn : 0 < n) :
    rr.pick n hn = (⟨rr.c.toNat % n, Nat.mod_lt _ hn⟩, ⟨rr.c + 1⟩) := by
  simp only [pick, add_sub_cancel_right]

/-- The counter counts the counter-advancing calls, modulo `2^64`. -/
theorem runBalancer_counter (rr : RoundRobin) (answers : List (List E × Option ε)) :
    (runBalancer pick rr answers).2.c.toNat =
      (rr.c.toNat + (answers.filter advances).length) % UInt64.size := by
  induction answers generalizing rr with
  | nil => simp [runBalancer, Nat.mod_eq_of_lt rr.c.toNat_lt_size]
  | cons a answers ih =>
    simp only [runBalancer, ih, List.filter_cons]
    by_cases ha : advances a
    · obtain ⟨hn, heq⟩ := selectEndpoint_of_advances pick rr ha
      simp only [heq, pick_eq, toNat_add_one, ha, if_true, List.length_cons, Nat.mod_add_mod]
      congr 1; omega
    · simp only [selectEndpoint_state_of_not_advances pick rr ha, ha, Bool.false_eq_true, if_false]

/-- `N` calls that see the same snapshot `S` pick `S[((c + i) mod 2^64) mod N]`, `i < N`. -/
theorem runBalancer_replicate (rr : RoundRobin) (S : List E) (hS : 0 < S.length) (N : Nat) :
    (runBalancer pick rr (List.replicate N ((S, none) : List E × Option ε))).1 =
      (List.range N).map fun i =>
        .ok (S.get ⟨((rr.c.toNat + i) % UInt64.size) % S.length, Nat.mod_lt _ hS⟩) := by
  induction N generalizing rr with
  | zero => rfl
  | succ N ih =>
    have hadv : advances ((S, none) : List E × Option ε) := by
      simp [advances, List.isEmpty_iff, List.ne_nil_of_length_pos hS]
    obtain ⟨hn, heq⟩ := selectEndpoint_of_advances pick rr hadv
    simp only [List.replicate_succ, runBalancer, heq, pick_eq, ih, List.range_succ_eq_map,
      List.map_cons, List.map_map]
    congr 1
    · simp [Nat.mod_eq_of_lt rr.c.toNat_lt_size]
    · refine List.map_congr_left fun i _ => ?_
      simp only [Function.comp, toNat_add_one, Nat.mod_add_mod, Nat.succ_eq_add_one,
        Nat.add_assoc, Nat.add_comm 1 i]

/-- Inside a window of `N` calls the index is a rotation when the counter does not wrap, or when
`N` divides `2^64`. -/
theorem index_rotates {c N i : Nat} (hi : i < N) (hwrap : c + N ≤ UInt64.size ∨ N ∣ UInt64.size) :
    (c + i) % UInt64.size % N = (i + c % N) % N := by
  rw [Nat.add_mod_mod, Nat.add_comm i c]
  rcases hwrap with h | h
  · rw [@Nat.mod_eq_of_lt (c + i) UInt64.size (by omega)]
  · exact Nat.mod_mod_of_dvd _ h

/-- `N` calls seeing the same snapshot of length `N` pick its endpoints in rotating order, when the
counter does not wrap inside them or `N` divides `2^64`. -/
theorem runBalancer_replicate_rotate (rr : RoundRobin) (S : List E) (hS : 0 < S.length)
    (hwrap : rr.c.toNat + S.length ≤ UInt64.size ∨ S.length ∣ UInt64.size) :
    (runBalancer pick rr (List.replicate S.length ((S, none) : List E × Option ε))).1 =
      (S.rotate (rr.c.toNat % S.length)).map .ok := by
  rw [runBalancer_replicate rr S hS]
  refine List.ext_getElem (by simp) fun i h₁ _ => ?_
  simp only [List.length_map, List.length_range] at h₁
  simp only [List.getElem_map, List.getElem_range, List.getElem_rotate, List.get_eq_getElem,
    index_rotates h₁ hwrap]

end RoundRobin

/-- The round-robin balancer over every run: each call answers as `CallOutcome` says; only the
counter-advancing calls advance the counter; and `N` consecutive counter-advancing calls that see
the same snapshot of length `N` select its endpoints once each, in rotating order, provided the
counter does not wrap inside them or `N` divides `2^64`. -/
theorem roundRobin_rotation (rr : RoundRobin) (answers : List (List E × Option ε)) :
    List.Forall₂ CallOutcome answers (runBalancer RoundRobin.pick rr answers).1 ∧
    (runBalancer RoundRobin.pick rr answers).2.c.toNat =
      (rr.c.toNat + (answers.filter advances).length) % UInt64.size ∧
    ∀ (m : Nat) (S : List E), 0 < S.length →
      ((answers.filter advances).drop m).take S.length = List.replicate S.length (S, none) →
      (rr.c.toNat + m) % UInt64.size + S.length ≤ UInt64.size ∨ S.length ∣ UInt64.size →
      ((selections answers (runBalancer RoundRobin.pick rr answers).1).drop m).take S.length =
        (S.rotate ((rr.c.toNat + m) % UInt64.size % S.length)).map .ok := by
  refine ⟨runBalancer_outcome _ rr answers, RoundRobin.runBalancer_counter rr answers,
    fun m S hS hwin hwrap => ?_⟩
  set adv := answers.filter advances
  have hadv : ∀ a ∈ adv, advances a := fun a ha => (List.mem_filter.mp ha).2
  have hm : m ≤ adv.length := by
    by_contra h
    have := congrArg List.length hwin
    simp [List.drop_eq_nil_of_le (Nat.le_of_not_le h)] at this
    omega
  have hcount : (runBalancer RoundRobin.pick rr (adv.take m)).2.c.toNat =
      (rr.c.toNat + m) % UInt64.size := by
    rw [RoundRobin.runBalancer_counter,
      List.filter_eq_self.mpr fun a ha => hadv a (List.mem_of_mem_take ha),
      List.length_take_of_le hm]
  rw [(runBalancer_filter_advances _ rr answers).1, drop_runBalancer, take_runBalancer, hwin,
    RoundRobin.runBalancer_replicate_rotate _ S hS (by rw [hcount]; exact hwrap), hcount]

/-- `random.Endpoint`, given `r.Intn` as the source's contract states it: an index below `n`. -/
def randomEndpoint (intn : σ → (n : Nat) → 0 < n → Fin n × σ) (r : σ) (answer : List E × Option ε) :
    Except (BalancerError ε) E × σ :=
  selectEndpoint intn r answer

/-- Three calls over `[0, 1, 2]` from the counter `2^64 - 2`: the counter wraps after the second
call, `(2^64 - 1) % 3 = 0` is followed by `0 % 3 = 0`, and endpoint `1` is never selected. -/
theorem roundRobin_wrap_repeats_endpoint :
    (runBalancer RoundRobin.pick ⟨18446744073709551614⟩
        (List.replicate 3 (([0, 1, 2], none) : List ℕ × Option Unit))).1 =
      [.ok 2, .ok 0, .ok 0] ∧
    Except.ok 1 ∉ (runBalancer RoundRobin.pick ⟨18446744073709551614⟩
        (List.replicate 3 (([0, 1, 2], none) : List ℕ × Option Unit))).1 := by
  have h : (runBalancer RoundRobin.pick ⟨18446744073709551614⟩
      (List.replicate 3 (([0, 1, 2], none) : List ℕ × Option Unit))).1 = [.ok 2, .ok 0, .ok 0] := rfl
  exact ⟨h, by rw [h]; simp⟩

end GoKit.Lb
