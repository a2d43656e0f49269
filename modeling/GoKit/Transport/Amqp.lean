import Mathlib.Data.List.Basic

/-!
# AMQP request and reply (`transport/amqp`)

`Publisher.Endpoint` encodes a request into a publishing whose `ReplyTo` is the publisher's queue
and whose `CorrelationId` is a random string, runs the `before` hooks and hands the publishing to
its deliverer. `DefaultDeliverer` publishes it, starts a consumer on the reply queue (`Consume`)
and waits in a `select` loop for the first delivery carrying its correlation ID, dropping every
other delivery, or for the context to be done.

The consumer is never cancelled: each call leaves one on the reply queue, and the broker hands each
message of a queue to one of the queue's consumers. `World` is one publisher's calls with the
messages on its reply queue, under any interleaving of new calls, replies, hand-overs and
timeouts. Each call runs the `select` loop of `DefaultDeliverer` on what its consumer receives
(`Call.Faithful`), so a call only ever returns a delivery with its own correlation ID
(`publisher_reply_sound`). But a reply handed to the consumer of a call that has already returned
is lost, and the call it answers can then only time out (`publisher_reply_lost`).
-/

namespace GoKit.Transport.Amqp

/-- A `[]byte` body. -/
abbrev Bytes := List UInt8

/-- `amqp.Delivery`, by what the deliverer and the decoder read. -/
structure Delivery where
  correlationId : String
  body : Bytes
deriving DecidableEq, Repr

/-- `amqp.Publishing`, by the fields the publisher sets and the encoder writes. -/
structure Publishing where
  replyTo : String
  correlationId : String
  body : Bytes
deriving DecidableEq, Repr

/-- What one turn of `DefaultDeliverer`'s `select` receives: a delivery on the consumer's channel,
or `ctx.Done()` with `ctx.Err()`. -/
inductive Wake (Err : Type)
  | delivery (d : Delivery)
  | done (err : Err)
deriving DecidableEq, Repr

variable {Err : Type}

/-- The `for { select ... }` loop of `DefaultDeliverer` over what it receives: the first delivery
with the correlation ID, or the context's error; `none` while it still waits. -/
def awaitReply (corr : String) : List (Wake Err) → Option (Except Err Delivery)
  | [] => none
  | .delivery d :: ws => if d.correlationId = corr then some (.ok d) else awaitReply corr ws
  | .done err :: _ => some (.error err)

theorem awaitReply_append_of_none {corr : String} {ws : List (Wake Err)}
    (h : awaitReply corr ws = none) (w : Wake Err) :
    awaitReply corr (ws ++ [w]) = awaitReply corr [w] := by
  induction ws with
  | nil => rfl
  | cons w' ws ih =>
    cases w' with
    | delivery d =>
      unfold awaitReply at h
      split at h
      · cases h
      · rw [List.cons_append, awaitReply, if_neg ‹_›]
        exact ih h
    | done err => cases h

/-- The loop only returns a delivery with its correlation ID. -/
theorem correlationId_of_awaitReply {corr : String} {ws : List (Wake Err)} {d : Delivery}
    (h : awaitReply corr ws = some (.ok d)) : d.correlationId = corr := by
  induction ws with
  | nil => cases h
  | cons w ws ih =>
    cases w with
    | delivery d' =>
      unfold awaitReply at h
      split at h
      · cases h; assumption
      · exact ih h
    | done err => cases h

/-- `DefaultDeliverer`, given the errors of `Publish` and `Consume`, `autoAck`, and what the
consumer's `select` receives: the delivery or error it returns (`none` while it waits), and the
deliveries it acks. -/
def defaultDeliverer (publishErr consumeErr : Option Err) (autoAck : Bool) (pub : Publishing)
    (wakes : List (Wake Err)) : Option (Except Err Delivery) × List Delivery :=
  match publishErr, consumeErr with
  | some err, _ => (some (.error err), [])
  | none, some err => (some (.error err), [])
  | none, none =>
    match awaitReply pub.correlationId wakes with
    | some (.ok d) => (some (.ok d), if !autoAck then [d] else [])
    | r => (r, [])

/-- `Publisher`, with the answer of its deliverer as a function of the context and the publishing
(`none` while it waits). The hooks' types are read off their calls, their declarations not being
under `src/`: a `before` hook may rewrite the publishing. -/
structure Publisher (Ctx Req Res Err : Type) where
  queueName : String
  enc : Ctx → Publishing → Req → Except Err Publishing
  dec : Ctx → Delivery → Except Err Res
  before : List (Ctx → Publishing → Ctx × Publishing)
  after : List (Ctx → Delivery → Ctx)
  deliverer : Ctx → Publishing → Option (Except Err Delivery)

/-- `Publisher.Endpoint`, with `corr` the random correlation ID the call draws. -/
def Publisher.endpoint {Ctx Req Res : Type} (p : Publisher Ctx Req Res Err) (corr : String)
    (ctx : Ctx) (request : Req) : Option (Except Err Res) :=
  match p.enc ctx ⟨p.queueName, corr, []⟩ request with
  | .error err => some (.error err)
  | .ok pub =>
    let b := p.before.foldl (fun s f => f s.1 s.2) (ctx, pub)
    match p.deliverer b.1 b.2 with
    | none => none
    | some (.error err) => some (.error err)
    | some (.ok deliv) => some (p.dec (p.after.foldl (fun c f => f c deliv) b.1) deliv)

/-! ### One publisher's calls on a shared reply queue -/

/-- A call of the publisher: its correlation ID, what its consumer has handed to the `select` loop,
and what `DefaultDeliverer` returned, once it has. -/
structure Call (Err : Type) where
  corr : String
  seen : List (Wake Err)
  result : Option (Except Err Delivery)

/-- The consumer of a call receives: while its loop runs, one more turn of it; after, the message
sits in the consumer's buffer, unread. -/
def Call.receive (c : Call Err) (w : Wake Err) : Call Err :=
  if c.result.isNone then ⟨c.corr, c.seen ++ [w], awaitReply c.corr [w]⟩ else c

/-- The reply queue of one publisher: the messages not yet handed to a consumer, and the calls,
call `i` consuming through consumer `i`. -/
structure World (Err : Type) where
  queue : List Delivery
  calls : List (Call Err)

/-- What happens next: a new call publishes and starts its consumer; the server replies onto the
queue; the broker hands the queue's message `m` to consumer `i`; call `i`'s context is done. -/
inductive Action (Err : Type)
  | call (corr : String)
  | reply (d : Delivery)
  | deliver (m i : Nat)
  | timeout (i : Nat) (err : Err)
deriving DecidableEq, Repr

/-- One action, `none` if it cannot happen. -/
def World.step (w : World Err) : Action Err → Option (World Err)
  | .call corr => some ⟨w.queue, w.calls ++ [⟨corr, [], none⟩]⟩
  | .reply d => some ⟨w.queue ++ [d], w.calls⟩
  | .deliver m i => do
    let d ← w.queue[m]?
    let c ← w.calls[i]?
    some ⟨w.queue.eraseIdx m, w.calls.set i (c.receive (.delivery d))⟩
  | .timeout i err => do
    let c ← w.calls[i]?
    if c.result.isNone then some ⟨w.queue, w.calls.set i (c.receive (.done err))⟩ else none

/-- A run of actions from `w`. -/
def World.run (w : World Err) : List (Action Err) → Option (World Err)
  | [] => some w
  | a :: as => (w.step a).bind (·.run as)

/-- A hand-over takes message `m` off the queue and gives it to consumer `i`'s call. -/
theorem World.step_deliver {w w' : World Err} {m i : Nat} (h : w.step (.deliver m i) = some w') :
    ∃ d c, w.queue[m]? = some d ∧ w.calls[i]? = some c ∧
      w' = ⟨w.queue.eraseIdx m, w.calls.set i (c.receive (.delivery d))⟩ := by
  simp only [World.step, Option.bind_eq_bind, Option.bind_eq_some, Option.some.injEq] at h
  obtain ⟨d, hd, c, hc, rfl⟩ := h
  exact ⟨d, c, hd, hc, rfl⟩

/-- A timeout ends a call still waiting, with the context's error. -/
theorem World.step_timeout {w w' : World Err} {i : Nat} {err : Err}
    (h : w.step (.timeout i err) = some w') :
    ∃ c, w.calls[i]? = some c ∧ c.result = none ∧
      w' = ⟨w.queue, w.calls.set i (c.receive (.done err))⟩ := by
  simp only [World.step, Option.bind_eq_bind, Option.bind_eq_some] at h
  obtain ⟨c, hc, h⟩ := h
  split at h
  · cases h; exact ⟨c, hc, Option.isNone_iff_eq_none.mp ‹_›, rfl⟩
  · cases h

/-! ### Every call runs `DefaultDeliverer`'s loop -/

/-- A call's result is what the `select` loop computes from what its consumer handed it. -/
def Call.Faithful (c : Call Err) : Prop := c.result = awaitReply c.corr c.seen

theorem Call.Faithful.receive {c : Call Err} (h : c.Faithful) (w : Wake Err) : (c.receive w).Faithful := by
  unfold Call.receive
  split
  · next hn => exact (awaitReply_append_of_none (h ▸ Option.isNone_iff_eq_none.mp hn) w).symm
  · exact h

theorem World.step_faithful {w w' : World Err} {a : Action Err} (hw : ∀ c ∈ w.calls, c.Faithful)
    (h : w.step a = some w') : ∀ c ∈ w'.calls, c.Faithful := by
  have set_faithful : ∀ (i : Nat) (c : Call Err) (x : Wake Err), w.calls[i]? = some c →
      ∀ c' ∈ w.calls.set i (c.receive x), c'.Faithful := fun i c x hc c' hc' =>
    (List.mem_or_eq_of_mem_set hc').elim (hw c') fun h => h ▸ (hw c (List.getElem?_mem hc)).receive x
  cases a with
  | call corr =>
    cases h
    simpa [List.mem_append, or_imp, forall_and, Call.Faithful, awaitReply] using hw
  | reply d => cases h; exact hw
  | deliver m i =>
    obtain ⟨d, c, -, hc, rfl⟩ := World.step_deliver h
    exact set_faithful i c _ hc
  | timeout i err =>
    obtain ⟨c, hc, -, rfl⟩ := World.step_timeout h
    exact set_faithful i c _ hc

theorem World.run_faithful {w w' : World Err} {as : List (Action Err)}
    (hw : ∀ c ∈ w.calls, c.Faithful) (h : w.run as = some w') : ∀ c ∈ w'.calls, c.Faithful := by
  induction as generalizing w with
  | nil => cases h; exact hw
  | cons a as ih =>
    obtain ⟨w₁, h₁, h₂⟩ := Option.bind_eq_some.mp h
    exact ih (World.step_faithful hw h₁) h₂

/-- Along every interleaving of calls, replies, hand-overs and timeouts from an empty reply queue,
each call's result is what `DefaultDeliverer`'s loop computes from what its consumer received, and
a call that returned a delivery returned one with its own correlation ID. -/
theorem publisher_reply_sound (as : List (Action Err)) (w : World Err)
    (h : (⟨[], []⟩ : World Err).run as = some w) :
    ∀ c ∈ w.calls, c.result = awaitReply c.corr c.seen ∧
      ∀ d, c.result = some (.ok d) → d.correlationId = c.corr := by
  intro c hc
  have hf := World.run_faithful (fun _ h => absurd h (List.not_mem_nil _)) h c hc
  exact ⟨hf, fun d hd => correlationId_of_awaitReply (hf ▸ hd)⟩

/-- Two calls wait; the broker hands `b`'s reply to `a`'s consumer, which drops it, then `a`'s. -/
example :
    let w : World Unit := ⟨[], [⟨"a", [.delivery ⟨"b", []⟩, .delivery ⟨"a", []⟩], some (.ok ⟨"a", []⟩)⟩,
      ⟨"b", [], none⟩]⟩
    (⟨[], []⟩ : World Unit).run [.call "a", .call "b", .reply ⟨"b", []⟩, .deliver 0 0,
        .reply ⟨"a", []⟩, .deliver 0 0] = some w ∧
      ∀ c ∈ w.calls, c.result = awaitReply c.corr c.seen ∧
        ∀ d, c.result = some (.ok d) → d.correlationId = c.corr :=
  ⟨rfl, publisher_reply_sound [.call "a", .call "b", .reply ⟨"b", []⟩, .deliver 0 0,
    .reply ⟨"a", []⟩, .deliver 0 0] _ rfl⟩

/-! ### A reply handed to an abandoned consumer is lost -/

@[simp] theorem Call.receive_corr (c : Call Err) (w : Wake Err) : (c.receive w).corr = c.corr := by
  unfold Call.receive; split <;> rfl

/-- A call that has not returned a reply still has not after receiving anything but a delivery with
its correlation ID. -/
theorem Call.receive_not_ok {c : Call Err} {w : Wake Err} (hc : ∀ d, c.result ≠ some (.ok d))
    (hw : ∀ d, w = .delivery d → d.correlationId ≠ c.corr) (d : Delivery) :
    (c.receive w).result ≠ some (.ok d) := by
  unfold Call.receive
  split
  · cases w with
    | delivery d' => simp [awaitReply, hw d' rfl]
    | done err => simp [awaitReply]
  · exact hc d

/-- Call `i` has correlation ID `corr` and has not returned a reply, and no message on the queue
carries `corr`. -/
def Starved (i : Nat) (corr : String) (w : World Err) : Prop :=
  (∃ c, w.calls[i]? = some c ∧ c.corr = corr ∧ ∀ d, c.result ≠ some (.ok d)) ∧
    ∀ d ∈ w.queue, d.correlationId ≠ corr

theorem Starved.set {i j : Nat} {corr : String} {w : World Err} (h : Starved i corr w) {c : Call Err}
    (hc : w.calls[j]? = some c) {x : Wake Err} (hx : ∀ d, x = .delivery d → d.correlationId ≠ corr)
    (queue : List Delivery) (hq : ∀ d ∈ queue, d.correlationId ≠ corr) :
    Starved i corr ⟨queue, w.calls.set j (c.receive x)⟩ := by
  obtain ⟨⟨ci, hci, hcorr, hok⟩, -⟩ := h
  refine ⟨?_, hq⟩
  by_cases hji : j = i
  · subst hji
    rw [hci, Option.some.injEq] at hc
    subst hc
    exact ⟨_, List.getElem?_set_self (List.getElem?_eq_some_iff.mp hci).1, by simp [hcorr],
      Call.receive_not_ok hok (hcorr ▸ hx)⟩
  · exact ⟨ci, by rw [List.getElem?_set_ne hji, hci], hcorr, hok⟩

/-- Unless a message with `corr` is published, a starved call stays starved. -/
theorem Starved.step {i : Nat} {corr : String} {w w' : World Err} {a : Action Err}
    (h : Starved i corr w) (ha : ∀ d, a = .reply d → d.correlationId ≠ corr)
    (hw : w.step a = some w') : Starved i corr w' := by
  cases a with
  | call corr' =>
    cases hw
    obtain ⟨⟨c, hc, hrest⟩, hq⟩ := h
    exact ⟨⟨c, by rw [List.getElem?_append_left (List.getElem?_eq_some_iff.mp hc).1, hc],
      hrest⟩, hq⟩
  | reply d =>
    cases hw
    exact ⟨h.1, fun d' hd' => (List.mem_append.mp hd').elim (h.2 d') fun hd =>
      (List.mem_singleton.mp hd) ▸ ha d rfl⟩
  | deliver m j =>
    obtain ⟨d, c, hd, hc, rfl⟩ := World.step_deliver hw
    exact h.set hc (fun d' hd' => by cases hd'; exact h.2 d (List.getElem?_mem hd)) _
      fun d' hd' => h.2 d' (List.mem_of_mem_eraseIdx hd')
  | timeout j err =>
    obtain ⟨c, hc, -, rfl⟩ := World.step_timeout hw
    exact h.set hc (fun _ hd => by cases hd) _ h.2

theorem Starved.run {i : Nat} {corr : String} {w w' : World Err} {as : List (Action Err)}
    (h : Starved i corr w) (has : ∀ d, Action.reply d ∈ as → d.correlationId ≠ corr)
    (hw : w.run as = some w') : Starved i corr w' := by
  induction as generalizing w with
  | nil => cases hw; exact h
  | cons a as ih =>
    obtain ⟨w₁, h₁, h₂⟩ := Option.bind_eq_some.mp hw
    exact ih (h.step (fun d hd => has d (hd ▸ List.mem_cons_self _ _)) h₁)
      (fun d hd => has d (List.mem_cons_of_mem _ hd)) h₂

/-- Whenever message `m` is the last on the queue that carries call `i`'s correlation ID (its
reply, say), the broker may hand it to another call's consumer, and from then on call `i` never
returns a reply unless another message with its correlation ID is published: it can only time out.
The other consumer drops the message if its call is waiting, and never reads it if its call has
returned, `DefaultDeliverer` having left that consumer on the queue. -/
theorem publisher_reply_lost (w : World Err) {i j m : Nat} {c : Call Err}
    (hc : w.calls[i]? = some c) (hok : ∀ d, c.result ≠ some (.ok d)) (hji : j ≠ i)
    (hj : j < w.calls.length) (hm : m < w.queue.length)
    (honly : ∀ d ∈ w.queue.eraseIdx m, d.correlationId ≠ c.corr) :
    ∃ w₁, w.step (.deliver m j) = some w₁ ∧
      ∀ more w', (∀ d, Action.reply d ∈ more → d.correlationId ≠ c.corr) → w₁.run more = some w' →
        ∀ c' ∈ w'.calls[i]?, ∀ d, c'.result ≠ some (.ok d) := by
  let w₁ : World Err :=
    ⟨w.queue.eraseIdx m, w.calls.set j (w.calls[j].receive (.delivery w.queue[m]))⟩
  have hs : Starved i c.corr w₁ := ⟨⟨c, by rw [List.getElem?_set_ne hji, hc], rfl, hok⟩, honly⟩
  refine ⟨w₁, by simp [w₁, World.step, List.getElem?_eq_getElem hj, List.getElem?_eq_getElem hm], ?_⟩
  intro more w' hmore hrun c' hc'
  obtain ⟨⟨c'', hc'', -, hok''⟩, -⟩ := hs.run hmore hrun
  rw [hc'', Option.mem_def, Option.some.injEq] at hc'
  exact hc' ▸ hok''

/-- Call `a` gets its reply; call `b` publishes and its reply is published; the broker hands it to
the consumer call `a` left behind. -/
theorem publisher_reply_lost_example :
    let w : World Unit := ⟨[⟨"b", []⟩], [⟨"a", [.delivery ⟨"a", []⟩], some (.ok ⟨"a", []⟩)⟩,
      ⟨"b", [], none⟩]⟩
    (⟨[], []⟩ : World Unit).run
        [.call "a", .reply ⟨"a", []⟩, .deliver 0 0, .call "b", .reply ⟨"b", []⟩] = some w ∧
      w.calls[1]? = some ⟨"b", [], none⟩ ∧ (∀ d, (none : Option (Except Unit Delivery)) ≠ some (.ok d)) ∧
      (0 : Nat) ≠ 1 ∧ 0 < w.calls.length ∧ 0 < w.queue.length ∧
      (∀ d ∈ w.queue.eraseIdx 0, d.correlationId ≠ "b") ∧
      ∃ w₁, w.step (.deliver 0 0) = some w₁ ∧
        ∀ more w', (∀ d, Action.reply d ∈ more → d.correlationId ≠ "b") → w₁.run more = some w' →
          ∀ c' ∈ w'.calls[1]?, ∀ d, c'.result ≠ some (.ok d) :=
  ⟨rfl, rfl, fun _ h => (by cases h), by decide, by decide, by decide, fun _ h => (by cases h),
    @publisher_reply_lost Unit ⟨[⟨"b", []⟩], [⟨"a", [.delivery ⟨"a", []⟩], some (.ok ⟨"a", []⟩)⟩,
      ⟨"b", [], none⟩]⟩ 1 0 0 ⟨"b", [], none⟩ rfl (fun _ h => by cases h) (by decide) (by decide)
      (by decide) (fun _ h => by cases h)⟩

end GoKit.Transport.Amqp
