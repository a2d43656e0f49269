import GoKit.Transport.Grpc

/-!
# NATS transport (`transport/nats`)

`Subscriber.ServeMsg` handles a message through the `before` hooks, the decoder, the endpoint,
the `after` hooks and the encoder, which publishes the response on the message's reply subject.
A failing stage hands its error to the error handler and, when the message has a reply subject,
to the error encoder, which publishes it there too: `DefaultErrorEncoder` publishes
`{"err": err.Error()}`. `Publisher.Endpoint` publishes a request with `RequestWithContext` and
decodes the first message it gets back.

Two things set this transport apart from `transport/grpc`. Errors travel in-band: over a
connection on which a subscriber serves a publisher, a failure of the subscriber's decoder or
endpoint comes back as the error encoder's message, which the publisher's decoder reads like any
response (`publisher_reads_subscriber_failure`). And `SubscriberFinalizer` replaces the finalizers
where `ServerFinalizer` adds to them, so each `SubscriberFinalizer` option drops the finalizers
registered before it (`subscriberFinalizer_drops_earlier`).
-/

namespace GoKit.Transport.Nats

/-- A `[]byte` payload. -/
abbrev Bytes := List UInt8

/-- `nats.Msg`, by the fields the code reads and sets. -/
structure Msg where
  subject : String
  reply : String
  data : Bytes
deriving DecidableEq, Repr

/-- A message published on the connection, `nc.Publish(subject, data)`. -/
abbrev Publication := String × Bytes

variable {Ctx Req Res Err Obs : Type}

/-! ### The subscriber -/

/-- `Subscriber`. The hooks' types are read off their calls, their declarations not being under
`src/`: a `before` hook may rewrite the message through its pointer, and the encoder, an `after`
hook and the error encoder may publish on the connection. -/
structure Subscriber (Ctx Req Res Err Obs : Type) where
  e : Endpoint Ctx Req Res Err
  dec : Ctx → Msg → Except Err Req
  enc : Ctx → String → Res → List Publication × Option Err
  before : List (Ctx → Msg → Ctx × Msg)
  after : List (Ctx → Ctx × List Publication)
  errorEncoder : Ctx → Err → String → List Publication
  finalizer : List (Ctx → Msg → Obs)

/-- `DefaultErrorEncoder`: publishes the JSON of `Response{Error: err.Error()}` on the reply
subject. Its failures go to a no-op logger, so a publication that fails is one that is not
made. -/
def defaultErrorEncoder (errorJSON : Err → Bytes) (_ : Ctx) (err : Err) (reply : String) :
    List Publication :=
  [(reply, errorJSON err)]

/-- `NewSubscriber`, the options applied in order; `errorJSON` is `DefaultErrorEncoder`'s JSON. -/
def newSubscriber (errorJSON : Err → Bytes) (e : Endpoint Ctx Req Res Err)
    (dec : Ctx → Msg → Except Err Req) (enc : Ctx → String → Res → List Publication × Option Err)
    (options : List (Subscriber Ctx Req Res Err Obs → Subscriber Ctx Req Res Err Obs)) :
    Subscriber Ctx Req Res Err Obs :=
  options.foldl (fun s option => option s) ⟨e, dec, enc, [], [], defaultErrorEncoder errorJSON, []⟩

/-- `SubscriberBefore`: adds `before` hooks. -/
def subscriberBefore (before : List (Ctx → Msg → Ctx × Msg)) (s : Subscriber Ctx Req Res Err Obs) :
    Subscriber Ctx Req Res Err Obs :=
  { s with before := s.before ++ before }

/-- `SubscriberAfter`: adds `after` hooks. -/
def subscriberAfter (after : List (Ctx → Ctx × List Publication)) (s : Subscriber Ctx Req Res Err Obs) :
    Subscriber Ctx Req Res Err Obs :=
  { s with after := s.after ++ after }

/-- `SubscriberErrorEncoder`. -/
def subscriberErrorEncoder (ee : Ctx → Err → String → List Publication)
    (s : Subscriber Ctx Req Res Err Obs) : Subscriber Ctx Req Res Err Obs :=
  { s with errorEncoder := ee }

/-- `SubscriberFinalizer`: unlike the other hook options, it sets the finalizers, `s.finalizer = f`. -/
def subscriberFinalizer (f : List (Ctx → Msg → Obs)) (s : Subscriber Ctx Req Res Err Obs) :
    Subscriber Ctx Req Res Err Obs :=
  { s with finalizer := f }

/-- What `ServeMsg` did: the messages published, the calls of `errorHandler.Handle`, and the
finalizers' calls. -/
structure Served (Ctx Err Obs : Type) where
  published : List Publication
  handled : List (Ctx × Err)
  finalized : List Obs

/-- The `after` hooks, with what they publish. -/
def runAfter (after : List (Ctx → Ctx × List Publication)) (ctx : Ctx) : Ctx × List Publication :=
  after.foldl (fun a f => ((f a.1).1, a.2 ++ (f a.1).2)) (ctx, [])

variable (s : Subscriber Ctx Req Res Err Obs)

/-- A failing decoder or endpoint: `s.errorHandler.Handle(ctx, err)`, then the error encoder's
reply unless the message has no reply subject. -/
def Subscriber.fail (ctx : Ctx) (msg : Msg) (err : Err) : List Publication × List (Ctx × Err) :=
  (if msg.reply = "" then [] else s.errorEncoder ctx err msg.reply, [(ctx, err)])

/-- `ServeMsg` after the `before` hooks: the last context, the publications and the errors
handled. -/
def serveStages (ctx : Ctx) (msg : Msg) : Ctx × List Publication × List (Ctx × Err) :=
  match s.dec ctx msg with
  | .error err => (ctx, s.fail ctx msg err)
  | .ok request =>
    match s.e ctx request with
    | .error err => (ctx, s.fail ctx msg err)
    | .ok response =>
      let a := runAfter s.after ctx
      if msg.reply = "" then (a.1, a.2, [])
      else
        let r := s.enc a.1 msg.reply response
        match r.2 with
        | some err => (a.1, a.2 ++ r.1 ++ s.errorEncoder a.1 err msg.reply, [(a.1, err)])
        | none => (a.1, a.2 ++ r.1, [])

/-- `Subscriber.ServeMsg`, from the context `background` it makes. The finalizers see the last
context and the message as the `before` hooks left it. -/
def serveMsg (background : Ctx) (msg : Msg) : Served Ctx Err Obs :=
  let b := s.before.foldl (fun a f => f a.1 a.2) (background, msg)
  let r := serveStages s b.1 b.2
  ⟨r.2.1, r.2.2, s.finalizer.map fun f => f r.1 b.2⟩

/-- A decoder or endpoint failure is handled once and, if the message has a reply subject, encoded
there; nothing else is published. -/
theorem serveStages_of_fail {ctx : Ctx} {msg : Msg} {err : Err}
    (h : (s.dec ctx msg).bind (s.e ctx) = .error err) :
    serveStages s ctx msg = (ctx, s.fail ctx msg err) := by
  unfold serveStages
  cases hd : s.dec ctx msg with
  | error err' => rw [hd] at h; cases h; rfl
  | ok request =>
    rw [hd] at h
    dsimp only
    rw [show s.e ctx request = .error err from h]

/-- Each `SubscriberFinalizer` option drops the finalizers registered before it: `ServeMsg` calls
the last such option's finalizers and no other, each once. (`ServerFinalizer` of
`transport/grpc` adds to the finalizers instead: `newServer_append_serverFinalizer`.) -/
theorem subscriberFinalizer_drops_earlier (errorJSON : Err → Bytes) (e : Endpoint Ctx Req Res Err)
    (dec : Ctx → Msg → Except Err Req) (enc : Ctx → String → Res → List Publication × Option Err)
    (options : List (Subscriber Ctx Req Res Err Obs → Subscriber Ctx Req Res Err Obs))
    (f : List (Ctx → Msg → Obs)) (background : Ctx) (msg : Msg) :
    let s := newSubscriber errorJSON e dec enc (options ++ [subscriberFinalizer f])
    ∃ ctx msg', (serveMsg s background msg).finalized = f.map fun g => g ctx msg' := by
  intro s
  have hf : s.finalizer = f := by simp [s, newSubscriber, subscriberFinalizer]
  let b := s.before.foldl (fun a f => f a.1 a.2) (background, msg)
  exact ⟨(serveStages s b.1 b.2).1, b.2, by rw [← hf]; rfl⟩

/-- Of two `SubscriberFinalizer` options, only the second's finalizer runs. -/
example : (serveMsg (newSubscriber (fun (_ : String) => []) (fun _ _ => .ok ())
    (fun (_ : Unit) _ => .ok ()) (fun _ _ _ => ([], none))
    [subscriberFinalizer [fun _ _ => (1 : Nat)], subscriberFinalizer [fun _ _ => 2]]) ()
      ⟨"s", "", []⟩).finalized = [2] := rfl

/-! ### The publisher -/

/-- `Publisher`, without its connection and timeout, which `RequestWithContext` stands for. -/
structure Publisher (Ctx Req Res Err : Type) where
  subject : String
  enc : Ctx → Msg → Req → Except Err Msg
  dec : Ctx → Msg → Except Err Res
  before : List (Ctx → Msg → Ctx × Msg)
  after : List (Ctx → Msg → Ctx)

/-- `Publisher.Endpoint`, over the connection's `RequestWithContext`. -/
def Publisher.endpoint (requestWithContext : Ctx → String → Bytes → Except Err Msg)
    (p : Publisher Ctx Req Res Err) (ctx : Ctx) (request : Req) : Except Err Res :=
  match p.enc ctx ⟨p.subject, "", []⟩ request with
  | .error err => .error err
  | .ok msg =>
    let b := p.before.foldl (fun a f => f a.1 a.2) (ctx, msg)
    match requestWithContext b.1 b.2.subject b.2.data with
    | .error err => .error err
    | .ok resp => p.dec (p.after.foldl (fun c f => f c resp) b.1) resp

/-! ### A publisher calling a subscriber -/

/-- A live connection on which `s` is subscribed to the request subjects: `RequestWithContext`
publishes the request with a fresh inbox as its reply subject and answers with the first message
published on the inbox, or fails with `timeout` if there is none. With a subscriber there and the
connection open, `ErrNoResponders` and the closed-connection errors do not arise. -/
def serving (background : Ctx) (inbox : String) (timeout : Err) :
    Ctx → String → Bytes → Except Err Msg :=
  fun _ subject data =>
    match (serveMsg s background ⟨subject, inbox, data⟩).published.find? (·.1 = inbox) with
    | some p => .ok ⟨inbox, "", p.2⟩
    | none => .error timeout

variable (p : Publisher Ctx Req Res Err) (background : Ctx) (inbox : String) (timeout : Err)

/-- A failure of the subscriber's decoder or endpoint comes back to the publisher as
`DefaultErrorEncoder`'s message, which the publisher's decoder reads as it reads a response. -/
theorem publisher_reads_subscriber_failure (errorJSON : Err → Bytes)
    (hee : s.errorEncoder = defaultErrorEncoder errorJSON) (hinbox : inbox ≠ "") (ctx : Ctx)
    (request : Req) (msg : Msg) (henc : p.enc ctx ⟨p.subject, "", []⟩ request = .ok msg) :
    let out := p.before.foldl (fun a f => f a.1 a.2) (ctx, msg)
    let sb := s.before.foldl (fun a f => f a.1 a.2) (background, ⟨out.2.subject, inbox, out.2.data⟩)
    ∀ err, sb.2.reply = inbox → (s.dec sb.1 sb.2).bind (s.e sb.1) = .error err →
      p.endpoint (serving s background inbox timeout) ctx request =
        p.dec (p.after.foldl (fun c f => f c ⟨inbox, "", errorJSON err⟩) out.1)
          ⟨inbox, "", errorJSON err⟩ := by
  intro out sb err hreply hfail
  have hpub : (serveMsg s background ⟨out.2.subject, inbox, out.2.data⟩).published =
      [(inbox, errorJSON err)] := by
    simp only [serveMsg, serveStages_of_fail s hfail, Subscriber.fail, hreply, hinbox, hee]
    rfl
  simp only [Publisher.endpoint, henc, serving, hpub]
  simp

/-- The subscriber's endpoint fails with `boom`; the publisher, whose decoder returns the payload,
succeeds with the error encoder's bytes. -/
theorem publisher_reads_subscriber_failure_example :
    let s : Subscriber Unit Unit Bytes String Unit := newSubscriber (fun _ => [1])
      (fun _ _ => .error "boom") (fun _ _ => .ok ()) (fun _ reply b => ([(reply, b)], none)) []
    let p : Publisher Unit Unit Bytes String := ⟨"svc", fun _ m _ => .ok m, fun _ m => .ok m.data, [], []⟩
    let out := p.before.foldl (fun a f => f a.1 a.2) ((), ⟨"svc", "", []⟩)
    let sb := s.before.foldl (fun a f => f a.1 a.2) ((), ⟨out.2.subject, "inbox", out.2.data⟩)
    s.errorEncoder = defaultErrorEncoder (fun _ => [1]) ∧ "inbox" ≠ "" ∧
      p.enc () ⟨p.subject, "", []⟩ () = .ok ⟨"svc", "", []⟩ ∧ sb.2.reply = "inbox" ∧
      (s.dec sb.1 sb.2).bind (s.e sb.1) = .error "boom" ∧
      p.endpoint (serving s () "inbox" "timeout") () () =
        p.dec (p.after.foldl (fun c f => f c ⟨"inbox", "", [1]⟩) out.1) ⟨"inbox", "", [1]⟩ ∧
      p.endpoint (serving s () "inbox" "timeout") () () = .ok [1] := by
  intro s p out sb
  exact ⟨rfl, by decide, rfl, rfl, rfl, publisher_reads_subscriber_failure s p () "inbox" "timeout"
    (fun _ => [1]) rfl (by decide) () () ⟨"svc", "", []⟩ rfl "boom" rfl rfl, rfl⟩

end GoKit.Transport.Nats
