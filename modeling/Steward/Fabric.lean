import Steward.Subscriber
import Steward.Deliver

/-!
# `Steward.Fabric`: one subject between a publisher and a subscriber, interleaved

The publisher of a subject runs `publishMessages`: it takes a message from its channel,
numbers it with its counter, runs `messageDeliverNats` on it, and after the return bumps the
counter. The subscriber of the subject on the other node runs `subscribeMessages`: for every
message the broker hands its callback it starts a goroutine `subscriberHandler`, which does
the effects `Steward.Subscriber` lists, one after the other. The broker passes messages on
the subject to the subscriber in publish order, and a message on a reply subject to every
subscription made on it by `SubscribeSync`; no subscription is ever closed.

`Fabric` is the state of the three: the publisher's channel, counter and delivery in
progress, the messages on their way to the subscriber, the reply subscriptions with the
replies queued on them, and the handler goroutines. `Fabric.step` performs one action of one
party, so every interleaving is a list of actions and `Fabric.run` performs it. The
publisher's actions are the calls of one pass of `messageDeliverNats`, through the
transitions `DeliverState.onSubscribeSync`, `DeliverState.onPublishMsg` and
`DeliverState.onNextMsg` of `Steward.Deliver`. `NextMsg` returns the first reply queued on
the pass's subscription, and times out when there is none: the scheduler decides how long a
handler takes and when the timer fires. A goroutine performs the effects of
`subscriberHandler` one at a time, with the method handler's start and return as two steps,
so that any handler running time is an interleaving; a nil-handler panic stops the
subscriber's node.

The message ID is the publisher's own counter. `publishMessages` reads it back from the
registry; `Fabric.registry_reads_counter` (`Steward.PublisherRefinement`) shows that for the
publisher's worker alone under its name the registry gives every message the fabric's ID,
and `Registry.respawn_reuses_message_id` what a second spawn of the name does to that.

A `Link` has one publisher. Every node that publishes on a subject asks for its replies on
the same `reply.<subject>`, so the publishers of several nodes share the reply
subscriptions: `Steward.ReplyOrigin` models that.

What the code does not keep, the model keeps as ghost state for the proofs: the log of
`Event`s, the ID of the message whose handler published each reply and the goroutine that
ran it (`Reply.origin`, `Reply.goroutine`), and,
for each subscription, the messages with a reply still to come when it was made
(`ReplySub.outstanding`), and the broker's answers to the passes of the delivery in progress
(`Fabric.attempts`), over which `Steward.PublisherRefinement` runs `messageDeliverNats`.
-/

set_option autoImplicit false

namespace Steward

/-- A message on the reply subject: the bytes a handler returned, and (ghost) the ID of the
message whose `subscriberHandler` published it and the goroutine that ran it. -/
structure Reply where
  data : List UInt8
  origin : Nat
  goroutine : Nat
  deriving DecidableEq, Repr

/-- A subscription made by `SubscribeSync` on a reply subject, with the replies the broker
queued on it. `outstanding` is ghost: the IDs of the messages that, when the subscription
was made, were on their way to the subscriber or in a goroutine that had still to publish
its reply. -/
structure ReplySub where
  subject : String
  queue : List Reply
  outstanding : List Nat

/-- The delivery in progress: the numbered message, the state of the loop of
`messageDeliverNats`, and the subscription `subReply` of the current pass. -/
structure Delivery where
  message : Message
  st : DeliverState Reply
  subReply : Option Nat

/-- A goroutine `go p.subscriberHandler(...)`: the message it decoded, the effects it has
still to perform, and whether it is inside the method handler. -/
structure HandlerGoroutine where
  message : Message
  effects : List SubscriberEffect
  inHandler : Bool

/-- What the proofs watch happen. -/
inductive Event where
  /-- `PublishMsg` of the message with this ID succeeded. -/
  | published (id : Nat)
  /-- `messageDeliverNats` returned for message `id` with `d`. For a reply, `outstanding`
  is that of the subscription it came from; otherwise it is empty. -/
  | returned (id : Nat) (d : Delivered Reply) (outstanding : List Nat)
  /-- Goroutine `g` called the method handler on message `id`. -/
  | handlerStart (g id : Nat)
  /-- The method handler of goroutine `g` returned. -/
  | handlerReturn (g id : Nat)
  /-- Goroutine `g` published its reply to message `id`. -/
  | replied (g id : Nat)
  deriving DecidableEq

/-- One publisher and one subscriber on one subject: the two processes, the subscriber's
node, and what its method handlers return. The publishers of other nodes on the same
subject are left out here; `Steward.ReplyOrigin` adds them. -/
structure Link where
  publisher : Process
  subscriber : Process
  server : Server
  run : HandlerRun
  subject_eq : publisher.subject = subscriber.subject

/-- `fmt.Sprintf("reply.%s", proc.subject.name())`, the reply subject of every message. -/
def Link.replySubject (L : Link) : String := "reply." ++ L.publisher.subject.name

/-- The fields of the broker message that the subscriber's callback receives. The payload is
the gob encoding of the message, which the model does not spell out: the goroutine gets the
message it decodes to. -/
def Link.natsMsg (L : Link) : NatsMsg := ⟨L.subscriber.subject.name, L.replySubject, []⟩

/-- The effects of the goroutine the subscriber starts for a delivered message. -/
def Link.effectsOf (L : Link) (m : Message) : List SubscriberEffect :=
  subscriberHandler L.run L.subscriber L.server.nodeName L.natsMsg L.server m false

/-- A `natsConn.Publish` effect. -/
def SubscriberEffect.isPublish : SubscriberEffect → Bool
  | .publish .. => true
  | _ => false

/-- A call of the method handler. -/
def SubscriberEffect.isCallHandler : SubscriberEffect → Bool
  | .callHandler .. => true
  | _ => false

/-- The runtime panic of a call on the nil handler. -/
def SubscriberEffect.isPanic : SubscriberEffect → Bool
  | .nilHandlerPanic => true
  | _ => false

/-- The publisher, the broker and the subscriber of one subject. `attempts` is ghost: the
broker's answers to the passes of the delivery in progress, as `Steward.Deliver` takes
them. -/
structure Fabric where
  pending : List Message
  messageID : Nat
  current : Option Delivery
  attempts : List (Attempt Reply)
  inflight : List Message
  subs : List ReplySub
  goroutines : List HandlerGoroutine
  crashed : Bool
  log : List Event

/-- One action of one party. -/
inductive FabricAction where
  /-- `m := <-p.subject.messageCh` and `m.ID = ...`. -/
  | take
  /-- `SubscribeSync(msg.Reply)`, which succeeds or fails. -/
  | subscribeSync (ok : Bool)
  /-- `PublishMsg(msg)`, which succeeds or fails. -/
  | publishMsg (ok : Bool)
  /-- `subReply.NextMsg(...)`: the first queued reply, or a timeout when there is none. -/
  | nextMsg
  /-- After the return: `m.done <- struct{}{}` and `p.messageID++`. -/
  | finish
  /-- The broker hands the first message on the subject to the subscriber's callback, which
  starts a goroutine for it. -/
  | deliver
  /-- Goroutine `g` performs its next effect, or returns from the method handler. -/
  | runStep (g : Nat)
  deriving DecidableEq, Repr

namespace Fabric

/-- Before `publishMessages` takes its first message. -/
def start (pending : List Message) : Fabric := ⟨pending, 0, none, [], [], [], [], false, []⟩

/-- The IDs of the messages with a reply still to come: those on their way to the subscriber
and those of goroutines with a publish left to do. -/
def outstanding (f : Fabric) : List Nat :=
  f.inflight.map (·.id) ++
    (f.goroutines.filter (·.effects.any SubscriberEffect.isPublish)).map (·.message.id)

/-- The broker queues a reply on every subscription to its subject. -/
def publishReply (subs : List ReplySub) (subject : String) (r : Reply) : List ReplySub :=
  subs.map fun s => if s.subject = subject then { s with queue := s.queue ++ [r] } else s

variable (L : Link)

/-- The publisher's actions. -/
def publisherStep (f : Fabric) : FabricAction → Option Fabric
  | .take =>
    match f.current, f.pending with
    | none, m :: ms =>
      some { f with pending := ms, current := some ⟨{ m with id := f.messageID }, .init, none⟩,
                    attempts := [] }
    | _, _ => none
  | .subscribeSync ok =>
    match f.current with
    | some ⟨m, ⟨.top, n⟩, _⟩ =>
      let st := (⟨.top, n⟩ : DeliverState Reply).onSubscribeSync ok
      if ok then
        some { f with subs := f.subs ++ [⟨L.replySubject, [], f.outstanding⟩],
                      current := some ⟨m, st, some f.subs.length⟩ }
      else
        some { f with current := some ⟨m, st, none⟩,
                      attempts := f.attempts ++ [⟨false, false, none⟩] }
    | _ => none
  | .publishMsg ok =>
    match f.current with
    | some ⟨m, ⟨.subscribed, n⟩, sr⟩ =>
      let st := (⟨.subscribed, n⟩ : DeliverState Reply).onPublishMsg
        (isACK L.publisher.subject.commandOrEvent) ok
      if ok then
        some { f with inflight := f.inflight ++ [m], current := some ⟨m, st, sr⟩,
                      attempts := if isACK L.publisher.subject.commandOrEvent then f.attempts
                        else f.attempts ++ [⟨true, true, none⟩],
                      log := f.log ++ .published m.id ::
                        if isACK L.publisher.subject.commandOrEvent then []
                        else [.returned m.id .sent []] }
      else
        some { f with current := some ⟨m, st, sr⟩,
                      attempts := f.attempts ++ [⟨true, false, none⟩] }
    | _ => none
  | .nextMsg =>
    match f.current with
    | some ⟨m, ⟨.awaiting, n⟩, some i⟩ =>
      match f.subs[i]? with
      | some s =>
        match s.queue with
        | r :: rs =>
          some { f with subs := f.subs.set i { s with queue := rs },
                        current := some ⟨m, (⟨.awaiting, n⟩ : DeliverState Reply).onNextMsg
                          m.retries (some r), some i⟩,
                        attempts := f.attempts ++ [⟨true, true, some r⟩],
                        log := f.log ++ [.returned m.id (.acked r) s.outstanding] }
        | [] =>
          let st := (⟨.awaiting, n⟩ : DeliverState Reply).onNextMsg m.retries none
          some { f with current := some ⟨m, st, some i⟩,
                        attempts := f.attempts ++ [⟨true, true, none⟩],
                        log := f.log ++
                          if retrySwitch m.retries (n + 1) then [.returned m.id .gaveUp []]
                          else [] }
      | none => none
    | _ => none
  | .finish =>
    match f.current with
    | some ⟨_, ⟨.returned _, _⟩, _⟩ =>
      some { f with current := none, messageID := f.messageID + 1 }
    | _ => none
  | _ => none

/-- What the log records of goroutine `g`'s effect on message `id`. -/
def effectEvents (g id : Nat) : SubscriberEffect → List Event
  | .callHandler .. => [.handlerStart g id]
  | .publish .. => [.replied g id]
  | _ => []

/-- The subscriptions after an effect of goroutine `g` on message `id`: a publish queues its
data on the subscriptions to its subject. -/
def effectSubs (subs : List ReplySub) (g id : Nat) : SubscriberEffect → List ReplySub
  | .publish subject data => publishReply subs subject ⟨data, id, g⟩
  | _ => subs

/-- Goroutine `g`, outside the method handler on message `m`, performs the effect `e` and
has `effects` left: a handler call enters the handler, a publish queues the reply, a
nil-handler panic stops the node, and a log line or an error-kernel message changes nothing
here. -/
def runEffect (f : Fabric) (g : Nat) (m : Message) (e : SubscriberEffect)
    (effects : List SubscriberEffect) : Fabric :=
  { f with goroutines := f.goroutines.set g ⟨m, effects, e.isCallHandler⟩,
           subs := effectSubs f.subs g m.id e,
           crashed := f.crashed || e.isPanic,
           log := f.log ++ effectEvents g m.id e }

/-- The subscriber's actions: the callback starting a goroutine, and a goroutine's step. -/
def subscriberStep (f : Fabric) : FabricAction → Option Fabric
  | .deliver =>
    match f.crashed, f.inflight with
    | false, m :: ms =>
      some { f with inflight := ms,
                    goroutines := f.goroutines ++ [⟨m, L.effectsOf m, false⟩] }
    | _, _ => none
  | .runStep g =>
    match f.crashed, f.goroutines[g]? with
    | false, some ⟨m, effects, true⟩ =>
      some { f with goroutines := f.goroutines.set g ⟨m, effects, false⟩,
                    log := f.log ++ [.handlerReturn g m.id] }
    | false, some ⟨m, e :: effects, false⟩ => some (runEffect f g m e effects)
    | _, _ => none
  | _ => none

/-- One action of one party; `none` when it cannot be taken. -/
def step (f : Fabric) (a : FabricAction) : Option Fabric :=
  match a with
  | .deliver | .runStep _ => subscriberStep L f a
  | _ => publisherStep L f a

/-- A list of actions, one after the other. -/
def run (f : Fabric) : List FabricAction → Option Fabric
  | [] => some f
  | a :: as => (step L f a).bind (run · as)

/-! ### Each action, said once -/

section Step

variable {L} {f f' : Fabric}

theorem step_take (h : step L f .take = some f') :
    ∃ m ms, f.current = none ∧ f.pending = m :: ms ∧
      f' = { f with pending := ms,
                    current := some ⟨{ m with id := f.messageID }, .init, none⟩,
                    attempts := [] } := by
  simp only [step, publisherStep] at h
  split at h
  · next m ms hc hp => exact ⟨m, ms, hc, hp, (Option.some.inj h).symm⟩
  · cases h

theorem step_subscribeSync {ok : Bool} (h : step L f (.subscribeSync ok) = some f') :
    ∃ m n sr, f.current = some ⟨m, ⟨.top, n⟩, sr⟩ ∧
      (ok = true ∧ f' = { f with subs := f.subs ++ [⟨L.replySubject, [], f.outstanding⟩],
                                  current := some ⟨m, ⟨.subscribed, n⟩, some f.subs.length⟩ } ∨
        ok = false ∧ f' = { f with current := some ⟨m, ⟨.top, n⟩, none⟩,
                                   attempts := f.attempts ++ [⟨false, false, none⟩] }) := by
  simp only [step, publisherStep] at h
  split at h
  · next m n sr hc =>
    refine ⟨m, n, sr, hc, ?_⟩
    cases ok <;> simpa [DeliverState.onSubscribeSync, eq_comm] using h
  · cases h

theorem step_publishMsg {ok : Bool} (h : step L f (.publishMsg ok) = some f') :
    ∃ m n sr, f.current = some ⟨m, ⟨.subscribed, n⟩, sr⟩ ∧
      (ok = true ∧ f' = { f with
          inflight := f.inflight ++ [m],
          current := some ⟨m, ⟨if isACK L.publisher.subject.commandOrEvent then .awaiting
            else .returned .sent, n⟩, sr⟩,
          attempts := if isACK L.publisher.subject.commandOrEvent then f.attempts
            else f.attempts ++ [⟨true, true, none⟩],
          log := f.log ++ .published m.id ::
            if isACK L.publisher.subject.commandOrEvent then [] else [.returned m.id .sent []] } ∨
        ok = false ∧ f' = { f with current := some ⟨m, ⟨.top, n⟩, sr⟩,
                                   attempts := f.attempts ++ [⟨true, false, none⟩] }) := by
  simp only [step, publisherStep] at h
  split at h
  · next m n sr hc =>
    refine ⟨m, n, sr, hc, ?_⟩
    cases ok
    · simp only [Bool.false_eq_true, if_false, Option.some.injEq] at h
      exact .inr ⟨rfl, h.symm⟩
    · simp only [if_true, Option.some.injEq] at h
      exact .inl ⟨rfl, by rw [← h]; cases isACK L.publisher.subject.commandOrEvent <;> rfl⟩
  · cases h

theorem step_nextMsg (h : step L f .nextMsg = some f') :
    ∃ m n i s, f.current = some ⟨m, ⟨.awaiting, n⟩, some i⟩ ∧ f.subs[i]? = some s ∧
      ((∃ r rs, s.queue = r :: rs ∧ f' = { f with
          subs := f.subs.set i { s with queue := rs },
          current := some ⟨m, ⟨.returned (.acked r), n⟩, some i⟩,
          attempts := f.attempts ++ [⟨true, true, some r⟩],
          log := f.log ++ [.returned m.id (.acked r) s.outstanding] }) ∨
        (s.queue = [] ∧ f' = { f with
          current := some ⟨m, (⟨.awaiting, n⟩ : DeliverState Reply).onNextMsg m.retries none,
            some i⟩,
          attempts := f.attempts ++ [⟨true, true, none⟩],
          log := f.log ++
            if retrySwitch m.retries (n + 1) then [.returned m.id .gaveUp []] else [] })) := by
  simp only [step, publisherStep] at h
  split at h
  · next m n i hc =>
    split at h
    · next s hs =>
      refine ⟨m, n, i, s, hc, hs, ?_⟩
      split at h
      · next r rs hq =>
        exact .inl ⟨r, rs, hq, by simpa [DeliverState.onNextMsg, eq_comm] using h⟩
      · next hq => exact .inr ⟨hq, (Option.some.inj h).symm⟩
    · cases h
  · cases h

theorem step_finish (h : step L f .finish = some f') :
    ∃ m d n sr, f.current = some ⟨m, ⟨.returned d, n⟩, sr⟩ ∧
      f' = { f with current := none, messageID := f.messageID + 1 } := by
  simp only [step, publisherStep] at h
  split at h
  · next m d n sr hc => exact ⟨m, d, n, sr, hc, (Option.some.inj h).symm⟩
  · cases h

theorem step_deliver (h : step L f .deliver = some f') :
    ∃ m ms, f.crashed = false ∧ f.inflight = m :: ms ∧
      f' = { f with inflight := ms,
                    goroutines := f.goroutines ++ [⟨m, L.effectsOf m, false⟩] } := by
  simp only [step, subscriberStep] at h
  split at h
  · next m ms hc hi => exact ⟨m, ms, hc, hi, (Option.some.inj h).symm⟩
  · cases h

theorem step_runStep {g : Nat} (h : step L f (.runStep g) = some f') :
    f.crashed = false ∧ ∃ m effects,
      (f.goroutines[g]? = some ⟨m, effects, true⟩ ∧
        f' = { f with goroutines := f.goroutines.set g ⟨m, effects, false⟩,
                      log := f.log ++ [.handlerReturn g m.id] }) ∨
      (∃ e, f.goroutines[g]? = some ⟨m, e :: effects, false⟩ ∧
        f' = runEffect f g m e effects) := by
  simp only [step, subscriberStep] at h
  split at h
  · next m effects hc hg => exact ⟨hc, m, effects, .inl ⟨hg, (Option.some.inj h).symm⟩⟩
  · next m e effects hc hg => exact ⟨hc, m, effects, .inr ⟨e, hg, (Option.some.inj h).symm⟩⟩
  · cases h

end Step

/-- A property that every step keeps holds after every run. -/
theorem run_invariant (P : Fabric → Prop)
    (hstep : ∀ f a f', P f → step L f a = some f' → P f') :
    ∀ (acts : List FabricAction) {f f' : Fabric}, P f → run L f acts = some f' → P f'
  | [], _, _, hf, h => by cases h; exact hf
  | _ :: as, _, _, hf, h => by
    obtain ⟨_, h₁, h₂⟩ := Option.bind_eq_some.1 h
    exact run_invariant P hstep as (hstep _ _ _ hf h₁) h₂

/-- An entry of a list after `set`: the new element at its index, the old entry elsewhere. -/
theorem getElem?_set_cases {α : Type} {l : List α} {g g' : Nat} {x y : α}
    (h : (l.set g x)[g']? = some y) : (g = g' ∧ y = x) ∨ (g ≠ g' ∧ l[g']? = some y) := by
  rw [List.getElem?_set] at h
  split_ifs at h with h₁
  · exact .inl ⟨h₁, (Option.some.inj h).symm⟩
  · exact .inr ⟨h₁, h⟩

/-! ### Outstanding messages -/

section Outstanding

variable {L} {f f' : Fabric}

/-- A goroutine put in place of one on the same message, with no publish it did not have,
adds no outstanding ID. -/
theorem mem_outstanding_of_set {g j : Nat} {x y : HandlerGoroutine} (hj : j ∈ f'.outstanding)
    (hi : f'.inflight = f.inflight) (hg : f'.goroutines = f.goroutines.set g x)
    (hy : f.goroutines[g]? = some y) (hm : x.message = y.message)
    (hp : x.effects.any SubscriberEffect.isPublish → y.effects.any SubscriberEffect.isPublish) :
    j ∈ f.outstanding := by
  simp only [outstanding, hi, hg, List.mem_append, List.mem_map, List.mem_filter] at hj ⊢
  rcases hj with hj | ⟨z, ⟨hz, hzp⟩, rfl⟩
  · exact .inl hj
  · rcases List.mem_or_eq_of_mem_set hz with hz | rfl
    · exact .inr ⟨z, ⟨hz, hzp⟩, rfl⟩
    · exact .inr ⟨y, ⟨List.getElem?_mem hy, hp hzp⟩, by rw [hm]⟩

/-- A step adds no outstanding ID but that of the message being delivered: only
`PublishMsg` adds one. -/
theorem mem_outstanding_step {a : FabricAction} (h : step L f a = some f') {j : Nat}
    (hj : j ∈ f'.outstanding) :
    j ∈ f.outstanding ∨ ∃ d, f.current = some d ∧ j = d.message.id := by
  cases a with
  | take =>
    obtain ⟨m, ms, -, -, rfl⟩ := step_take h
    exact .inl hj
  | subscribeSync ok =>
    obtain ⟨m, n, sr, -, ⟨-, rfl⟩ | ⟨-, rfl⟩⟩ := step_subscribeSync h <;> exact .inl hj
  | publishMsg ok =>
    obtain ⟨m, n, sr, hc, ⟨-, rfl⟩ | ⟨-, rfl⟩⟩ := step_publishMsg h
    · simp only [outstanding, List.map_append, List.map_cons, List.map_nil, List.mem_append,
        List.mem_singleton] at hj
      rcases hj with (hj | rfl) | hj
      · exact .inl (List.mem_append_left _ hj)
      · exact .inr ⟨_, hc, rfl⟩
      · exact .inl (List.mem_append_right _ hj)
    · exact .inl hj
  | nextMsg =>
    obtain ⟨m, n, i, s, -, -, ⟨r, rs, -, rfl⟩ | ⟨-, rfl⟩⟩ := step_nextMsg h <;> exact .inl hj
  | finish =>
    obtain ⟨m, d, n, sr, -, rfl⟩ := step_finish h
    exact .inl hj
  | deliver =>
    obtain ⟨m, ms, -, hi, rfl⟩ := step_deliver h
    refine .inl ?_
    simp only [outstanding, hi, List.filter_append, List.map_append, List.map_cons,
      List.mem_append, List.mem_cons] at hj ⊢
    rcases hj with hj | hj | hj
    · exact .inl (.inr hj)
    · exact .inr hj
    · simp only [List.filter_cons, List.filter_nil] at hj
      split at hj <;> simp_all
  | runStep g =>
    obtain ⟨-, m, effects, ⟨hg, rfl⟩ | ⟨e, hg, rfl⟩⟩ := step_runStep h
    · exact .inl (mem_outstanding_of_set hj rfl rfl hg rfl id)
    · exact .inl (mem_outstanding_of_set hj rfl rfl hg rfl (fun hp => by simp [hp]))

end Outstanding

/-! ### The publisher's counter -/

/-- The publisher's counter bounds every ID it has given out: the delivery in progress
carries the counter, and every published or outstanding ID is at most it. -/
structure Counted (f : Fabric) : Prop where
  current_id : ∀ d, f.current = some d → d.message.id = f.messageID
  outstanding_le : ∀ j ∈ f.outstanding, j ≤ f.messageID
  published_le : ∀ j, .published j ∈ f.log → j ≤ f.messageID

theorem counted_start (pending : List Message) : (start pending).Counted :=
  ⟨by simp [start], by simp [start, outstanding], by simp [start]⟩

/-! ### What a step logs -/

/-- What has to hold before a step for it to log an event: `PublishMsg` of the message being
delivered; its return, with a reply only from the subscription of the current pass; and a
goroutine's handler call, handler return and reply, each on the goroutine's message. -/
def Logs (f : Fabric) : Event → Prop
  | .published j => ∃ d, f.current = some d ∧ j = d.message.id
  | .returned j dv out => ∃ d, f.current = some d ∧ j = d.message.id ∧
      ∀ r, dv = .acked r →
        ∃ i s, d.subReply = some i ∧ f.subs[i]? = some s ∧ r ∈ s.queue ∧ out = s.outstanding
  | .handlerStart g j => ∃ x, f.goroutines[g]? = some x ∧ x.inHandler = false ∧ j = x.message.id
  | .handlerReturn g j => ∃ x, f.goroutines[g]? = some x ∧ x.inHandler = true ∧ j = x.message.id
  | .replied g j => ∃ x, f.goroutines[g]? = some x ∧ x.inHandler = false ∧ j = x.message.id

/-- A step only appends to the log, and only events that `Logs` allows. -/
theorem log_step {f f' : Fabric} {a : FabricAction} (h : step L f a = some f') :
    ∃ es, f'.log = f.log ++ es ∧ ∀ e ∈ es, Logs f e := by
  have none : f.log = f.log ++ [] := (List.append_nil _).symm
  cases a with
  | take =>
    obtain ⟨m, ms, -, -, rfl⟩ := step_take h
    exact ⟨[], none, by simp⟩
  | subscribeSync ok =>
    obtain ⟨m, n, sr, -, ⟨-, rfl⟩ | ⟨-, rfl⟩⟩ := step_subscribeSync h <;>
      exact ⟨[], none, by simp⟩
  | publishMsg ok =>
    obtain ⟨m, n, sr, hc, ⟨-, rfl⟩ | ⟨-, rfl⟩⟩ := step_publishMsg h
    · refine ⟨_, rfl, fun e he => ?_⟩
      simp only [List.mem_cons] at he
      rcases he with rfl | he
      · exact ⟨_, hc, rfl⟩
      · split at he <;> simp only [List.mem_singleton, List.not_mem_nil] at he
        subst he
        exact ⟨_, hc, rfl, fun r hr => nomatch hr⟩
    · exact ⟨[], none, by simp⟩
  | nextMsg =>
    obtain ⟨m, n, i, s, hc, hs, ⟨r, rs, hq, rfl⟩ | ⟨-, rfl⟩⟩ := step_nextMsg h
    · refine ⟨_, rfl, fun e he => ?_⟩
      rw [List.mem_singleton.1 he]
      exact ⟨_, hc, rfl, fun r' hr => ⟨i, s, rfl, hs, by simp_all, rfl⟩⟩
    · refine ⟨_, rfl, fun e he => ?_⟩
      split at he <;> simp only [List.mem_singleton, List.not_mem_nil] at he
      subst he
      exact ⟨_, hc, rfl, fun r hr => nomatch hr⟩
  | finish =>
    obtain ⟨m, d, n, sr, -, rfl⟩ := step_finish h
    exact ⟨[], none, by simp⟩
  | deliver =>
    obtain ⟨m, ms, -, -, rfl⟩ := step_deliver h
    exact ⟨[], none, by simp⟩
  | runStep g =>
    obtain ⟨-, m, effects, ⟨hg, rfl⟩ | ⟨e, hg, rfl⟩⟩ := step_runStep h
    · refine ⟨_, rfl, fun e he => ?_⟩
      rw [List.mem_singleton.1 he]
      exact ⟨_, hg, rfl, rfl⟩
    · refine ⟨_, rfl, fun e' he => ?_⟩
      cases e <;> simp only [effectEvents, List.mem_singleton, List.not_mem_nil] at he <;>
        subst he <;> exact ⟨_, hg, rfl, rfl⟩

theorem counted_step {f f' : Fabric} {a : FabricAction} (hc : f.Counted)
    (h : step L f a = some f') : f'.Counted := by
  -- only `finish` moves the counter, and the delivery in progress keeps its message
  have hle : f.messageID ≤ f'.messageID ∧
      ∀ d', f'.current = some d' → d'.message.id = f'.messageID := by
    cases a with
    | take =>
      obtain ⟨m, ms, -, -, rfl⟩ := step_take h
      exact ⟨le_rfl, by rintro d' ⟨⟩; rfl⟩
    | subscribeSync ok =>
      obtain ⟨m, n, sr, hd, ⟨-, rfl⟩ | ⟨-, rfl⟩⟩ := step_subscribeSync h <;>
        exact ⟨le_rfl, by rintro d' ⟨⟩; exact (hc.current_id _ hd :)⟩
    | publishMsg ok =>
      obtain ⟨m, n, sr, hd, ⟨-, rfl⟩ | ⟨-, rfl⟩⟩ := step_publishMsg h <;>
        exact ⟨le_rfl, by rintro d' ⟨⟩; exact (hc.current_id _ hd :)⟩
    | nextMsg =>
      obtain ⟨m, n, i, s, hd, -, ⟨r, rs, -, rfl⟩ | ⟨-, rfl⟩⟩ := step_nextMsg h <;>
        exact ⟨le_rfl, by rintro d' ⟨⟩; exact (hc.current_id _ hd :)⟩
    | finish =>
      obtain ⟨m, d, n, sr, -, rfl⟩ := step_finish h
      exact ⟨Nat.le_succ _, by rintro d' ⟨⟩⟩
    | deliver =>
      obtain ⟨m, ms, -, -, rfl⟩ := step_deliver h
      exact ⟨le_rfl, hc.current_id⟩
    | runStep g =>
      obtain ⟨-, m, effects, ⟨-, rfl⟩ | ⟨e, -, rfl⟩⟩ := step_runStep h <;>
        exact ⟨le_rfl, hc.current_id⟩
  refine ⟨hle.2, fun j hj => ?_, fun j hj => ?_⟩
  · rcases mem_outstanding_step h hj with hj | ⟨d, hd, rfl⟩
    exacts [(hc.outstanding_le j hj).trans hle.1, (hc.current_id d hd).le.trans hle.1]
  · obtain ⟨es, hlog, hes⟩ := log_step L h
    rw [hlog, List.mem_append] at hj
    rcases hj with hj | hj
    · exact (hc.published_le j hj).trans hle.1
    · obtain ⟨d, hd, rfl⟩ := hes _ hj
      exact (hc.current_id d hd).le.trans hle.1

/-! ### Two subjects of `ship1` -/

/-- The publisher of `central` on the ACK subject `REQPing` of `ship1`. -/
def pingPublisher : Process :=
  { messageID := 0, subject := ⟨"ship1", EventACK, REQPing⟩, node := "ship1",
    processID := 1, processKind := .publisher, allowedReceivers := [] }

/-- `central` pinging `ship1`, whose handlers return no output and no error. -/
def pingLink : Link := ⟨pingPublisher, pingSubscriber, ship1Server, noOutput, rfl⟩

/-- A ping from `central`, given up after one timeout. -/
def ping : Message :=
  { Message.zero with toNode := "ship1", fromNode := "central", method := REQPing, retries := 1 }

/-- The publisher of `central` on the NACK subject `REQHello` of `ship1`. -/
def helloPublisher : Process :=
  { messageID := 0, subject := ⟨"ship1", EventNACK, REQHello⟩, node := "ship1",
    processID := 2, processKind := .publisher, allowedReceivers := [] }

/-- `central` saying hello to `ship1`. -/
def helloLink : Link := ⟨helloPublisher, helloSubscriber, ship1Server, noOutput, rfl⟩

/-- A hello from `central`. -/
def hello : Message :=
  { Message.zero with toNode := "ship1", fromNode := "central", method := REQHello }

end Fabric

end Steward
