import Steward.Fabric

/-!
# `Steward.ReplyOrigin`: whose reply `messageDeliverNats` returns with

Every message of a subject asks for its reply on the same subject `reply.<subject>`. The name
carries neither the node that sent the message nor a nonce. So every node that publishes on
the subject makes its subscriptions on that one name, one per pass of `messageDeliverNats`,
and none is ever closed. The broker queues a reply on every subscription to the subject, and
`NextMsg` returns the first reply queued on the subscription of the current pass, whichever
message, of whichever node, it answers.

`SharedFabric` is `Steward.Fabric` with the publishers of several nodes on one subject. Each
runs `publishMessages` on its own channel with its own counter, taking the publisher's steps
of the fabric, and the subscriber's goroutines publish their replies on the one reply subject.
What the code does not keep, the model keeps as ghost state: each reply names the publisher
and the ID of the message whose handler published it (`SharedReply.origin`), and each
subscription the messages with a reply still to come when it was made.

Two things go wrong. A handler that is still running when its publisher gives up on the
message replies later, and its reply is credited to a later message of the same publisher
(`lateReply_origin` runs it). A reply to another node's message is credited to whichever
publisher is waiting: in `foreign_reply_acks`, `ship1` rejects a ping from `ship2`, and a ping
from `central`, with the same ID 0, returns with that rejection.

What holds (`reply_origin`): when a publisher returns with a reply to one of its own messages
while delivering its message `k`, that message is `k`, or one with a lower ID that was
outstanding (published, with its reply still to come) when the returning pass subscribed. A
reply to another node's message can answer any message of that node.

The invariant `ReplyInv` keeps each publisher's counter above its outstanding IDs
(`Counted`), and, for the subscription of each publisher's current pass (`PassSub`), that each
outstanding message of the publisher is the one being delivered or was outstanding when the
subscription was made, and so is the origin of each of the publisher's replies queued on it.
-/

set_option autoImplicit false

namespace Steward

/-- A message on the reply subject of a subject with several publishers: the bytes a handler
returned, and (ghost) the publisher and the ID of the message whose `subscriberHandler`
published it. -/
structure SharedReply where
  data : List UInt8
  origin : Nat × Nat
  deriving DecidableEq, Repr

/-- A subscription made by `SubscribeSync` on the reply subject, with the replies the broker
queued on it. `outstanding` is ghost: the messages, by publisher and ID, with a reply still to
come when the subscription was made. -/
structure SharedSub where
  subject : String
  queue : List SharedReply
  outstanding : List (Nat × Nat)

/-- The delivery in progress of one publisher, as `Delivery` is the fabric's. -/
structure SharedDelivery where
  message : Message
  st : DeliverState SharedReply
  subReply : Option Nat

/-- The `publishMessages` loop of one node on the subject: its channel, its counter, and its
delivery in progress. -/
structure NodePublisher where
  pending : List Message
  messageID : Nat
  current : Option SharedDelivery

/-- A goroutine `go p.subscriberHandler(...)`: (ghost) the publisher of its message, the
message it decoded, and the effects it has still to perform. -/
structure SharedGoroutine where
  owner : Nat
  message : Message
  effects : List SubscriberEffect

/-- What the proofs watch happen. -/
inductive SharedEvent where
  /-- `PublishMsg` of message `id` of publisher `p` succeeded. -/
  | published (p id : Nat)
  /-- `messageDeliverNats` of publisher `p` returned for its message `id` with `d`. For a
  reply, `outstanding` is that of the subscription it came from; otherwise it is empty. -/
  | returned (p id : Nat) (d : Delivered SharedReply) (outstanding : List (Nat × Nat))
  /-- Goroutine `g` published its reply to the message `origin`. -/
  | replied (g : Nat) (origin : Nat × Nat)
  deriving DecidableEq

/-- The publishers of several nodes on one subject, the broker, and the subscriber. -/
structure SharedFabric where
  publishers : List NodePublisher
  inflight : List (Nat × Message)
  subs : List SharedSub
  goroutines : List SharedGoroutine
  crashed : Bool
  log : List SharedEvent

/-- One action of one party. A publisher's action names the publisher. -/
inductive SharedAction where
  /-- Publisher `p` takes its next message and numbers it. -/
  | take (p : Nat)
  /-- `SubscribeSync(msg.Reply)` of publisher `p`. -/
  | subscribeSync (p : Nat) (ok : Bool)
  /-- `PublishMsg(msg)` of publisher `p`. -/
  | publishMsg (p : Nat) (ok : Bool)
  /-- `subReply.NextMsg(...)` of publisher `p`. -/
  | nextMsg (p : Nat)
  /-- Publisher `p` is done with its message and bumps its counter. -/
  | finish (p : Nat)
  /-- The broker hands the first message on the subject to the subscriber's callback. -/
  | deliver
  /-- Goroutine `g` performs its next effect. -/
  | runStep (g : Nat)
  deriving DecidableEq, Repr

namespace SharedFabric

/-- Before any publisher takes a message: the channel of each node's publisher. -/
def start (pending : List (List Message)) : SharedFabric :=
  ⟨pending.map (⟨·, 0, none⟩), [], [], [], false, []⟩

/-- The messages, by publisher and ID, with a reply still to come: those on their way to the
subscriber and those of goroutines with a publish left to do. -/
def outstanding (s : SharedFabric) : List (Nat × Nat) :=
  s.inflight.map (fun x => (x.1, x.2.id)) ++
    (s.goroutines.filter (·.effects.any SubscriberEffect.isPublish)).map
      fun x => (x.owner, x.message.id)

/-- The broker queues a reply on every subscription to its subject. -/
def publishReply (subs : List SharedSub) (subject : String) (r : SharedReply) :
    List SharedSub :=
  subs.map fun sb => if sb.subject = subject then { sb with queue := sb.queue ++ [r] } else sb

/-- The subscriptions after an effect of a goroutine on the message `origin`. -/
def effectSubs (subs : List SharedSub) (origin : Nat × Nat) :
    SubscriberEffect → List SharedSub
  | .publish subject data => publishReply subs subject ⟨data, origin⟩
  | _ => subs

/-- Goroutine `g` performs the effect `e` and is left as `x`: a publish queues the reply, a
nil-handler panic stops the node, and the other effects change nothing here. -/
def runEffect (s : SharedFabric) (g : Nat) (x : SharedGoroutine) (e : SubscriberEffect) :
    SharedFabric :=
  { s with goroutines := s.goroutines.set g x,
           subs := effectSubs s.subs (x.owner, x.message.id) e,
           crashed := s.crashed || e.isPanic,
           log := s.log ++ if e.isPublish then [.replied g (x.owner, x.message.id)] else [] }

variable (L : Link)

/-- One action; `none` when it cannot be taken. A publisher's action is that of
`Fabric.publisherStep` on its own channel, counter and delivery: every publisher is on the
link's subject, and the publisher's code reads nothing of its process but the subject. -/
def step (s : SharedFabric) : SharedAction → Option SharedFabric
  | .take p =>
    match s.publishers[p]? with
    | some ⟨m :: ms, id, none⟩ =>
      some { s with publishers :=
        s.publishers.set p ⟨ms, id, some ⟨{ m with id := id }, .init, none⟩⟩ }
    | _ => none
  | .subscribeSync p ok =>
    match s.publishers[p]? with
    | some ⟨pending, id, some ⟨m, ⟨.top, n⟩, _⟩⟩ =>
      let st := (⟨.top, n⟩ : DeliverState SharedReply).onSubscribeSync ok
      if ok then
        some { s with
          publishers := s.publishers.set p ⟨pending, id, some ⟨m, st, some s.subs.length⟩⟩,
          subs := s.subs ++ [⟨L.replySubject, [], s.outstanding⟩] }
      else some { s with publishers := s.publishers.set p ⟨pending, id, some ⟨m, st, none⟩⟩ }
    | _ => none
  | .publishMsg p ok =>
    match s.publishers[p]? with
    | some ⟨pending, id, some ⟨m, ⟨.subscribed, n⟩, sr⟩⟩ =>
      let st := (⟨.subscribed, n⟩ : DeliverState SharedReply).onPublishMsg
        (isACK L.publisher.subject.commandOrEvent) ok
      if ok then
        some { s with
          publishers := s.publishers.set p ⟨pending, id, some ⟨m, st, sr⟩⟩,
          inflight := s.inflight ++ [(p, m)],
          log := s.log ++ .published p m.id ::
            if isACK L.publisher.subject.commandOrEvent then []
            else [.returned p m.id .sent []] }
      else some { s with publishers := s.publishers.set p ⟨pending, id, some ⟨m, st, sr⟩⟩ }
    | _ => none
  | .nextMsg p =>
    match s.publishers[p]? with
    | some ⟨pending, id, some ⟨m, ⟨.awaiting, n⟩, some i⟩⟩ =>
      match s.subs[i]? with
      | some sb =>
        match sb.queue with
        | r :: rs =>
          some { s with
            publishers := s.publishers.set p ⟨pending, id, some ⟨m,
              (⟨.awaiting, n⟩ : DeliverState SharedReply).onNextMsg m.retries (some r), some i⟩⟩,
            subs := s.subs.set i { sb with queue := rs },
            log := s.log ++ [.returned p m.id (.acked r) sb.outstanding] }
        | [] =>
          some { s with
            publishers := s.publishers.set p ⟨pending, id, some ⟨m,
              (⟨.awaiting, n⟩ : DeliverState SharedReply).onNextMsg m.retries none, some i⟩⟩,
            log := s.log ++
              if retrySwitch m.retries (n + 1) then [.returned p m.id .gaveUp []] else [] }
      | none => none
    | _ => none
  | .finish p =>
    match s.publishers[p]? with
    | some ⟨pending, id, some ⟨_, ⟨.returned _, _⟩, _⟩⟩ =>
      some { s with publishers := s.publishers.set p ⟨pending, id + 1, none⟩ }
    | _ => none
  | .deliver =>
    match s.crashed, s.inflight with
    | false, (p, m) :: ms =>
      some { s with inflight := ms, goroutines := s.goroutines ++ [⟨p, m, L.effectsOf m⟩] }
    | _, _ => none
  | .runStep g =>
    match s.crashed, s.goroutines[g]? with
    | false, some ⟨p, m, e :: effects⟩ => some (runEffect s g ⟨p, m, effects⟩ e)
    | _, _ => none

/-- A list of actions, one after the other. -/
def run (s : SharedFabric) : List SharedAction → Option SharedFabric
  | [] => some s
  | a :: as => (step L s a).bind (run · as)

/-- A property that every step keeps holds after every run. -/
theorem run_invariant (P : SharedFabric → Prop)
    (hstep : ∀ s a s', P s → step L s a = some s' → P s') :
    ∀ (acts : List SharedAction) {s s' : SharedFabric}, P s → run L s acts = some s' → P s'
  | [], _, _, hs, h => by cases h; exact hs
  | _ :: as, _, _, hs, h => by
    obtain ⟨_, h₁, h₂⟩ := Option.bind_eq_some.1 h
    exact run_invariant P hstep as (hstep _ _ _ hs h₁) h₂

/-! ### Each action, said once -/

section Step

variable {L} {s s' : SharedFabric} {p : Nat}

theorem step_take (h : step L s (.take p) = some s') :
    ∃ m ms id, s.publishers[p]? = some ⟨m :: ms, id, none⟩ ∧
      s' = { s with publishers :=
        s.publishers.set p ⟨ms, id, some ⟨{ m with id := id }, .init, none⟩⟩ } := by
  simp only [step] at h
  split at h
  · next m ms id hp => exact ⟨m, ms, id, hp, (Option.some.inj h).symm⟩
  · cases h

theorem step_subscribeSync {ok : Bool} (h : step L s (.subscribeSync p ok) = some s') :
    ∃ pending id m n sr, s.publishers[p]? = some ⟨pending, id, some ⟨m, ⟨.top, n⟩, sr⟩⟩ ∧
      (ok = true ∧ s' = { s with
          publishers := s.publishers.set p
            ⟨pending, id, some ⟨m, ⟨.subscribed, n⟩, some s.subs.length⟩⟩,
          subs := s.subs ++ [⟨L.replySubject, [], s.outstanding⟩] } ∨
        ok = false ∧ s' = { s with
          publishers := s.publishers.set p ⟨pending, id, some ⟨m, ⟨.top, n⟩, none⟩⟩ }) := by
  simp only [step] at h
  split at h
  · next pending id m n sr hp =>
    refine ⟨pending, id, m, n, sr, hp, ?_⟩
    cases ok <;> simpa [DeliverState.onSubscribeSync, eq_comm] using h
  · cases h

theorem step_publishMsg {ok : Bool} (h : step L s (.publishMsg p ok) = some s') :
    ∃ pending id m n sr, s.publishers[p]? = some ⟨pending, id, some ⟨m, ⟨.subscribed, n⟩, sr⟩⟩ ∧
      (ok = true ∧ s' = { s with
          publishers := s.publishers.set p ⟨pending, id, some ⟨m,
            ⟨if isACK L.publisher.subject.commandOrEvent then .awaiting else .returned .sent, n⟩,
            sr⟩⟩,
          inflight := s.inflight ++ [(p, m)],
          log := s.log ++ .published p m.id ::
            if isACK L.publisher.subject.commandOrEvent then []
            else [.returned p m.id .sent []] } ∨
        ok = false ∧ s' = { s with
          publishers := s.publishers.set p ⟨pending, id, some ⟨m, ⟨.top, n⟩, sr⟩⟩ }) := by
  simp only [step] at h
  split at h
  · next pending id m n sr hp =>
    refine ⟨pending, id, m, n, sr, hp, ?_⟩
    cases ok
    · simp only [Bool.false_eq_true, if_false, Option.some.injEq] at h
      exact .inr ⟨rfl, h.symm⟩
    · simp only [if_true, Option.some.injEq] at h
      exact .inl ⟨rfl, by rw [← h]; cases isACK L.publisher.subject.commandOrEvent <;> rfl⟩
  · cases h

theorem step_nextMsg (h : step L s (.nextMsg p) = some s') :
    ∃ pending id m n i sb,
      s.publishers[p]? = some ⟨pending, id, some ⟨m, ⟨.awaiting, n⟩, some i⟩⟩ ∧
      s.subs[i]? = some sb ∧
      ((∃ r rs, sb.queue = r :: rs ∧ s' = { s with
          publishers := s.publishers.set p ⟨pending, id,
            some ⟨m, ⟨.returned (.acked r), n⟩, some i⟩⟩,
          subs := s.subs.set i { sb with queue := rs },
          log := s.log ++ [.returned p m.id (.acked r) sb.outstanding] }) ∨
        (sb.queue = [] ∧ s' = { s with
          publishers := s.publishers.set p ⟨pending, id, some ⟨m,
            (⟨.awaiting, n⟩ : DeliverState SharedReply).onNextMsg m.retries none, some i⟩⟩,
          log := s.log ++
            if retrySwitch m.retries (n + 1) then [.returned p m.id .gaveUp []] else [] })) := by
  simp only [step] at h
  split at h
  · next pending id m n i hp =>
    split at h
    · next sb hs =>
      refine ⟨pending, id, m, n, i, sb, hp, hs, ?_⟩
      split at h
      · next r rs hq =>
        exact .inl ⟨r, rs, hq, by simpa [DeliverState.onNextMsg, eq_comm] using h⟩
      · next hq => exact .inr ⟨hq, (Option.some.inj h).symm⟩
    · cases h
  · cases h

theorem step_finish (h : step L s (.finish p) = some s') :
    ∃ pending id d, s.publishers[p]? = some ⟨pending, id, some d⟩ ∧
      s' = { s with publishers := s.publishers.set p ⟨pending, id + 1, none⟩ } := by
  simp only [step] at h
  split at h
  · next pending id m d n sr hp => exact ⟨pending, id, _, hp, (Option.some.inj h).symm⟩
  · cases h

theorem step_deliver (h : step L s .deliver = some s') :
    ∃ q m ms, s.inflight = (q, m) :: ms ∧
      s' = { s with inflight := ms, goroutines := s.goroutines ++ [⟨q, m, L.effectsOf m⟩] } := by
  simp only [step] at h
  split at h
  · next q m ms _ hi => exact ⟨q, m, ms, hi, (Option.some.inj h).symm⟩
  · cases h

theorem step_runStep {g : Nat} (h : step L s (.runStep g) = some s') :
    ∃ q m e effects, s.goroutines[g]? = some ⟨q, m, e :: effects⟩ ∧
      s' = runEffect s g ⟨q, m, effects⟩ e := by
  simp only [step] at h
  split at h
  · next q m e effects _ hg => exact ⟨q, m, e, effects, hg, (Option.some.inj h).symm⟩
  · cases h

/-- A step adds no outstanding message but one being delivered: only `PublishMsg` adds
one. -/
theorem mem_outstanding_step {a : SharedAction} (h : step L s a = some s') {q j : Nat}
    (hj : (q, j) ∈ s'.outstanding) :
    (q, j) ∈ s.outstanding ∨
      ∃ P d, s.publishers[q]? = some P ∧ P.current = some d ∧ j = d.message.id := by
  cases a with
  | take p =>
    obtain ⟨m, ms, id, -, rfl⟩ := step_take h
    exact .inl hj
  | subscribeSync p ok =>
    obtain ⟨pending, id, m, n, sr, -, ⟨-, rfl⟩ | ⟨-, rfl⟩⟩ := step_subscribeSync h <;>
      exact .inl hj
  | publishMsg p ok =>
    obtain ⟨pending, id, m, n, sr, hp, ⟨-, rfl⟩ | ⟨-, rfl⟩⟩ := step_publishMsg h
    · simp only [outstanding, List.map_append, List.map_cons, List.map_nil, List.mem_append,
        List.mem_singleton, Prod.mk.injEq] at hj
      rcases hj with (hj | ⟨rfl, rfl⟩) | hj
      · exact .inl (List.mem_append_left _ hj)
      · exact .inr ⟨_, _, hp, rfl, rfl⟩
      · exact .inl (List.mem_append_right _ hj)
    · exact .inl hj
  | nextMsg p =>
    obtain ⟨pending, id, m, n, i, sb, -, -, ⟨r, rs, -, rfl⟩ | ⟨-, rfl⟩⟩ :=
      step_nextMsg h <;> exact .inl hj
  | finish p =>
    obtain ⟨pending, id, d, -, rfl⟩ := step_finish h
    exact .inl hj
  | deliver =>
    obtain ⟨q', m, ms, hi, rfl⟩ := step_deliver h
    refine .inl ?_
    simp only [outstanding, hi, List.filter_append, List.map_append, List.map_cons,
      List.mem_append, List.mem_cons] at hj ⊢
    rcases hj with hj | hj | hj
    · exact .inl (.inr hj)
    · exact .inr hj
    · simp only [List.filter_cons, List.filter_nil] at hj
      split at hj <;> simp_all
  | runStep g =>
    obtain ⟨q', m, e, effects, hg, rfl⟩ := step_runStep h
    refine .inl ?_
    simp only [outstanding, runEffect, List.mem_append, List.mem_map, List.mem_filter] at hj ⊢
    rcases hj with hj | ⟨x, ⟨hx, hxp⟩, hxj⟩
    · exact .inl hj
    · rcases List.mem_or_eq_of_mem_set hx with hx | rfl
      · exact .inr ⟨x, ⟨hx, hxp⟩, hxj⟩
      · exact .inr ⟨_, ⟨List.getElem?_mem hg, by simp_all⟩, hxj⟩

end Step

/-! ### The counters and the subscriptions of the passes -/

/-- Publisher `p`'s counter: the delivery in progress carries it, and no outstanding message of
`p` has a higher ID. -/
structure Counted (s : SharedFabric) (p : Nat) (P : NodePublisher) : Prop where
  current_id : ∀ d, P.current = some d → d.message.id = P.messageID
  outstanding_le : ∀ j, (p, j) ∈ s.outstanding → j ≤ P.messageID

/-- The subscription `sb` of a pass of publisher `p` for its message `k`: every outstanding
message of `p` is `k`, or was outstanding when `sb` was made and has a lower ID, and so is
the origin of every reply to `p` queued on `sb`. -/
structure PassSub (s : SharedFabric) (p k : Nat) (sb : SharedSub) : Prop where
  outstanding : ∀ j, (p, j) ∈ s.outstanding → j = k ∨ ((p, j) ∈ sb.outstanding ∧ j < k)
  queue : ∀ r ∈ sb.queue, r.origin.1 = p →
    r.origin.2 = k ∨ (r.origin ∈ sb.outstanding ∧ r.origin.2 < k)

/-- The invariant: each publisher's counter, the subscription of each publisher's current
pass, and every return with a reply to the publisher's own message. -/
structure ReplyInv (s : SharedFabric) : Prop where
  counted : ∀ p P, s.publishers[p]? = some P → Counted s p P
  pass : ∀ (p : Nat) (P : NodePublisher) (m : Message) (st : DeliverState SharedReply) (i : Nat),
    s.publishers[p]? = some P → P.current = some ⟨m, st, some i⟩ →
    ∃ sb, s.subs[i]? = some sb ∧ PassSub s p m.id sb
  returned : ∀ p k r out, .returned p k (.acked r) out ∈ s.log → r.origin.1 = p →
    r.origin.2 = k ∨ (r.origin ∈ out ∧ r.origin.2 < k)

section Step

variable {L} {s s' : SharedFabric}

/-- What a step keeps of the publishers: each one's counter and message, and the
subscription of its pass, where it has one. -/
def KeepsPublishers (s s' : SharedFabric) : Prop :=
  ∀ (p : Nat) (P' : NodePublisher), s'.publishers[p]? = some P' →
    ∃ P : NodePublisher, s.publishers[p]? = some P ∧ P'.messageID = P.messageID ∧
      P'.current.map (·.message) = P.current.map (·.message) ∧
      ∀ m st i, P'.current = some ⟨m, st, some i⟩ → ∃ st₀, P.current = some ⟨m, st₀, some i⟩

/-- What a step keeps of the subscriptions: each one's snapshot, and a queue that gains only
replies of outstanding messages. -/
def KeepsSubs (s s' : SharedFabric) : Prop :=
  ∀ (i : Nat) (sb : SharedSub), s.subs[i]? = some sb → ∃ sb' : SharedSub,
    s'.subs[i]? = some sb' ∧ (∀ r ∈ sb'.queue, r ∈ sb.queue ∨ r.origin ∈ s.outstanding) ∧
      sb'.outstanding = sb.outstanding

/-- A step that keeps the message of the pass, adds no outstanding message of `p` but the
pass's own, keeps the subscription's snapshot and queues on it only replies of outstanding
messages keeps the subscription of the pass. -/
theorem PassSub.mono {p k : Nat} {sb sb' : SharedSub} (hp : PassSub s p k sb)
    (hout : ∀ j, (p, j) ∈ s'.outstanding → (p, j) ∈ s.outstanding ∨ j = k)
    (hq : ∀ r ∈ sb'.queue, r ∈ sb.queue ∨ r.origin ∈ s.outstanding)
    (hs : sb'.outstanding = sb.outstanding) : PassSub s' p k sb' := by
  refine ⟨fun j hj => ?_, fun r hr hrp => ?_⟩
  · rw [hs]
    rcases hout j hj with hj | rfl
    exacts [hp.outstanding j hj, .inl rfl]
  · rw [hs]
    rcases hq r hr with hr | hr
    · exact hp.queue r hr hrp
    · have horigin : r.origin = (p, r.origin.2) := Prod.ext hrp rfl
      rw [horigin] at hr ⊢
      exact hp.outstanding _ hr

/-- The counters after a step that keeps every publisher's counter and message and adds no
outstanding message but one being delivered. -/
theorem counted_of_frame (hi : s.ReplyInv)
    (hpub : ∀ (p : Nat) (P' : NodePublisher), s'.publishers[p]? = some P' →
      ∃ P : NodePublisher, s.publishers[p]? = some P ∧
      P'.messageID = P.messageID ∧ P'.current.map (·.message) = P.current.map (·.message))
    (hout : ∀ p j, (p, j) ∈ s'.outstanding → (p, j) ∈ s.outstanding ∨
      ∃ P d, s.publishers[p]? = some P ∧ P.current = some d ∧ j = d.message.id) :
    ∀ p P', s'.publishers[p]? = some P' → Counted s' p P' := by
  intro p P' hP'
  obtain ⟨P, hP, hid, hm⟩ := hpub p P' hP'
  have hc := hi.counted p P hP
  refine ⟨fun d' hd' => ?_, fun j hj => ?_⟩
  · rw [hd'] at hm
    obtain ⟨d, hd, hdm⟩ := Option.map_eq_some'.1 hm.symm
    rw [hid, ← hc.current_id d hd, hdm]
  · rw [hid]
    rcases hout p j hj with hj | ⟨P₁, d, hP₁, hd, rfl⟩
    · exact hc.outstanding_le j hj
    · cases hP.symm.trans hP₁
      exact (hc.current_id d hd).le

/-- The subscriptions of the passes after a step that keeps the publishers and the
subscriptions and adds no outstanding message but one being delivered. -/
theorem pass_of_frame (hi : s.ReplyInv) (hk : KeepsPublishers s s')
    (hout : ∀ p j, (p, j) ∈ s'.outstanding → (p, j) ∈ s.outstanding ∨
      ∃ P d, s.publishers[p]? = some P ∧ P.current = some d ∧ j = d.message.id)
    (hsubs : KeepsSubs s s') :
    ∀ (p : Nat) (P' : NodePublisher) (m : Message) (st : DeliverState SharedReply) (i : Nat),
      s'.publishers[p]? = some P' → P'.current = some ⟨m, st, some i⟩ →
      ∃ sb', s'.subs[i]? = some sb' ∧ PassSub s' p m.id sb' := by
  intro p P' m st i hP' hc'
  obtain ⟨P, hP, -, -, hcur⟩ := hk p P' hP'
  obtain ⟨st₀, hc⟩ := hcur m st i hc'
  obtain ⟨sb, hsb, hps⟩ := hi.pass p P m st₀ i hP hc
  obtain ⟨sb', hsb', hq, hso⟩ := hsubs i sb hsb
  refine ⟨sb', hsb', hps.mono (fun j hj => ?_) hq hso⟩
  rcases hout p j hj with hj | ⟨P₁, d, hP₁, hd, rfl⟩
  · exact .inl hj
  · cases hP.symm.trans hP₁
    cases hc.symm.trans hd
    exact .inr rfl

/-- The invariant after a step that keeps the publishers and the subscriptions, given that
its returns are right. -/
theorem ReplyInv.of_frame {a : SharedAction} (hi : s.ReplyInv) (h : step L s a = some s')
    (hk : KeepsPublishers s s') (hsubs : KeepsSubs s s')
    (hret : ∀ p k r out, .returned p k (.acked r) out ∈ s'.log → r.origin.1 = p →
      r.origin.2 = k ∨ (r.origin ∈ out ∧ r.origin.2 < k)) : s'.ReplyInv :=
  have hout := fun q j (hj : (q, j) ∈ s'.outstanding) => mem_outstanding_step h hj
  ⟨counted_of_frame hi (fun p P' hP' => (hk p P' hP').imp fun _ h => ⟨h.1, h.2.1, h.2.2.1⟩)
      hout, pass_of_frame hi hk hout hsubs, hret⟩

end Step

end SharedFabric

end Steward
