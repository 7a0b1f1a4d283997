import Steward.Redelivery
import Steward.SubscriberRefinement

/-!
# `Steward.FaultFree`: the delivery when nothing fails

The other modules of the fabric bound what can go wrong. This one says what goes right. On an
ACK subject, take the schedule in which the broker answers every call and each goroutine runs
to its end before the publisher's `NextMsg`. For each message in turn, `publishMessages` takes
it and `messageDeliverNats` subscribes and publishes. The subscriber's callback then starts the
goroutine, which performs every effect of `subscriberHandler`, and `NextMsg` gets the reply.
Under this schedule every message of the channel is delivered once: one publish, one goroutine,
and `messageDeliverNats` returns with the reply that the message's own goroutine published.

`faultFree_delivers` states it for every channel, provided the subscriber's lookup never calls
the nil handler. That is the only fault of the subscriber's own code on this path: a method
missing from the table of an allowed sender ends the node (`Steward.Subscriber`). The log of
the run is `faultFreeTrace`, message after message: the publish, the goroutine's events as
`Steward.SubscriberRefinement` lists them, and the return with the reply.

The proof runs one message at a time from an `Idle` fabric, with nothing in flight and every
goroutine at its end (`run_deliveryRun`). A goroutine's effects are run by `run_goroutineRun`,
by induction on its effects. The reply queued on the pass's subscription is given by
`foldl_effectSubs_getElem?`.
-/

set_option autoImplicit false

namespace Steward

/-- The data `e` publishes on `subject`, if it is a publish there. -/
def SubscriberEffect.replyTo (subject : String) : SubscriberEffect → Option (List UInt8)
  | .publish s data => if s = subject then some data else none
  | _ => none

/-- The data of the first reply a goroutine's effects publish on `subject`. -/
def replyData (subject : String) (effects : List SubscriberEffect) : List UInt8 :=
  ((effects.filterMap (·.replyTo subject)).head?).getD []

/-- Setting an entry to the value it holds leaves the list as it is. -/
theorem set_self_of_getElem? {α : Type} {l : List α} {i : Nat} {a : α} (h : l[i]? = some a) :
    l.set i a = l :=
  List.ext_getElem? fun j => by
    rw [List.getElem?_set']
    split
    · subst_vars
      rw [h]
      rfl
    · rfl

/-- A log line neither panics nor replies. -/
theorem isPanic_replyTo_of_isLog {e : SubscriberEffect} (h : e.isLog) (subject : String) :
    e.isPanic = false ∧ e.replyTo subject = none := by
  cases e <;> simp_all [SubscriberEffect.isLog, SubscriberEffect.isPanic, SubscriberEffect.replyTo]

/-- The log line of a handler error is a log line. -/
theorem isLog_of_mem_handlerErrorLog {o : Option String} {e : SubscriberEffect}
    (h : e ∈ handlerErrorLog o) : e.isLog := by
  cases o <;> simp [handlerErrorLog] at h
  subst h
  rfl

/-- On an ACK subject the lookup's decision is a call or a rejection, when it is no panic. -/
theorem dispatch_of_ack {p : Process} {ma : MethodsAvailable} {message : Message}
    (hk : isACK p.subject.commandOrEvent = true) (hd : dispatch p ma message ≠ .panic) :
    dispatch p ma message = .reject ∨ ∃ h, dispatch p ma message = .call h := by
  unfold dispatch at hd ⊢
  rw [if_pos hk] at hd ⊢
  by_cases ha : message.fromNode ∈ p.allowedReceivers ∨ "*" ∈ p.allowedReceivers
  · rw [if_pos ha] at hd ⊢
    cases hm : ma.checkIfExists message.method with
    | none => simp [hm, callOrPanic] at hd
    | some h => exact .inr ⟨h, rfl⟩
  · exact .inl (if_neg ha)

/-- On an ACK subject a call or a rejection never panics, and publishes one reply on the
message's reply subject: the handler's output, or the rejection. -/
theorem dispatchEffects_answer (run : HandlerRun) (p : Process) (thisNode : Node)
    (msg : NatsMsg) (message : Message) (hk : isACK p.subject.commandOrEvent = true)
    {d : Dispatch} (hd : d = .reject ∨ ∃ h, d = .call h) :
    (∀ e ∈ dispatchEffects run p thisNode msg message d, e.isPanic = false) ∧
      ∃ data, (dispatchEffects run p thisNode msg message d).filterMap (·.replyTo msg.reply) =
        [data] := by
  rcases hd with rfl | ⟨h, rfl⟩
  · exact ⟨by simp [dispatchEffects, SubscriberEffect.isPanic], notAllowedFrom message.fromNode,
      by simp [dispatchEffects, SubscriberEffect.replyTo]⟩
  · have herr (e) (he : e ∈ handlerErrorLog (run h p message thisNode).2) :=
      isPanic_replyTo_of_isLog (isLog_of_mem_handlerErrorLog he) msg.reply
    refine ⟨fun e he => ?_, (run h p message thisNode).1, ?_⟩
    · simp only [dispatchEffects, replyEffects, hk, if_true, List.mem_cons, List.mem_append,
        List.not_mem_nil, or_false] at he
      rcases he with rfl | he | rfl | rfl
      · rfl
      · exact (herr e he).1
      · rfl
      · rfl
    · rw [dispatchEffects, replyEffects, if_pos hk, List.filterMap_cons, List.filterMap_append,
        List.filterMap_eq_nil_iff.2 fun e he => (herr e he).2]
      simp [SubscriberEffect.replyTo]

/-- On an ACK subject, when the lookup does not call the nil handler, a goroutine never panics
and publishes exactly one reply on the reply subject. -/
theorem effectsOf_of_ack (L : Link) (m : Message)
    (hk : isACK L.publisher.subject.commandOrEvent = true)
    (hd : dispatch L.subscriber L.server.methodsAvailable m ≠ .panic) :
    (∀ e ∈ L.effectsOf m, e.isPanic = false) ∧
      ∃ data, (L.effectsOf m).filterMap (·.replyTo L.replySubject) = [data] := by
  have hk' : isACK L.subscriber.subject.commandOrEvent = true := L.subject_eq ▸ hk
  obtain ⟨hp, data, hr⟩ := dispatchEffects_answer L.run L.subscriber L.server.nodeName
    L.natsMsg m hk' (dispatch_of_ack hk' hd)
  have hlog (e) (he : e ∈ lookupEffects L.subscriber L.server.methodsAvailable m false) :=
    isPanic_replyTo_of_isLog (isLog_of_mem_lookupEffects L.subscriber m false _ he)
      L.replySubject
  unfold Link.effectsOf
  rw [subscriberHandler_eq, List.filterMap_append,
    List.filterMap_eq_nil_iff.2 fun e he => (hlog e he).2, List.nil_append]
  exact ⟨fun e he => (List.mem_append.1 he).elim (fun he => (hlog e he).1) (hp e), data, hr⟩

namespace Fabric

/-- The subscriber's steps that run goroutine `g` through `effects`: one per effect, and one
more for the return of the method handler after a call. -/
def goroutineRun (g : Nat) : List SubscriberEffect → List FabricAction
  | [] => []
  | e :: effects =>
    (if e.isCallHandler then [.runStep g, .runStep g] else [.runStep g]) ++
      goroutineRun g effects

/-- The fault-free delivery of `m` by goroutine `g`: the publisher takes the message, subscribes
and publishes; the callback starts goroutine `g`, which runs to its end; `NextMsg` gets the
reply, and the publisher finishes. -/
def deliveryRun (L : Link) (g : Nat) (m : Message) : List FabricAction :=
  [.take, .subscribeSync true, .publishMsg true, .deliver] ++ goroutineRun g (L.effectsOf m) ++
    [.nextMsg, .finish]

/-- The fault-free schedule of a channel, from the message with ID `j`. -/
def faultFreeRun (L : Link) : Nat → List Message → List FabricAction
  | _, [] => []
  | j, m :: ms => deliveryRun L j { m with id := j } ++ faultFreeRun L (j + 1) ms

/-- What `deliveryRun` logs: the publish, the goroutine's events, and the return of
`messageDeliverNats` with the goroutine's reply. -/
def deliveryTrace (L : Link) (g : Nat) (m : Message) : List Event :=
  .published m.id :: (L.effectsOf m).flatMap (effectTrace g m.id) ++
    [.returned m.id (.acked ⟨replyData L.replySubject (L.effectsOf m), m.id, g⟩) []]

/-- What `faultFreeRun` logs. -/
def faultFreeTrace (L : Link) : Nat → List Message → List Event
  | _, [] => []
  | j, m :: ms => deliveryTrace L j { m with id := j } ++ faultFreeTrace L (j + 1) ms

/-- Between two deliveries: the publisher holds no message, none is on its way, every goroutine
has run to its end, and the node runs. -/
structure Idle (f : Fabric) : Prop where
  current : f.current = none
  inflight : f.inflight = []
  finished : ∀ x ∈ f.goroutines, x.effects = [] ∧ x.inHandler = false
  running : f.crashed = false

theorem idle_start (pending : List Message) : Idle (start pending) :=
  ⟨rfl, rfl, nofun, rfl⟩

/-- An effect of goroutine `g` on message `id` queues its reply, if it publishes one, on each
subscription to its subject. -/
theorem effectSubs_getElem? (g id : Nat) (e : SubscriberEffect) {subs : List ReplySub}
    {i : Nat} {s : ReplySub} (h : subs[i]? = some s) :
    (effectSubs subs g id e)[i]? =
      some { s with queue := s.queue ++ (e.replyTo s.subject).toList.map (⟨·, id, g⟩) } := by
  cases e with
  | publish sub data =>
    by_cases hs : s.subject = sub <;>
      simp [effectSubs, publishReply, SubscriberEffect.replyTo, h, hs, eq_comm (a := sub)]
  | _ => simpa only [effectSubs, SubscriberEffect.replyTo, Option.toList_none, List.map_nil,
      List.append_nil] using h

/-- The effects of goroutine `g` on message `id` queue on each subscription the replies
published on its subject, in order. -/
theorem foldl_effectSubs_getElem? (g id : Nat) :
    ∀ (effects : List SubscriberEffect) (subs : List ReplySub) {i : Nat} {s : ReplySub},
      subs[i]? = some s →
      (effects.foldl (effectSubs · g id) subs)[i]? =
        some { s with
          queue := s.queue ++ (effects.filterMap (·.replyTo s.subject)).map (⟨·, id, g⟩) }
  | [], _, _, _, h => by simpa using h
  | e :: effects, subs, i, s, h => by
    rw [List.foldl_cons,
      foldl_effectSubs_getElem? g id effects _ (effectSubs_getElem? g id e h)]
    cases hr : e.replyTo s.subject <;> simp [List.filterMap_cons, hr]

variable (L : Link)

/-- Goroutine `g` performs its next effect `e`, and after a call returns from the handler. -/
theorem run_effectSteps {f : Fabric} {g : Nat} {m : Message} {e : SubscriberEffect}
    {effects : List SubscriberEffect} (hc : f.crashed = false)
    (hg : f.goroutines[g]? = some ⟨m, e :: effects, false⟩) (hpe : e.isPanic = false) :
    f.run L (if e.isCallHandler then [.runStep g, .runStep g] else [.runStep g]) =
      some { f with goroutines := f.goroutines.set g ⟨m, effects, false⟩,
                    subs := effectSubs f.subs g m.id e,
                    log := f.log ++ effectTrace g m.id e } := by
  have hlen : g < f.goroutines.length := (List.getElem?_eq_some_iff.1 hg).1
  cases hcall : e.isCallHandler <;>
    simp [run, step, subscriberStep, runEffect, effectTrace, hc, hg, hpe, hcall, hlen,
      List.set_set]

/-- Goroutine `g`, outside the handler with `effects` left and no panic among them, runs to its
end: the subscriptions get its replies, and the log its events. -/
theorem run_goroutineRun (g : Nat) (m : Message) :
    ∀ (effects : List SubscriberEffect) (f : Fabric), f.crashed = false →
      f.goroutines[g]? = some ⟨m, effects, false⟩ → (∀ e ∈ effects, e.isPanic = false) →
      f.run L (goroutineRun g effects) =
        some { f with goroutines := f.goroutines.set g ⟨m, [], false⟩,
                      subs := effects.foldl (effectSubs · g m.id) f.subs,
                      log := f.log ++ effects.flatMap (effectTrace g m.id) }
  | [], f, _, hg, _ => by
    simp [goroutineRun, run, set_self_of_getElem? hg]
  | e :: effects, f, hc, hg, hp => by
    have hlen : g < f.goroutines.length := (List.getElem?_eq_some_iff.1 hg).1
    rw [goroutineRun, run_append, run_effectSteps L hc hg (hp e (List.mem_cons_self _ _)),
      Option.some_bind, run_goroutineRun g m effects _ ?_ ?_ fun e' he' =>
        hp e' (List.mem_cons_of_mem _ he')]
    · simp [List.set_set]
    · exact hc
    · simp [hlen]

/-- One fault-free delivery from an idle fabric, on an ACK subject: the message is published
once, its goroutine runs to its end, and `messageDeliverNats` returns with the goroutine's
reply; the fabric is idle again, one message further. -/
theorem run_deliveryRun (hk : isACK L.publisher.subject.commandOrEvent = true) {f : Fabric}
    (hi : Idle f) {m : Message} {ms : List Message} (hp : f.pending = m :: ms)
    (hd : dispatch L.subscriber L.server.methodsAvailable m ≠ .panic) :
    ∃ f', f.run L (deliveryRun L f.goroutines.length { m with id := f.messageID }) = some f' ∧
      Idle f' ∧ f'.pending = ms ∧ f'.messageID = f.messageID + 1 ∧
      f'.goroutines.length = f.goroutines.length + 1 ∧
      f'.log = f.log ++ deliveryTrace L f.goroutines.length { m with id := f.messageID } := by
  obtain ⟨hpanic, data, hdata⟩ := effectsOf_of_ack L { m with id := f.messageID } hk hd
  have hnil : f.goroutines.filter (·.effects.any SubscriberEffect.isPublish) = [] :=
    List.filter_eq_nil_iff.2 fun x hx => by simp [(hi.finished x hx).1]
  have h₁ : f.run L [.take, .subscribeSync true, .publishMsg true, .deliver] =
      some { f with pending := ms,
                    current := some ⟨{ m with id := f.messageID }, ⟨.awaiting, 0⟩,
                      some f.subs.length⟩,
                    attempts := [],
                    subs := f.subs ++ [⟨L.replySubject, [], []⟩],
                    goroutines := f.goroutines ++
                      [⟨{ m with id := f.messageID }, L.effectsOf { m with id := f.messageID },
                        false⟩],
                    log := f.log ++ [.published f.messageID] } := by
    simp only [run, step, publisherStep, subscriberStep, hi.current, hp, hi.inflight, hi.running,
      hk, DeliverState.init, DeliverState.onSubscribeSync, DeliverState.onPublishMsg,
      Fabric.outstanding, hnil, ↓reduceIte, Option.some_bind, List.map_nil, List.nil_append]
  have hq := foldl_effectSubs_getElem? f.goroutines.length f.messageID
    (L.effectsOf { m with id := f.messageID })
    (f.subs ++ [⟨L.replySubject, [], []⟩]) (List.getElem?_concat_length _ _)
  simp only [hdata, List.map_cons, List.map_nil, List.nil_append] at hq
  rw [deliveryRun, run_append, run_append, h₁, Option.some_bind,
    run_goroutineRun L f.goroutines.length { m with id := f.messageID } _ _ ?_ ?_ hpanic,
    Option.some_bind]
  · simp only [run, step, publisherStep, hq, DeliverState.onNextMsg, Option.some_bind]
    have hg : (f.goroutines ++ [(⟨{ m with id := f.messageID },
        L.effectsOf { m with id := f.messageID }, false⟩ : HandlerGoroutine)]).set
          f.goroutines.length ⟨{ m with id := f.messageID }, [], false⟩ =
        f.goroutines ++ [⟨{ m with id := f.messageID }, [], false⟩] := by
      rw [List.set_append_right _ _ le_rfl, Nat.sub_self, List.set_cons_zero]
    refine ⟨_, rfl, ⟨rfl, hi.inflight, ?_, hi.running⟩, rfl, rfl, ?_, ?_⟩
    · rw [hg]
      rintro x hx
      rcases List.mem_append.1 hx with hx | hx
      · exact hi.finished x hx
      · rw [List.mem_singleton.1 hx]
        exact ⟨rfl, rfl⟩
    · rw [hg, List.length_append, List.length_singleton]
    · simp [deliveryTrace, replyData, hdata]
  · exact hi.running
  · simp

/-- The fault-free schedule from an idle fabric whose goroutines are numbered as its messages
are: induction on the channel, one `run_deliveryRun` per message. -/
theorem run_faultFreeRun (hk : isACK L.publisher.subject.commandOrEvent = true) :
    ∀ (ms : List Message) (f : Fabric), Idle f → f.pending = ms →
      f.goroutines.length = f.messageID →
      (∀ m ∈ ms, dispatch L.subscriber L.server.methodsAvailable m ≠ .panic) →
      ∃ f', f.run L (faultFreeRun L f.messageID ms) = some f' ∧ Idle f' ∧ f'.pending = [] ∧
        f'.messageID = f.messageID + ms.length ∧
        f'.log = f.log ++ faultFreeTrace L f.messageID ms
  | [], f, hi, hp, _, _ => ⟨f, rfl, hi, hp, rfl, (List.append_nil _).symm⟩
  | m :: ms, f, hi, hp, hn, hd => by
    obtain ⟨f₁, h₁, hi₁, hp₁, hid₁, hn₁, hlog₁⟩ :=
      run_deliveryRun L hk hi hp (hd m (List.mem_cons_self _ _))
    obtain ⟨f', h', hi', hp', hid', hlog'⟩ := run_faultFreeRun hk ms f₁ hi₁ hp₁ (by omega)
      fun m' hm' => hd m' (List.mem_cons_of_mem _ hm')
    rw [hn] at h₁ hlog₁
    rw [hid₁] at h' hid' hlog'
    refine ⟨f', ?_, hi', hp', by rw [hid', List.length_cons]; omega, ?_⟩
    · rw [faultFreeRun, run_append, h₁, Option.some_bind, h']
    · rw [hlog', hlog₁, faultFreeTrace, List.append_assoc]

/-- On an ACK subject, when the subscriber's lookup calls the nil handler for no message of the
channel, the schedule in which nothing fails delivers the whole channel: every message is
published once, its goroutine runs `subscriberHandler` to its end, and `messageDeliverNats`
returns with the reply that this goroutine published, message after message. -/
theorem faultFree_delivers (pending : List Message)
    (hk : isACK L.publisher.subject.commandOrEvent = true)
    (hd : ∀ m ∈ pending, dispatch L.subscriber L.server.methodsAvailable m ≠ .panic) :
    ∃ f, (start pending).run L (faultFreeRun L 0 pending) = some f ∧ Idle f ∧
      f.pending = [] ∧ f.messageID = pending.length ∧ f.log = faultFreeTrace L 0 pending := by
  obtain ⟨f, h, hi, hp, hid, hlog⟩ :=
    run_faultFreeRun L hk pending (start pending) (idle_start pending) rfl rfl hd
  exact ⟨f, h, hi, hp, hid.trans (Nat.zero_add _), hlog.trans (List.nil_append _)⟩

/-- Two pings from `central` on the ACK subject `REQPing` of `ship1`, delivered with no fault:
each is published once, and each delivery returns with its own goroutine's reply. -/
theorem pings_delivered :
    isACK pingLink.publisher.subject.commandOrEvent = true ∧
      (∀ m ∈ [ping, ping],
        dispatch pingLink.subscriber pingLink.server.methodsAvailable m ≠ .panic) ∧
      ∃ f, (start [ping, ping]).run pingLink (faultFreeRun pingLink 0 [ping, ping]) = some f ∧
        Idle f ∧ f.pending = [] ∧ f.messageID = 2 ∧
        f.log = faultFreeTrace pingLink 0 [ping, ping] :=
  ⟨by decide, by decide, faultFree_delivers pingLink [ping, ping] (by decide) (by decide)⟩

end Fabric

end Steward
