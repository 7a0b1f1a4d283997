import Mathlib.Algebra.BigOperators.Group.List
import Mathlib.Algebra.Order.Ring.Nat
import Steward.Fabric

/-!
# `Steward.Redelivery`: how often the subscriber runs a message's handler

`publishMessages` numbers a message once, before `messageDeliverNats`, and bumps its counter
after the return. `messageDeliverNats` publishes the same message again after every `NextMsg`
timeout, and the subscriber starts a goroutine for every copy the broker hands it. Nothing on
the subscriber's side looks at the ID, so a retried message can run its handler more than
once: delivery is at least once, not exactly once.

`handler_runs_within_retries` bounds the duplicates over every interleaving. The subscriber
runs the method handler of message `j` at most once per successful `PublishMsg` of it, since
`subscriberHandler` calls `mf.handler` at most once. The publisher publishes it at most
`max Retries 1` times on an ACK subject with `Retries ≠ 0`, and at most once on any other
subject. `retriedPing_runs_twice` is an interleaving in which a ping with `Retries = 2` times
out while its handler runs, and the handler runs twice. With `Retries = 0` there is no bound:
`unlimited_retries` puts, for every `N`, `N` copies of one message on their way to the
subscriber, on every ACK link.

The proofs rest on two invariants. `CallsInv` compares, message by message, the handler runs
and the calls still to come with the publishes. `PublishInv` keeps the numbering, ties the
publishes of the delivery in progress to the counter `retryAttempts` and the phase of its
loop (`PassCount`), and keeps the counts of the finished deliveries.
-/

set_option autoImplicit false

namespace Steward

/-- A call of the method handler on message `j`. -/
def Event.startsHandler (j : Nat) : Event → Bool
  | .handlerStart _ j' => j' == j
  | _ => false

/-- A successful `PublishMsg` of message `j`. -/
def Event.publishes (j : Nat) : Event → Bool
  | .published j' => j' == j
  | _ => false

/-- Whether the pass at this phase has published the message with no timeout after it. -/
def Phase.published {α : Type} : Phase α → Bool
  | .awaiting | .returned (.acked _) | .returned .sent => true
  | _ => false

/-- The calls of the method handler on message `j` left in a goroutine's effects. -/
def HandlerGoroutine.callsLeft (j : Nat) (x : HandlerGoroutine) : Nat :=
  if x.message.id = j then x.effects.countP SubscriberEffect.isCallHandler else 0

/-- `subscriberHandler` calls the method handler at most once. -/
theorem countP_callHandler_subscriberHandler (run : HandlerRun) (p : Process) (thisNode : Node)
    (msg : NatsMsg) (s : Server) (message : Message) (decodeErr : Bool) :
    (subscriberHandler run p thisNode msg s message decodeErr).countP
      SubscriberEffect.isCallHandler ≤ 1 := by
  have hlog : ∀ e ∈ lookupEffects p s.methodsAvailable message decodeErr,
      ¬e.isCallHandler := fun e he => by
    have := isLog_of_mem_lookupEffects p message decodeErr _ he
    cases e <;> simp_all [SubscriberEffect.isLog, SubscriberEffect.isCallHandler]
  rw [subscriberHandler_eq, List.countP_append, List.countP_eq_zero.2 hlog, Nat.zero_add]
  cases dispatch p s.methodsAvailable message with
  | call h =>
    have h₁ (e : Option String) :
        (handlerErrorLog e).countP SubscriberEffect.isCallHandler = 0 := by
      cases e <;> rfl
    have h₂ (ack : Bool) (reply : String) (out : List UInt8) :
        (replyEffects ack reply out thisNode).countP SubscriberEffect.isCallHandler = 0 := by
      cases ack <;> rfl
    simp [dispatchEffects, List.countP_cons, h₁, h₂, SubscriberEffect.isCallHandler]
  | _ => simp [dispatchEffects, SubscriberEffect.isCallHandler]

/-- On a subject that is not ACK, `subscriberHandler` publishes nothing: no reply goes back to
the publisher. -/
theorem isPublish_subscriberHandler_of_not_ack (run : HandlerRun) (p : Process)
    (thisNode : Node) (msg : NatsMsg) (s : Server) (message : Message) (decodeErr : Bool)
    (hk : isACK p.subject.commandOrEvent = false) :
    ∀ e ∈ subscriberHandler run p thisNode msg s message decodeErr, e.isPublish = false := by
  intro e he
  rw [subscriberHandler_eq, List.mem_append] at he
  rcases he with he | he
  · have := isLog_of_mem_lookupEffects p message decodeErr _ he
    cases e <;> simp_all [SubscriberEffect.isLog, SubscriberEffect.isPublish]
  · have hd : ∃ o, dispatch p s.methodsAvailable message = callOrPanic o ∨
        dispatch p s.methodsAvailable message = .ignore := by
      simp only [dispatch, hk, Bool.false_eq_true, if_false]
      split
      exacts [⟨_, .inl rfl⟩, ⟨none, .inr rfl⟩]
    obtain ⟨o, hd | hd⟩ := hd <;> rw [hd] at he
    · cases o with
      | none => simp [callOrPanic, dispatchEffects] at he; subst he; rfl
      | some h =>
        simp only [callOrPanic, dispatchEffects, replyEffects, hk, Bool.false_eq_true, if_false,
          List.append_nil, List.mem_cons] at he
        rcases he with rfl | he
        · rfl
        · revert he
          cases (run h p message thisNode).2 <;> simp [handlerErrorLog]
          rintro rfl
          rfl
    · simp [dispatchEffects] at he
      subst he
      rfl

/-- Putting `y` in place of the entry `x` at `g` changes a sum over the list by the
difference. -/
theorem sum_map_set {α : Type} (F : α → Nat) :
    ∀ {l : List α} {g : Nat} {x : α}, l[g]? = some x → ∀ y,
      ((l.set g y).map F).sum + F x = (l.map F).sum + F y
  | _ :: _, 0, _, hg, _ => by
    simp only [List.getElem?_cons_zero, Option.some.injEq] at hg
    subst hg
    simp only [List.set_cons_zero, List.map_cons, List.sum_cons]
    omega
  | _ :: l, g + 1, _, hg, y => by
    have := sum_map_set F (l := l) (by simpa only [List.getElem?_cons_succ] using hg) y
    simp only [List.set_cons_succ, List.map_cons, List.sum_cons]
    omega

namespace Fabric

/-- The runs of message `j`'s method handler that the log records. -/
def handlerRuns (log : List Event) (j : Nat) : Nat := log.countP (Event.startsHandler j)

/-- The successful publishes of message `j` that the log records. -/
def publishedCount (log : List Event) (j : Nat) : Nat := log.countP (Event.publishes j)

@[simp] theorem handlerRuns_append (l l' : List Event) (j : Nat) :
    handlerRuns (l ++ l') j = handlerRuns l j + handlerRuns l' j := List.countP_append ..

@[simp] theorem publishedCount_append (l l' : List Event) (j : Nat) :
    publishedCount (l ++ l') j = publishedCount l j + publishedCount l' j :=
  List.countP_append ..

/-- What a goroutine's effect logs: a handler call of its message, and never a publish. -/
theorem handlerRuns_effectEvents (g i j : Nat) (e : SubscriberEffect) :
    handlerRuns (effectEvents g i e) j = if i = j ∧ e.isCallHandler then 1 else 0 := by
  cases e <;> simp [effectEvents, handlerRuns, Event.startsHandler, List.countP_cons,
    SubscriberEffect.isCallHandler]

@[simp] theorem publishedCount_effectEvents (g i j : Nat) (e : SubscriberEffect) :
    publishedCount (effectEvents g i e) j = 0 := by
  cases e <;> rfl

/-- What a successful `PublishMsg` logs: one publish of its message, and no handler run. -/
theorem counts_publishMsg_log (i j : Nat) (b : Bool) :
    publishedCount (.published i :: if b then [] else [.returned i .sent []]) j =
        (if i = j then 1 else 0) ∧
      handlerRuns (.published i :: if b then [] else [.returned i .sent []]) j = 0 := by
  cases b <;> by_cases h : i = j <;>
    simp [publishedCount, handlerRuns, Event.publishes, Event.startsHandler, h]

/-- A goroutine's effect moves a handler call from its effects to the log. -/
theorem callsLeft_cons (g j : Nat) (m : Message) (e : SubscriberEffect)
    (effects : List SubscriberEffect) (b b' : Bool) :
    HandlerGoroutine.callsLeft j ⟨m, e :: effects, b⟩ =
      HandlerGoroutine.callsLeft j ⟨m, effects, b'⟩ +
        handlerRuns (effectEvents g m.id e) j := by
  rw [handlerRuns_effectEvents]
  unfold HandlerGoroutine.callsLeft
  by_cases hj : m.id = j <;> cases he : e.isCallHandler <;> simp [hj, he, List.countP_cons]

/-- The calls of message `j`'s method handler still to come: at most one for each copy on its
way to the subscriber, and those left in the goroutines running on it. -/
def callsLeft (f : Fabric) (j : Nat) : Nat :=
  f.inflight.countP (·.id == j) + (f.goroutines.map (HandlerGoroutine.callsLeft j)).sum

/-- Every handler run so far and every call still to come has a publish of its own. -/
def CallsInv (f : Fabric) : Prop :=
  ∀ j, handlerRuns f.log j + callsLeft f j ≤ publishedCount f.log j

theorem callsInv_start (pending : List Message) : (start pending).CallsInv := by
  simp [CallsInv, start, callsLeft, handlerRuns, publishedCount]

section Step

variable {L : Link} {f f' : Fabric} {a : FabricAction}

/-- A step that only logs returns and leaves the messages alone keeps `CallsInv`. -/
theorem callsInv_of_returned (hi : f.CallsInv) {es : List Event}
    (hlog : f'.log = f.log ++ es) (hes : ∀ e ∈ es, ∃ j d out, e = .returned j d out)
    (hin : f'.inflight = f.inflight) (hg : f'.goroutines = f.goroutines) : f'.CallsInv := by
  have hz : ∀ j, handlerRuns es j = 0 ∧ publishedCount es j = 0 := fun j =>
    ⟨List.countP_eq_zero.2 fun e he => by
      obtain ⟨_, _, _, rfl⟩ := hes e he; simp [Event.startsHandler],
     List.countP_eq_zero.2 fun e he => by
      obtain ⟨_, _, _, rfl⟩ := hes e he; simp [Event.publishes]⟩
  intro j
  have := hi j
  simp only [callsLeft, hlog, hin, hg, handlerRuns_append, publishedCount_append,
    (hz j).1, (hz j).2] at this ⊢
  omega

theorem callsInv_step (hi : f.CallsInv) (h : step L f a = some f') : f'.CallsInv := by
  have none : ∀ e ∈ ([] : List Event), ∃ j d out, e = .returned j d out := nofun
  have one (j : Nat) (d : Delivered Reply) (out : List Nat) :
      ∀ e ∈ [Event.returned j d out], ∃ j d out, e = .returned j d out :=
    fun _ he => ⟨j, d, out, List.mem_singleton.1 he⟩
  cases a with
  | take =>
    obtain ⟨m, ms, -, -, rfl⟩ := step_take h
    exact callsInv_of_returned hi (List.append_nil _).symm none rfl rfl
  | subscribeSync ok =>
    obtain ⟨m, n, sr, -, ⟨-, rfl⟩ | ⟨-, rfl⟩⟩ := step_subscribeSync h <;>
      exact callsInv_of_returned hi (List.append_nil _).symm none rfl rfl
  | publishMsg ok =>
    obtain ⟨m, n, sr, -, ⟨-, rfl⟩ | ⟨-, rfl⟩⟩ := step_publishMsg h
    · -- the publish and the new copy on its way count the same
      intro j
      have := hi j
      obtain ⟨hp, hr⟩ := counts_publishMsg_log m.id j (isACK L.publisher.subject.commandOrEvent)
      simp only [callsLeft, List.countP_append, handlerRuns_append, publishedCount_append, hp,
        hr] at this ⊢
      by_cases hj : m.id = j <;> simp [hj] at this ⊢ <;> omega
    · exact callsInv_of_returned hi (List.append_nil _).symm none rfl rfl
  | nextMsg =>
    obtain ⟨m, n, i, s, -, -, ⟨r, rs, -, rfl⟩ | ⟨-, rfl⟩⟩ := step_nextMsg h
    · exact callsInv_of_returned hi rfl (one _ _ _) rfl rfl
    · split
      · exact callsInv_of_returned hi rfl (one _ _ _) rfl rfl
      · exact callsInv_of_returned hi rfl none rfl rfl
  | finish =>
    obtain ⟨m, d, n, sr, -, rfl⟩ := step_finish h
    exact callsInv_of_returned hi (List.append_nil _).symm none rfl rfl
  | deliver =>
    -- a copy leaves the broker for a goroutine that calls the handler at most once
    obtain ⟨m, ms, -, hin, rfl⟩ := step_deliver h
    intro j
    have := hi j
    have h₁ := countP_callHandler_subscriberHandler L.run L.subscriber L.server.nodeName
      L.natsMsg L.server m false
    simp only [callsLeft, hin, List.countP_cons, List.map_append, List.sum_append,
      List.map_cons, List.map_nil, List.sum_cons, List.sum_nil, HandlerGoroutine.callsLeft,
      beq_iff_eq] at this ⊢
    split_ifs at this ⊢ <;> simp only [Link.effectsOf] at * <;> omega
  | runStep g =>
    obtain ⟨-, m, effects, ⟨hg, rfl⟩ | ⟨e, hg, rfl⟩⟩ := step_runStep h
    · -- the handler's return changes no count
      intro j
      have := hi j
      have hs := sum_map_set (HandlerGoroutine.callsLeft j) hg ⟨m, effects, false⟩
      have hr : handlerRuns [.handlerReturn g m.id] j = 0 ∧
          publishedCount [.handlerReturn g m.id] j = 0 := ⟨rfl, rfl⟩
      have hx : HandlerGoroutine.callsLeft j ⟨m, effects, true⟩ =
          HandlerGoroutine.callsLeft j ⟨m, effects, false⟩ := rfl
      simp only [callsLeft, handlerRuns_append, publishedCount_append, hr.1, hr.2] at this ⊢
      omega
    · -- an effect moves a handler call from the goroutine to the log
      intro j
      have := hi j
      have hs := sum_map_set (HandlerGoroutine.callsLeft j) hg ⟨m, effects, e.isCallHandler⟩
      have hc := callsLeft_cons g j m e effects false e.isCallHandler
      simp only [callsLeft, runEffect, handlerRuns_append, publishedCount_append,
        publishedCount_effectEvents] at this hs ⊢
      omega

end Step

/-! ### Numbering and the retry policy -/

/-- The `j`-th message taken from the channel `pending`, with the ID `publishMessages` gives
it. -/
def numbered (pending : List Message) (j : Nat) : Option Message :=
  pending[j]?.map fun m => { m with id := j }

theorem id_of_numbered {pending : List Message} {j : Nat} {m : Message}
    (h : numbered pending j = some m) : m.id = j := by
  obtain ⟨m', -, rfl⟩ := Option.map_eq_some'.1 h
  rfl

/-- The count `c` of publishes of a message with `Retries = retries` that its retry policy
allows on the link's subject: `max Retries 1` on an ACK subject with `Retries ≠ 0`, and one on
any other subject. -/
def WithinRetries (L : Link) (retries : Int) (c : Nat) : Prop :=
  (isACK L.publisher.subject.commandOrEvent = true → retries ≠ 0 →
      (c : Int) ≤ max retries 1) ∧
    (isACK L.publisher.subject.commandOrEvent = false → c ≤ 1)

theorem withinRetries_zero (L : Link) (retries : Int) : WithinRetries L retries 0 :=
  ⟨fun _ _ => by omega, fun _ => Nat.zero_le _⟩

/-- The count `c` of publishes of the delivery in progress of `m`, at phase `ph` with counter
`n`: one for each timeout, and one more while the pass has published. On an ACK subject with
`Retries ≠ 0` the counter stays below `max Retries 1` until the loop gives up; on any other
subject it stays at zero and the loop never waits on `NextMsg`. -/
structure PassCount (L : Link) (m : Message) (ph : Phase Reply) (n : Int) (c : Nat) : Prop where
  count_eq : (c : Int) = n + if ph.published then 1 else 0
  ack : isACK L.publisher.subject.commandOrEvent = true → m.retries ≠ 0 →
    n ≤ max m.retries 1 ∧ (ph ≠ .returned .gaveUp → n < max m.retries 1)
  nack : isACK L.publisher.subject.commandOrEvent = false → n = 0 ∧ ph ≠ .awaiting

section PassCount

variable {L : Link} {m : Message} {n : Int} {c : Nat}

theorem passCount_init : PassCount L m .top 0 0 :=
  ⟨rfl, fun _ _ => ⟨by omega, fun _ => by omega⟩, fun _ => ⟨rfl, nofun⟩⟩

/-- `SubscribeSync`, and a failed `PublishMsg`, move the pass between the top of the loop and
the subscription, and publish nothing. -/
theorem PassCount.move {ph ph' : Phase Reply} (h : PassCount L m ph n c)
    (hph : ph = .top ∨ ph = .subscribed) (hph' : ph' = .top ∨ ph' = .subscribed) :
    PassCount L m ph' n c := by
  obtain ⟨hc, ha, hn⟩ := h
  rcases hph with rfl | rfl <;> rcases hph' with rfl | rfl <;>
    exact ⟨hc, fun hk hr => ⟨(ha hk hr).1, fun _ => (ha hk hr).2 nofun⟩,
      fun hk => ⟨(hn hk).1, nofun⟩⟩

/-- A successful `PublishMsg`: one publish more, and the loop waits on an ACK subject and
returns on any other. -/
theorem PassCount.publish (h : PassCount L m .subscribed n c) :
    PassCount L m (if isACK L.publisher.subject.commandOrEvent then .awaiting else .returned .sent)
      n (c + 1) := by
  obtain ⟨hc, ha, hn⟩ := h
  simp only [Phase.published, Bool.false_eq_true, if_false] at hc
  cases hk : isACK L.publisher.subject.commandOrEvent
  · obtain ⟨rfl, -⟩ := hn hk
    exact ⟨by simp [Phase.published, hk]; omega, fun h => absurd h (by simp [hk]),
      fun _ => ⟨rfl, by simp [hk]⟩⟩
  · exact ⟨by simp [Phase.published, hk]; omega,
      fun _ hr => ⟨(ha hk hr).1, fun _ => (ha hk hr).2 nofun⟩,
      fun h => absurd h (by simp [hk])⟩

/-- A reply in time returns with the publish of the pass counted. -/
theorem PassCount.reply (h : PassCount L m .awaiting n c) (r : Reply) :
    PassCount L m (.returned (.acked r)) n c :=
  ⟨h.count_eq, fun hk hr => ⟨(h.ack hk hr).1, fun _ => (h.ack hk hr).2 nofun⟩,
    fun hk => absurd rfl (h.nack hk).2⟩

/-- A timeout bumps `retryAttempts`, which now counts the publish of the pass, and goes
through the retry switch. -/
theorem PassCount.timeout (h : PassCount L m .awaiting n c) :
    PassCount L m ((⟨.awaiting, n⟩ : DeliverState Reply).onNextMsg m.retries none).phase (n + 1)
      c := by
  obtain ⟨hc, ha, hn⟩ := h
  simp only [Phase.published, if_true] at hc
  simp only [DeliverState.onNextMsg]
  refine ⟨?_, fun hk hr => ?_, fun hk => absurd rfl (hn hk).2⟩
  · split <;> simp [Phase.published] <;> omega
  · have := (ha hk hr).2 nofun
    cases hs : retrySwitch m.retries (n + 1)
    · have := (retrySwitch_eq_true_iff m.retries (n + 1)).not.1 (by simp [hs])
      exact ⟨by omega, fun _ => by omega⟩
    · exact ⟨by omega, fun h => absurd rfl h⟩

/-- Whatever the phase, the publishes so far are within the retry policy. -/
theorem PassCount.within {ph : Phase Reply} (h : PassCount L m ph n c) :
    WithinRetries L m.retries c := by
  obtain ⟨hc, ha, hn⟩ := h
  refine ⟨fun hk hr => ?_, fun hk => ?_⟩
  · obtain ⟨h₁, h₂⟩ := ha hk hr
    by_cases hg : ph = .returned .gaveUp
    · subst hg
      simp only [Phase.published, Bool.false_eq_true, if_false] at hc
      omega
    · have := h₂ hg
      split at hc <;> omega
  · obtain ⟨rfl, -⟩ := hn hk
    split at hc <;> omega

end PassCount

/-- What the publisher keeps of the channel `pending` it started from: it takes the messages
in order and numbers each with its counter; no message past the counter has been published;
the finished deliveries kept to their retry policy, and the delivery in progress counts its
publishes by `PassCount`. -/
structure PublishInv (L : Link) (pending : List Message) (f : Fabric) : Prop where
  counter_le : f.messageID ≤ pending.length
  idle : f.current = none →
    f.pending = pending.drop f.messageID ∧ publishedCount f.log f.messageID = 0
  busy : ∀ d, f.current = some d →
    f.pending = pending.drop (f.messageID + 1) ∧ numbered pending f.messageID = some d.message
  later : ∀ j, f.messageID < j → publishedCount f.log j = 0
  done : ∀ j < f.messageID, ∀ m, pending[j]? = some m →
    WithinRetries L m.retries (publishedCount f.log j)
  current : ∀ m st sr, f.current = some ⟨m, st, sr⟩ →
    PassCount L m st.phase st.retryAttempts (publishedCount f.log m.id)

theorem publishInv_start (L : Link) (pending : List Message) :
    PublishInv L pending (start pending) where
  counter_le := Nat.zero_le _
  idle _ := ⟨rfl, rfl⟩
  busy := nofun
  later _ _ := rfl
  done _ h := absurd h (Nat.not_lt_zero _)
  current := nofun

/-- The head of a dropped list is the entry at the number dropped. -/
theorem getElem?_of_drop_eq_cons {pending : List Message} {k : Nat} {m : Message}
    {ms : List Message} (h : pending.drop k = m :: ms) :
    pending[k]? = some m ∧ ms = pending.drop (k + 1) := by
  have hk : k < pending.length := by
    have := congrArg List.length h
    simp only [List.length_drop, List.length_cons] at this
    omega
  rw [List.drop_eq_getElem_cons hk, List.cons.injEq] at h
  exact ⟨by rw [List.getElem?_eq_getElem hk, h.1], h.2.symm⟩

section Step

variable {L : Link} {pending : List Message} {f f' : Fabric} {a : FabricAction}

/-- A step of the delivery in progress of `m`, which may log a publish of it, keeps
`PublishInv` when the pass's count is kept. -/
theorem PublishInv.of_pass (hi : PublishInv L pending f) {m : Message}
    {st st' : DeliverState Reply} {sr sr' : Option Nat}
    (hc : f.current = some ⟨m, st, sr⟩) (hc' : f'.current = some ⟨m, st', sr'⟩)
    (hp : f'.pending = f.pending) (hid : f'.messageID = f.messageID)
    (hlog : ∀ j, j ≠ m.id → publishedCount f'.log j = publishedCount f.log j)
    (hpass : PassCount L m st'.phase st'.retryAttempts (publishedCount f'.log m.id)) :
    PublishInv L pending f' := by
  obtain ⟨hpend, hnum⟩ := hi.busy _ hc
  have hmid : m.id = f.messageID := id_of_numbered hnum
  refine ⟨hid ▸ hi.counter_le, (fun h => nomatch hc'.symm.trans h), fun d hd => ?_,
    fun j hj => ?_, fun j hj => ?_, fun m' st'' sr'' h => ?_⟩
  · cases hc'.symm.trans hd
    exact ⟨hp.trans (hid ▸ hpend), hid ▸ hnum⟩
  · rw [hlog j (by omega)]
    exact hi.later j (by omega)
  · intro m'' hm''
    rw [hlog j (by omega)]
    exact hi.done j (by omega) m'' hm''
  · cases hc'.symm.trans h
    exact hpass

/-- A step of the subscriber keeps `PublishInv`: it publishes nothing. -/
theorem PublishInv.of_subscriber (hi : PublishInv L pending f) (hp : f'.pending = f.pending)
    (hid : f'.messageID = f.messageID) (hc : f'.current = f.current)
    (hlog : ∀ j, publishedCount f'.log j = publishedCount f.log j) :
    PublishInv L pending f' where
  counter_le := hid ▸ hi.counter_le
  idle h := by
    rw [hp, hid, hlog]
    exact hi.idle (hc ▸ h)
  busy d h := by
    rw [hp, hid]
    exact hi.busy d (hc ▸ h)
  later j hj := by
    rw [hlog]
    exact hi.later j (hid ▸ hj)
  done j hj m hm := by
    rw [hlog]
    exact hi.done j (hid ▸ hj) m hm
  current m st sr h := by
    rw [hlog]
    exact hi.current m st sr (hc ▸ h)

theorem publishInv_step (hi : PublishInv L pending f) (h : step L f a = some f') :
    PublishInv L pending f' := by
  cases a with
  | take =>
    obtain ⟨m, ms, hc, hpend, rfl⟩ := step_take h
    obtain ⟨hdrop, hcount⟩ := hi.idle hc
    obtain ⟨hm, rfl⟩ := getElem?_of_drop_eq_cons (hdrop ▸ hpend)
    refine { hi with
      idle := nofun
      busy := fun d hd => ?_
      current := fun m' st sr hd => ?_ }
    · cases hd
      exact ⟨rfl, by simp [numbered, hm]⟩
    · cases hd
      exact (hcount : publishedCount f.log f.messageID = 0) ▸ passCount_init
  | subscribeSync ok =>
    obtain ⟨m, n, sr, hc, ⟨-, rfl⟩ | ⟨-, rfl⟩⟩ := step_subscribeSync h <;>
      exact hi.of_pass hc rfl rfl rfl (fun _ _ => rfl)
        ((hi.current _ _ _ hc).move (.inl rfl) (by simp))
  | publishMsg ok =>
    obtain ⟨m, n, sr, hc, ⟨-, rfl⟩ | ⟨-, rfl⟩⟩ := step_publishMsg h
    · have hes (j : Nat) := (counts_publishMsg_log m.id j
        (isACK L.publisher.subject.commandOrEvent)).1
      refine hi.of_pass hc rfl rfl rfl (fun j hj => ?_) ?_
      · simp only [publishedCount_append, hes, if_neg (Ne.symm hj), Nat.add_zero]
      · simp only [publishedCount_append, hes, if_true]
        exact (hi.current _ _ _ hc).publish
    · exact hi.of_pass hc rfl rfl rfl (fun _ _ => rfl)
        ((hi.current _ _ _ hc).move (.inr rfl) (.inl rfl))
  | nextMsg =>
    obtain ⟨m, n, i, s, hc, -, ⟨r, rs, -, rfl⟩ | ⟨-, rfl⟩⟩ := step_nextMsg h
    · have hr : ∀ j, publishedCount [.returned m.id (.acked r) s.outstanding] j = 0 :=
        fun _ => rfl
      exact hi.of_pass hc rfl rfl rfl
        (fun j _ => by simp only [publishedCount_append, hr, Nat.add_zero])
        (by simpa only [publishedCount_append, hr, Nat.add_zero] using
          (hi.current _ _ _ hc).reply r)
    · have hr : ∀ j, publishedCount (if retrySwitch m.retries (n + 1)
          then [.returned m.id .gaveUp []] else []) j = 0 := fun _ => by split <;> rfl
      exact hi.of_pass hc rfl rfl rfl
        (fun j _ => by simp only [publishedCount_append, hr, Nat.add_zero])
        (by simpa only [publishedCount_append, hr, Nat.add_zero] using
          (hi.current _ _ _ hc).timeout)
  | finish =>
    obtain ⟨m, d, n, sr, hc, rfl⟩ := step_finish h
    obtain ⟨hpend, hnum⟩ := hi.busy _ hc
    obtain ⟨m₀, hm₀, rfl⟩ := Option.map_eq_some'.1 hnum
    refine { hi with
      counter_le := ?_
      idle := fun _ => ⟨hpend, hi.later _ (Nat.lt_succ_self _)⟩
      busy := nofun
      later := fun j hj => hi.later j (by simp only at hj; omega)
      done := fun j hj m hm => ?_
      current := nofun }
    · exact (List.getElem?_eq_some_iff.1 hm₀).1
    · rcases Nat.lt_succ_iff_lt_or_eq.1 hj with hj | rfl
      · exact hi.done j hj m hm
      · cases hm.symm.trans hm₀
        exact (hi.current _ _ _ hc).within
  | deliver =>
    obtain ⟨m, ms, -, -, rfl⟩ := step_deliver h
    exact hi.of_subscriber rfl rfl rfl (fun _ => rfl)
  | runStep g =>
    obtain ⟨-, m, effects, ⟨-, rfl⟩ | ⟨e, -, rfl⟩⟩ := step_runStep h
    · exact hi.of_subscriber rfl rfl rfl (fun _ => by simp only [publishedCount_append]; rfl)
    · exact hi.of_subscriber rfl rfl rfl
        (fun _ => by simp only [runEffect, publishedCount_append, publishedCount_effectEvents,
          Nat.add_zero])

end Step

/-! ### Every run -/

section Run

variable {L : Link} {pending : List Message} {f : Fabric}

/-- Both invariants hold after every interleaving. -/
theorem counts_inv_run (acts : List FabricAction) (h : (start pending).run L acts = some f) :
    f.CallsInv ∧ PublishInv L pending f :=
  run_invariant L (fun f => f.CallsInv ∧ PublishInv L pending f)
    (fun _ _ _ hi hs => ⟨callsInv_step hi.1 hs, publishInv_step hi.2 hs⟩) acts
    ⟨callsInv_start pending, publishInv_start L pending⟩ h

/-- The publishes of the `j`-th message are within its retry policy. -/
theorem PublishInv.within (hi : PublishInv L pending f) {j : Nat} {m : Message}
    (hm : pending[j]? = some m) : WithinRetries L m.retries (publishedCount f.log j) := by
  rcases Nat.lt_trichotomy j f.messageID with hj | rfl | hj
  · exact hi.done j hj m hm
  · cases hc : f.current with
    | none => exact (hi.idle hc).2 ▸ withinRetries_zero L _
    | some d =>
      obtain ⟨m', st, sr⟩ := d
      obtain ⟨-, hn⟩ := hi.busy _ hc
      simp only [numbered, hm, Option.map_some', Option.some.injEq] at hn
      subst hn
      exact (hi.current _ _ _ hc).within
  · exact (hi.later j hj) ▸ withinRetries_zero L _

/-- Over every interleaving, the subscriber runs the method handler of the `j`-th message of
the channel at most once per successful publish of it, and the publisher publishes it within
its retry policy: at most `max Retries 1` times on an ACK subject with `Retries ≠ 0`, and at
most once on any other subject. -/
theorem handler_runs_within_retries (pending : List Message) (acts : List FabricAction)
    (h : (start pending).run L acts = some f) {j : Nat} {m : Message}
    (hm : pending[j]? = some m) :
    handlerRuns f.log j ≤ publishedCount f.log j ∧
      WithinRetries L m.retries (publishedCount f.log j) := by
  obtain ⟨hc, hp⟩ := counts_inv_run acts h
  exact ⟨(Nat.le_add_right _ _).trans (hc j), hp.within hm⟩

end Run

/-! ### Unlimited retries -/

/-- A run of two action lists is the second run from where the first one ends. -/
theorem run_append (L : Link) : ∀ (as bs : List FabricAction) (f : Fabric),
    f.run L (as ++ bs) = (f.run L as).bind (run L · bs)
  | [], _, _ => rfl
  | a :: as, bs, f => by
    simp only [List.cons_append, run]
    cases step L f a with
    | none => rfl
    | some f₁ => exact run_append L as bs f₁

/-- A pass of the loop that times out: the subscribe and the publish succeed, and no reply is
in when `NextMsg` gives up waiting. -/
def timeoutPass : List FabricAction := [.subscribeSync true, .publishMsg true, .nextMsg]

/-- `n` passes that time out. -/
def timeoutPasses : Nat → List FabricAction
  | 0 => []
  | n + 1 => timeoutPass ++ timeoutPasses n

section Unlimited

variable {L : Link} {m : Message}
  (hk : isACK L.publisher.subject.commandOrEvent = true) (hr : m.retries = 0)
include hk hr

/-- With `Retries = 0`, a pass that times out publishes the message once more and leaves the
loop at the top with its counter bumped: the retry switch never returns. -/
theorem run_timeoutPass {f : Fabric} {n : Int} {sr : Option Nat}
    (hc : f.current = some ⟨m, ⟨.top, n⟩, sr⟩) :
    ∃ f', f.run L timeoutPass = some f' ∧
      f'.current = some ⟨m, ⟨.top, n + 1⟩, some f.subs.length⟩ ∧
      publishedCount f'.log m.id = publishedCount f.log m.id + 1 ∧
      f'.inflight.length = f.inflight.length + 1 := by
  simp only [timeoutPass, run, step, publisherStep, hc, ↓reduceIte, DeliverState.onSubscribeSync,
    DeliverState.onPublishMsg, hk, DeliverState.onNextMsg, retrySwitch, hr, Option.bind_some,
    Option.some_bind, List.length_append, List.length_singleton, List.getElem?_eq_getElem,
    List.getElem_concat_length, List.append_nil, Option.some.injEq, publishedCount,
    exists_eq_left', List.countP_append, Event.publishes, beq_self_eq_true,
    List.countP_cons_of_pos, List.countP_nil, zero_add, and_self, Nat.lt_succ_self, if_true,
    if_false, Bool.false_eq_true, and_true, Nat.add_zero]

theorem run_timeoutPasses (N : Nat) : ∀ {f : Fabric} {n : Int} {sr : Option Nat},
    f.current = some ⟨m, ⟨.top, n⟩, sr⟩ →
    ∃ f' sr', f.run L (timeoutPasses N) = some f' ∧
      f'.current = some ⟨m, ⟨.top, n + N⟩, sr'⟩ ∧
      publishedCount f'.log m.id = publishedCount f.log m.id + N ∧
      f'.inflight.length = f.inflight.length + N := by
  induction N with
  | zero => exact fun hc => ⟨_, _, rfl, by simpa using hc, rfl, rfl⟩
  | succ N ih =>
    intro f n sr hc
    obtain ⟨f₁, h₁, hc₁, hp₁, hi₁⟩ := run_timeoutPass hk hr hc
    obtain ⟨f', sr', h', hc', hp', hi'⟩ := ih hc₁
    refine ⟨f', sr', by rw [timeoutPasses, run_append, h₁]; exact h', ?_, by omega, by omega⟩
    rw [hc', show n + ((N + 1 : Nat) : Int) = n + 1 + N by omega]

end Unlimited

/-- With `Retries = 0` on an ACK subject the publisher never gives up on a message: for every
`N`, the interleaving in which `N` passes time out publishes it `N` times and puts `N` copies
of it on their way to the subscriber, and the delivery is still in progress. -/
theorem unlimited_retries (L : Link) (m : Message)
    (hk : isACK L.publisher.subject.commandOrEvent = true) (hr : m.retries = 0) (N : Nat) :
    ∃ f, (start [m]).run L (.take :: timeoutPasses N) = some f ∧
      publishedCount f.log 0 = N ∧ f.inflight.length = N ∧
      ∃ n sr, f.current = some ⟨{ m with id := 0 }, ⟨.top, n⟩, sr⟩ := by
  obtain ⟨f, sr, h, hc, hp, hi⟩ := run_timeoutPasses (m := { m with id := 0 }) hk hr N
    (f := { start [m] with pending := [], current := some ⟨{ m with id := 0 }, .init, none⟩ })
    rfl
  exact ⟨f, h, by simpa [start, publishedCount] using hp, by simpa [start] using hi, _, sr, hc⟩

/-- A ping with `Retries = 0`, published three times. -/
theorem foreverPing_published_thrice :
    isACK pingLink.publisher.subject.commandOrEvent = true ∧
      ({ ping with retries := 0 } : Message).retries = 0 ∧
      ∃ f, (start [{ ping with retries := 0 }]).run pingLink (.take :: timeoutPasses 3) =
          some f ∧
        publishedCount f.log 0 = 3 ∧ f.inflight.length = 3 ∧
        ∃ n sr, f.current = some ⟨{ ping with retries := 0, id := 0 }, ⟨.top, n⟩, sr⟩ :=
  ⟨rfl, rfl, unlimited_retries pingLink { ping with retries := 0 } rfl rfl 3⟩

/-- A ping from `central` that `ship1` may be sent twice. -/
def retriedPing : Message := { ping with retries := 2 }

/-- The first copy of the ping reaches `ship1` and its handler starts; no reply is in when
`NextMsg` times out, so the publisher publishes again, and the handler of the second copy
starts too. -/
def retryRun : List FabricAction :=
  [.take, .subscribeSync true, .publishMsg true, .deliver, .runStep 0, .runStep 0, .nextMsg,
    .subscribeSync true, .publishMsg true, .deliver, .runStep 1, .runStep 1]

/-- The state after `retryRun`. -/
def retried : Fabric := ((start [retriedPing]).run pingLink retryRun).getD (start [])

/-- In `retryRun` the handler of the ping runs twice, as often as its retry policy lets the
publisher publish it. -/
theorem retriedPing_runs_twice :
    handlerRuns retried.log 0 = 2 ∧ handlerRuns retried.log 0 ≤ publishedCount retried.log 0 ∧
      WithinRetries pingLink retriedPing.retries (publishedCount retried.log 0) :=
  ⟨by decide, handler_runs_within_retries [retriedPing] retryRun
    (show (start [retriedPing]).run pingLink retryRun = some retried from rfl) rfl⟩

end Fabric

end Steward
