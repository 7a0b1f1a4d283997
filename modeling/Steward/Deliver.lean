import Steward.Process

/-!
# `Steward.Deliver`: the retry loop of `messageDeliverNats`

`messageDeliverNats` is a `for {}` loop. Each pass subscribes to the reply subject
`reply.<subject>` with `SubscribeSync`, publishes the message with `PublishMsg`, and on an
ACK subject waits for a reply with `NextMsg`. A failed subscribe or publish `continue`s
without counting an attempt; a `NextMsg` timeout bumps `retryAttempts` and then the retry
switch decides: `Retries == 0` continues forever, `retryAttempts >= Retries` returns, and
anything else continues. A reply, or a publish on a NACK subject, returns.

The broker's side is a list of `Attempt`s, one per pass: whether `SubscribeSync` and
`PublishMsg` succeeded and what `NextMsg` returned. `messageDeliverNats` runs the loop over
such a list and returns the broker calls it made and how it returned, or `none` when it is
still in the loop after the last attempt of the list. A run over every finite list is a run
over every prefix of every infinite sequence of broker outcomes.

The calls of one pass are the transitions `DeliverState.onSubscribeSync`,
`DeliverState.onPublishMsg` and `DeliverState.onNextMsg`. `deliverIteration` chains them for
one pass; the delivery fabric (`Steward.Fabric`) runs the same transitions one at a time,
interleaved with the broker and the subscriber.

* `loop_of_subscribe_fail`: with a broker that refuses every subscription the
  loop never returns, on any subject and with any `Retries`.
* `messageDeliverNats_publish_bound`: the number of successful publishes is at most `R` on
  an ACK subject with `Retries = R ≥ 1` and at most one on a NACK subject; the loop returns
  by the `R`-th (first) pass in which subscribe and publish both succeed; and it calls
  `PublishMsg` exactly once when the first pass succeeds with a reply in time.
* `messageDeliverNats_gives_up_iff`: on an ACK subject the loop gives up exactly when the
  number of `NextMsg` timeouts reaches `max Retries 1`, with `Retries ≠ 0`; with
  `Retries = 0` it returns only with a reply.
* `messageDeliverNats_leaves_subscriptions`: the loop never calls `Unsubscribe`, so every
  pass that publishes leaves one reply subscription open, on NACK subjects too
  (`messageDeliverNats_keeps_subscriptions`).

`retryAttempts` is a Go `int`; it is an `Int` here, unbounded, since a run reaches
`2 ^ 63` timeouts of at least one `ACKTimeout` each only in a physically absurd time.
-/

set_option autoImplicit false

namespace Steward

variable {α : Type}

/-- What the broker answers in one pass through the loop: whether `SubscribeSync` and
`PublishMsg` returned no error, and what `NextMsg` returned within the timeout (`none`:
it timed out). A field the pass does not reach is not read. -/
structure Attempt (α : Type) where
  subscribeOk : Bool
  publishOk : Bool
  nextMsg : Option α

/-- A pass in which both the subscribe and the publish succeed. -/
def Attempt.succeeds (a : Attempt α) : Bool := a.subscribeOk && a.publishOk

/-- A call of `messageDeliverNats` on the broker connection, with its outcome. -/
inductive BrokerCall (α : Type) where
  | subscribeSync (subject : String) (ok : Bool)
  | publishMsg (subject reply : String) (ok : Bool)
  | nextMsg (timeout : Int) (reply : Option α)

/-- A `PublishMsg` call. -/
def BrokerCall.isPublish : BrokerCall α → Bool
  | .publishMsg .. => true
  | _ => false

/-- A `PublishMsg` call that succeeded. -/
def BrokerCall.isPublishOk : BrokerCall α → Bool
  | .publishMsg _ _ ok => ok
  | _ => false

/-- A `NextMsg` call that timed out. -/
def BrokerCall.isTimeout : BrokerCall α → Bool
  | .nextMsg _ none => true
  | _ => false

/-- How `messageDeliverNats` returned: with a reply, after the last retry, or after the
publish on a NACK subject. -/
inductive Delivered (α : Type) where
  | acked (reply : α)
  | gaveUp
  | sent
  deriving DecidableEq

/-- The retry switch after a timeout, `true` for the `return` case: `Retries == 0` means
unlimited retries, and otherwise the loop returns once `retryAttempts >= Retries`. -/
def retrySwitch (retries retryAttempts : Int) : Bool :=
  if retries = 0 then false
  else if retryAttempts ≥ retries then true
  else false

/-- Where the loop of `messageDeliverNats` is. -/
inductive Phase (α : Type) where
  /-- At the top of the loop body. -/
  | top
  /-- `SubscribeSync` returned the reply subscription. -/
  | subscribed
  /-- `PublishMsg` succeeded on an ACK subject; `NextMsg` is next. -/
  | awaiting
  /-- The function returned. -/
  | returned (d : Delivered α)

/-- The loop's state: where it is, and its counter `retryAttempts`. -/
structure DeliverState (α : Type) where
  phase : Phase α
  retryAttempts : Int

/-- The state at entry: the top of the loop, no attempts. -/
def DeliverState.init : DeliverState α := ⟨.top, 0⟩

/-- `SubscribeSync` at the top of the loop: on an error, `continue`. -/
def DeliverState.onSubscribeSync (st : DeliverState α) (ok : Bool) : DeliverState α :=
  if ok then { st with phase := .subscribed } else { st with phase := .top }

/-- `PublishMsg` after the subscribe: on an error, `continue`; on an ACK subject go on to
`NextMsg`; on a NACK subject, `return`. -/
def DeliverState.onPublishMsg (ack : Bool) (st : DeliverState α) (ok : Bool) :
    DeliverState α :=
  if ok then { st with phase := if ack then .awaiting else .returned .sent }
  else { st with phase := .top }

/-- `NextMsg` on an ACK subject: a reply returns; a timeout bumps `retryAttempts` and goes
through the retry switch. -/
def DeliverState.onNextMsg (retries : Int) (st : DeliverState α) : Option α → DeliverState α
  | some r => { st with phase := .returned (.acked r) }
  | none =>
    { phase := if retrySwitch retries (st.retryAttempts + 1) then .returned .gaveUp else .top
      retryAttempts := st.retryAttempts + 1 }

/-- One pass through the loop body from its top: the broker calls, in order, and the
state after the pass. -/
def deliverIteration (proc : Process) (message : Message) (st : DeliverState α)
    (a : Attempt α) : List (BrokerCall α) × DeliverState α :=
  let reply := "reply." ++ proc.subject.name
  let st := st.onSubscribeSync a.subscribeOk
  if a.subscribeOk then
    let st := st.onPublishMsg (isACK proc.subject.commandOrEvent) a.publishOk
    if a.publishOk then
      if isACK proc.subject.commandOrEvent then
        ([.subscribeSync reply true, .publishMsg proc.subject.name reply true,
          .nextMsg message.timeout a.nextMsg], st.onNextMsg message.retries a.nextMsg)
      else ([.subscribeSync reply true, .publishMsg proc.subject.name reply true], st)
    else ([.subscribeSync reply true, .publishMsg proc.subject.name reply false], st)
  else ([.subscribeSync reply false], st)

/-- The loop from state `st` over the broker's answers: the calls made, and how the loop
returned (`none`: still looping after the last answer). -/
def messageDeliverNats.loop (proc : Process) (message : Message) :
    DeliverState α → List (Attempt α) → List (BrokerCall α) × Option (Delivered α)
  | _, [] => ([], none)
  | st, a :: as =>
    let r := deliverIteration proc message st a
    match r.2.phase with
    | .returned d => (r.1, some d)
    | _ => let rest := messageDeliverNats.loop proc message r.2 as; (r.1 ++ rest.1, rest.2)

/-- `messageDeliverNats` over the broker's answers to its passes through the loop. -/
def messageDeliverNats (proc : Process) (message : Message) (attempts : List (Attempt α)) :
    List (BrokerCall α) × Option (Delivered α) :=
  messageDeliverNats.loop proc message .init attempts

/-- The state of the loop after the passes `as` from `st`, read while none of them returned. -/
def messageDeliverNats.after (proc : Process) (message : Message) :
    DeliverState α → List (Attempt α) → DeliverState α
  | st, [] => st
  | st, a :: as => after proc message (deliverIteration proc message st a).2 as

/-- How a loop state returned, if it did. -/
def DeliverState.result (st : DeliverState α) : Option (Delivered α) :=
  match st.phase with
  | .returned d => some d
  | _ => none

/-! ### Counting calls -/

/-- The `NextMsg` calls that timed out. -/
def timeouts (calls : List (BrokerCall α)) : Nat := calls.countP BrokerCall.isTimeout

/-- The `PublishMsg` calls that succeeded. -/
def publishesOk (calls : List (BrokerCall α)) : Nat := calls.countP BrokerCall.isPublishOk

/-- The `PublishMsg` calls. -/
def publishes (calls : List (BrokerCall α)) : Nat := calls.countP BrokerCall.isPublish

/-- A `SubscribeSync` call that succeeded: it opened a reply subscription. -/
def BrokerCall.isSubscribeOk : BrokerCall α → Bool
  | .subscribeSync _ ok => ok
  | _ => false

/-- The reply subscriptions the calls opened. The loop makes no `Unsubscribe` call, so each
of them is still live after `messageDeliverNats` returns. -/
def subscriptionsOpened (calls : List (BrokerCall α)) : Nat :=
  calls.countP BrokerCall.isSubscribeOk

/-- The passes in which subscribe and publish both succeed. -/
def succeeding (attempts : List (Attempt α)) : Nat := attempts.countP Attempt.succeeds

@[simp] theorem timeouts_append (l l' : List (BrokerCall α)) :
    timeouts (l ++ l') = timeouts l + timeouts l' := List.countP_append ..

@[simp] theorem publishesOk_append (l l' : List (BrokerCall α)) :
    publishesOk (l ++ l') = publishesOk l + publishesOk l' := List.countP_append ..

@[simp] theorem publishes_append (l l' : List (BrokerCall α)) :
    publishes (l ++ l') = publishes l + publishes l' := List.countP_append ..

@[simp] theorem subscriptionsOpened_append (l l' : List (BrokerCall α)) :
    subscriptionsOpened (l ++ l') = subscriptionsOpened l + subscriptionsOpened l' :=
  List.countP_append ..

@[simp] theorem succeeding_cons (a : Attempt α) (as : List (Attempt α)) :
    succeeding (a :: as) = succeeding as + if a.succeeds then 1 else 0 := by
  simp [succeeding, List.countP_cons]

/-- The switch returns exactly when `Retries` is not 0 and the counter has reached it. -/
theorem retrySwitch_eq_true_iff (retries n : Int) :
    retrySwitch retries n = true ↔ retries ≠ 0 ∧ retries ≤ n := by
  unfold retrySwitch
  split_ifs <;> simp_all

/-! ### One pass -/

section
variable (proc : Process) (message : Message) (st : DeliverState α) (a : Attempt α)

/-- A pass whose subscribe fails makes one call and continues. -/
theorem deliverIteration_of_subscribe_fail (h : a.subscribeOk = false) :
    deliverIteration proc message st a =
      ([.subscribeSync ("reply." ++ proc.subject.name) false], { st with phase := .top }) := by
  simp [deliverIteration, DeliverState.onSubscribeSync, h]

/-- A pass whose publish fails makes two calls and continues. -/
theorem deliverIteration_of_publish_fail (h₁ : a.subscribeOk = true)
    (h₂ : a.publishOk = false) :
    deliverIteration proc message st a =
      ([.subscribeSync ("reply." ++ proc.subject.name) true,
        .publishMsg proc.subject.name ("reply." ++ proc.subject.name) false],
        { st with phase := .top }) := by
  simp [deliverIteration, DeliverState.onSubscribeSync, DeliverState.onPublishMsg, h₁, h₂]

/-- A pass that publishes on a NACK subject returns. -/
theorem deliverIteration_nack (h₁ : a.subscribeOk = true) (h₂ : a.publishOk = true)
    (hk : isACK proc.subject.commandOrEvent = false) :
    deliverIteration proc message st a =
      ([.subscribeSync ("reply." ++ proc.subject.name) true,
        .publishMsg proc.subject.name ("reply." ++ proc.subject.name) true],
        { st with phase := .returned .sent }) := by
  simp [deliverIteration, DeliverState.onSubscribeSync, DeliverState.onPublishMsg, h₁, h₂, hk]

/-- A pass that publishes on an ACK subject waits with `NextMsg` and takes its answer. -/
theorem deliverIteration_ack (h₁ : a.subscribeOk = true) (h₂ : a.publishOk = true)
    (hk : isACK proc.subject.commandOrEvent = true) :
    deliverIteration proc message st a =
      ([.subscribeSync ("reply." ++ proc.subject.name) true,
        .publishMsg proc.subject.name ("reply." ++ proc.subject.name) true,
        .nextMsg message.timeout a.nextMsg], st.onNextMsg message.retries a.nextMsg) := by
  cases hn : a.nextMsg <;>
    simp [deliverIteration, DeliverState.onSubscribeSync, DeliverState.onPublishMsg,
      DeliverState.onNextMsg, h₁, h₂, hk, hn]

/-- A pass subscribes before it publishes: it opens as many reply subscriptions as it makes
`PublishMsg` calls, and a pass that returns has opened one. -/
theorem deliverIteration_subscriptions :
    subscriptionsOpened (deliverIteration proc message st a).1 =
        publishes (deliverIteration proc message st a).1 ∧
      ((deliverIteration proc message st a).2.result.isSome →
        subscriptionsOpened (deliverIteration proc message st a).1 = 1) := by
  cases h₁ : a.subscribeOk
  · rw [deliverIteration_of_subscribe_fail _ _ _ _ h₁]
    exact ⟨rfl, fun h => absurd h Bool.false_ne_true⟩
  cases h₂ : a.publishOk
  · rw [deliverIteration_of_publish_fail _ _ _ _ h₁ h₂]
    exact ⟨rfl, fun h => absurd h Bool.false_ne_true⟩
  cases hk : isACK proc.subject.commandOrEvent
  · rw [deliverIteration_nack _ _ _ _ h₁ h₂ hk]; exact ⟨rfl, fun _ => rfl⟩
  · rw [deliverIteration_ack _ _ _ _ h₁ h₂ hk]; exact ⟨rfl, fun _ => rfl⟩

/-- A pass that does not return ends at the top of the loop. -/
theorem deliverIteration_top_of_result_none
    (h : (deliverIteration proc message st a).2.result = none) :
    (deliverIteration proc message st a).2.phase = .top := by
  cases h₁ : a.subscribeOk
  · rw [deliverIteration_of_subscribe_fail _ _ _ _ h₁]
  cases h₂ : a.publishOk
  · rw [deliverIteration_of_publish_fail _ _ _ _ h₁ h₂]
  cases hk : isACK proc.subject.commandOrEvent
  · rw [deliverIteration_nack _ _ _ _ h₁ h₂ hk] at h; cases h
  rw [deliverIteration_ack _ _ _ _ h₁ h₂ hk] at h ⊢
  cases hn : a.nextMsg <;>
    simp only [hn, DeliverState.onNextMsg, DeliverState.result, reduceCtorEq] at h ⊢
  split <;> simp_all

end

/-! ### The loop -/

section
variable (proc : Process) (message : Message)

/-- A pass that ends at the top of the loop hands its state to the next pass. -/
theorem loop_cons_of_top (st : DeliverState α) (a : Attempt α) (as : List (Attempt α))
    (h : (deliverIteration proc message st a).2.phase = .top) :
    messageDeliverNats.loop proc message st (a :: as) =
      ((deliverIteration proc message st a).1 ++
          (messageDeliverNats.loop proc message (deliverIteration proc message st a).2 as).1,
        (messageDeliverNats.loop proc message (deliverIteration proc message st a).2 as).2) := by
  rw [messageDeliverNats.loop, h]

/-- A pass that returns ends the loop. -/
theorem loop_cons_of_returned (st : DeliverState α) (a : Attempt α) (as : List (Attempt α))
    (d : Delivered α) (h : (deliverIteration proc message st a).2.phase = .returned d) :
    messageDeliverNats.loop proc message st (a :: as) =
      ((deliverIteration proc message st a).1, some d) := by
  rw [messageDeliverNats.loop, h]

/-- A pass in which the subscribe or the publish fails hands the loop on from its top, with
no successful publish and no timeout among its calls. -/
theorem loop_cons_of_not_succeeds (st : DeliverState α) (a : Attempt α) (as : List (Attempt α))
    (h : a.succeeds = false) :
    ∃ calls : List (BrokerCall α),
      messageDeliverNats.loop proc message st (a :: as) =
        (calls ++ (messageDeliverNats.loop proc message { st with phase := .top } as).1,
          (messageDeliverNats.loop proc message { st with phase := .top } as).2) ∧
      publishesOk calls = 0 ∧ timeouts calls = 0 := by
  have hpass : (deliverIteration proc message st a).2 = { st with phase := .top } ∧
      publishesOk (deliverIteration proc message st a).1 = 0 ∧
      timeouts (deliverIteration proc message st a).1 = 0 := by
    cases hs : a.subscribeOk
    · rw [deliverIteration_of_subscribe_fail _ _ _ _ hs]; exact ⟨rfl, rfl, rfl⟩
    · have hp : a.publishOk = false := by simpa [Attempt.succeeds, hs] using h
      rw [deliverIteration_of_publish_fail _ _ _ _ hs hp]; exact ⟨rfl, rfl, rfl⟩
  refine ⟨_, ?_, hpass.2⟩
  rw [loop_cons_of_top _ _ _ _ _ (by rw [hpass.1]), hpass.1]

/-- A broker that refuses every subscription keeps the loop at its top, whatever the subject
and whatever `Retries` says. -/
theorem loop_of_subscribe_fail :
    ∀ (as : List (Attempt α)) (st : DeliverState α), (∀ a ∈ as, a.subscribeOk = false) →
      (messageDeliverNats.loop proc message st as).2 = none
  | [], _, _ => rfl
  | a :: as, st, h => by
    have ha := h a (List.mem_cons_self a as)
    rw [loop_cons_of_top _ _ _ _ _ (by rw [deliverIteration_of_subscribe_fail _ _ _ _ ha])]
    exact loop_of_subscribe_fail as _ fun a' h' => h a' (List.mem_cons_of_mem a h')

theorem after_append (st : DeliverState α) (a : Attempt α) :
    ∀ as : List (Attempt α), messageDeliverNats.after proc message st (as ++ [a]) =
      (deliverIteration proc message (messageDeliverNats.after proc message st as) a).2
  | [] => rfl
  | _ :: as => after_append _ a as

/-- One more pass after passes that did not return: the loop returns as that pass does. -/
theorem loop_append_of_none :
    ∀ (as : List (Attempt α)) (st : DeliverState α) (a : Attempt α),
      (messageDeliverNats.loop proc message st as).2 = none →
        (messageDeliverNats.loop proc message st (as ++ [a])).2 =
          (deliverIteration proc message (messageDeliverNats.after proc message st as) a).2.result
  | [], st, a, _ => by
    simp only [List.nil_append, messageDeliverNats.loop, messageDeliverNats.after,
      DeliverState.result]
    split <;> rfl
  | b :: as, st, a, h => by
    simp only [List.cons_append, messageDeliverNats.loop, messageDeliverNats.after] at h ⊢
    split at h
    · cases h
    · exact loop_append_of_none as _ a h

/-- The loop opens one reply subscription per `PublishMsg` call and closes none, and a loop
that returned has opened at least one. -/
theorem loop_subscriptions :
    ∀ (as : List (Attempt α)) (st : DeliverState α),
      subscriptionsOpened (messageDeliverNats.loop proc message st as).1 =
          publishes (messageDeliverNats.loop proc message st as).1 ∧
        ((messageDeliverNats.loop proc message st as).2.isSome →
          1 ≤ subscriptionsOpened (messageDeliverNats.loop proc message st as).1)
  | [], _ => by simp [messageDeliverNats.loop, subscriptionsOpened, publishes]
  | a :: as, st => by
    have hpass := deliverIteration_subscriptions proc message st a
    have ih := loop_subscriptions as (deliverIteration proc message st a).2
    rw [messageDeliverNats.loop]
    split
    · next d hd =>
      exact ⟨hpass.1, fun _ => (hpass.2 (by simp [DeliverState.result, hd])).ge⟩
    · simp only [subscriptionsOpened_append, publishes_append, hpass.1, ih.1, true_and]
      exact fun h => by have := ih.2 h; rw [ih.1] at this; omega

/-- On a NACK subject the loop publishes successfully at most once, and returns at the
first pass in which subscribe and publish both succeed. -/
theorem loop_nack (hk : isACK proc.subject.commandOrEvent = false) :
    ∀ (as : List (Attempt α)) (st : DeliverState α),
      publishesOk (messageDeliverNats.loop proc message st as).1 ≤ 1 ∧
        (0 < succeeding as → (messageDeliverNats.loop proc message st as).2.isSome)
  | [], _ => by simp [messageDeliverNats.loop, publishesOk, succeeding]
  | a :: as, st => by
    cases hsu : a.succeeds
    · obtain ⟨calls, he, hp, -⟩ := loop_cons_of_not_succeeds proc message st a as hsu
      rw [he]
      simpa [hp, hsu] using loop_nack hk as { st with phase := .top }
    obtain ⟨hs, hp⟩ : a.subscribeOk = true ∧ a.publishOk = true := by
      simpa [Attempt.succeeds] using hsu
    rw [loop_cons_of_returned _ _ _ _ _ .sent (by rw [deliverIteration_nack _ _ _ _ hs hp hk]),
      deliverIteration_nack _ _ _ _ hs hp hk]
    simp [publishesOk, BrokerCall.isPublishOk]

/-- On an ACK subject with `Retries = R ≥ 1`, from a counter `k` below `R`: at most `R - k`
successful publishes, and the loop returns once the broker has let `R - k` passes
through. -/
theorem loop_ack (hk : isACK proc.subject.commandOrEvent = true) (hR : 1 ≤ message.retries) :
    ∀ (as : List (Attempt α)) (st : DeliverState α), st.retryAttempts < message.retries →
      (publishesOk (messageDeliverNats.loop proc message st as).1 : Int) ≤
          message.retries - st.retryAttempts ∧
        (message.retries - st.retryAttempts ≤ succeeding as →
          (messageDeliverNats.loop proc message st as).2.isSome)
  | [], st, hlt => by
    simp only [messageDeliverNats.loop, publishesOk, succeeding, List.countP_nil]
    omega
  | a :: as, st, hlt => by
    cases hsu : a.succeeds
    · obtain ⟨calls, he, hp, -⟩ := loop_cons_of_not_succeeds proc message st a as hsu
      rw [he]
      simpa [hp, hsu] using loop_ack hk hR as { st with phase := .top } hlt
    obtain ⟨hs, hp⟩ : a.subscribeOk = true ∧ a.publishOk = true := by
      simpa [Attempt.succeeds] using hsu
    have hit := deliverIteration_ack proc message st a hs hp hk
    cases hn : a.nextMsg with
    | some r =>
      rw [loop_cons_of_returned _ _ _ _ _ (.acked r) (by simp [hit, hn, DeliverState.onNextMsg]),
        hit]
      simp [publishesOk, BrokerCall.isPublishOk, List.countP_cons]
      omega
    | none =>
      cases hsw : retrySwitch message.retries (st.retryAttempts + 1)
      · have hlt' : st.retryAttempts + 1 < message.retries := by
          have := (retrySwitch_eq_true_iff message.retries (st.retryAttempts + 1)).not.1
            (by simp [hsw])
          omega
        have ih := loop_ack hk hR as ⟨.top, st.retryAttempts + 1⟩ hlt'
        rw [loop_cons_of_top _ _ _ _ _
            (by simp [hit, hn, hsw, DeliverState.onNextMsg]), hit]
        simp only [hn, DeliverState.onNextMsg, hsw, Bool.false_eq_true, if_false] at ih ⊢
        simp [publishesOk, BrokerCall.isPublishOk, List.countP_cons, hsu] at ih ⊢
        exact ⟨by omega, fun h => ih.2 (by omega)⟩
      · rw [loop_cons_of_returned _ _ _ _ _ .gaveUp
            (by simp [hit, hn, hsw, DeliverState.onNextMsg]), hit]
        simp [publishesOk, BrokerCall.isPublishOk, List.countP_cons]
        omega

/-- On an ACK subject, from a counter `k ≥ 0` that has not reached `max R 1` (or with
`R = 0`): the loop gives up exactly when its timeouts bring the counter to `max R 1` with
`R ≠ 0`, it has not got there while it still loops, and it returns only with a reply or by
giving up. -/
theorem loop_ack_gaveUp (hk : isACK proc.subject.commandOrEvent = true) :
    ∀ (as : List (Attempt α)) (st : DeliverState α), 0 ≤ st.retryAttempts →
      (message.retries = 0 ∨ st.retryAttempts < max message.retries 1) →
      ((messageDeliverNats.loop proc message st as).2 = some .gaveUp ↔
          message.retries ≠ 0 ∧
            st.retryAttempts + timeouts (messageDeliverNats.loop proc message st as).1 =
              max message.retries 1) ∧
        ((messageDeliverNats.loop proc message st as).2 = none →
          message.retries = 0 ∨
            st.retryAttempts + timeouts (messageDeliverNats.loop proc message st as).1 <
              max message.retries 1) ∧
        (∀ d, (messageDeliverNats.loop proc message st as).2 = some d →
          d = .gaveUp ∨ ∃ r, d = .acked r)
  | [], st, h0, hinv => by
    simp [messageDeliverNats.loop, timeouts]
    omega
  | a :: as, st, h0, hinv => by
    cases hsu : a.succeeds
    · obtain ⟨calls, he, -, ht⟩ := loop_cons_of_not_succeeds proc message st a as hsu
      rw [he]
      simpa [ht] using loop_ack_gaveUp hk as { st with phase := .top } h0 hinv
    obtain ⟨hs, hp⟩ : a.subscribeOk = true ∧ a.publishOk = true := by
      simpa [Attempt.succeeds] using hsu
    have hit := deliverIteration_ack proc message st a hs hp hk
    cases hn : a.nextMsg with
    | some r =>
      rw [loop_cons_of_returned _ _ _ _ _ (.acked r) (by simp [hit, hn, DeliverState.onNextMsg]),
        hit]
      simp [timeouts, BrokerCall.isTimeout, hn]
      omega
    | none =>
      have hsw := retrySwitch_eq_true_iff message.retries (st.retryAttempts + 1)
      cases hb : retrySwitch message.retries (st.retryAttempts + 1)
      · have hinv' : message.retries = 0 ∨ st.retryAttempts + 1 < max message.retries 1 := by
          simp only [hb, Bool.false_eq_true, false_iff, not_and, not_le] at hsw
          omega
        have ih := loop_ack_gaveUp hk as ⟨.top, st.retryAttempts + 1⟩ (by simp; omega) hinv'
        rw [loop_cons_of_top _ _ _ _ _ (by simp [hit, hn, hb, DeliverState.onNextMsg]), hit]
        simp only [hn, DeliverState.onNextMsg, hb, Bool.false_eq_true, if_false] at ih ⊢
        simp [timeouts, BrokerCall.isTimeout] at ih ⊢
        refine ⟨?_, fun h => ?_, ih.2.2⟩
        · rw [ih.1]
          omega
        · have := ih.2.1 h
          omega
      · rw [loop_cons_of_returned _ _ _ _ _ .gaveUp
            (by simp [hit, hn, hb, DeliverState.onNextMsg]), hit]
        simp only [hb, true_iff] at hsw
        simp [timeouts, BrokerCall.isTimeout, hn]
        omega

end

/-! ### `messageDeliverNats` -/

section
variable (proc : Process) (message : Message) (attempts : List (Attempt α))

/-- How often `messageDeliverNats` publishes. On an ACK subject with `Retries = R ≥ 1` at
most `R` publishes succeed, and the function returns once the broker has let `R` passes
through (subscribe and publish both succeeding); on a NACK subject at most one publish
succeeds, and the function returns at the first such pass. When the first pass succeeds
and its reply arrives in time, `PublishMsg` is called exactly once. Failed subscribes and
publishes are not counted: they `continue` the loop. -/
theorem messageDeliverNats_publish_bound :
    (isACK proc.subject.commandOrEvent = true → 1 ≤ message.retries →
        (publishesOk (messageDeliverNats proc message attempts).1 : Int) ≤ message.retries ∧
          (message.retries ≤ succeeding attempts →
            (messageDeliverNats proc message attempts).2.isSome)) ∧
      (isACK proc.subject.commandOrEvent = false →
        publishesOk (messageDeliverNats proc message attempts).1 ≤ 1 ∧
          (0 < succeeding attempts → (messageDeliverNats proc message attempts).2.isSome)) ∧
      (∀ a as, attempts = a :: as → a.subscribeOk = true → a.publishOk = true →
        a.nextMsg.isSome → publishes (messageDeliverNats proc message attempts).1 = 1) := by
  refine ⟨fun hk hR => ?_, fun hk => loop_nack proc message hk attempts _, ?_⟩
  · simpa [DeliverState.init] using loop_ack proc message hk hR attempts .init
      (by simp only [DeliverState.init]; omega)
  · rintro a as rfl hs hp hr
    obtain ⟨r, hn⟩ := Option.isSome_iff_exists.1 hr
    unfold messageDeliverNats
    cases hk : isACK proc.subject.commandOrEvent
    · rw [loop_cons_of_returned _ _ _ _ _ .sent (by rw [deliverIteration_nack _ _ _ _ hs hp hk]),
        deliverIteration_nack _ _ _ _ hs hp hk]
      simp [publishes, BrokerCall.isPublish]
    · rw [loop_cons_of_returned _ _ _ _ _ (.acked r)
        (by simp [deliverIteration_ack _ _ _ _ hs hp hk, hn, DeliverState.onNextMsg]),
        deliverIteration_ack _ _ _ _ hs hp hk]
      simp [publishes, BrokerCall.isPublish]

/-- `loop_ack_gaveUp` from the entry of the loop. -/
theorem loop_ack_gaveUp_init (hk : isACK proc.subject.commandOrEvent = true) :
    ((messageDeliverNats proc message attempts).2 = some .gaveUp ↔
        message.retries ≠ 0 ∧
          (timeouts (messageDeliverNats proc message attempts).1 : Int) =
            max message.retries 1) ∧
      ((messageDeliverNats proc message attempts).2 = none →
        message.retries = 0 ∨
          (timeouts (messageDeliverNats proc message attempts).1 : Int) <
            max message.retries 1) ∧
      (∀ d, (messageDeliverNats proc message attempts).2 = some d →
        d = .gaveUp ∨ ∃ r, d = .acked r) := by
  have h := loop_ack_gaveUp proc message hk attempts .init
    (by simp [DeliverState.init]) (by simp only [DeliverState.init]; omega)
  simp only [DeliverState.init, Int.zero_add] at h
  exact h

/-- On an ACK subject, `messageDeliverNats` gives up without a reply exactly when the
number of `NextMsg` timeouts reaches `max Retries 1` and `Retries ≠ 0`: `R` timeouts for
`R ≥ 1`, and one timeout for a negative `R`. While it still loops it has seen fewer. With
`Retries = 0` it returns only with a reply. -/
theorem messageDeliverNats_gives_up_iff (hk : isACK proc.subject.commandOrEvent = true) :
    ((messageDeliverNats proc message attempts).2 = some .gaveUp ↔
        message.retries ≠ 0 ∧
          (timeouts (messageDeliverNats proc message attempts).1 : Int) =
            max message.retries 1) ∧
      ((messageDeliverNats proc message attempts).2 = none → message.retries ≠ 0 →
        (timeouts (messageDeliverNats proc message attempts).1 : Int) <
          max message.retries 1) ∧
      (message.retries = 0 → ∀ d, (messageDeliverNats proc message attempts).2 = some d →
        ∃ r, d = .acked r) := by
  obtain ⟨h1, h2, h3⟩ := loop_ack_gaveUp_init proc message attempts hk
  refine ⟨h1, fun hn hR => (h2 hn).resolve_left hR, fun hR d hd => ?_⟩
  rcases h3 d hd with rfl | h
  · exact absurd (h1.1 hd).1 (by simp [hR])
  · exact h

/-- `messageDeliverNats` never unsubscribes. For every message, on every subject and for
every sequence of broker outcomes, it leaves one reply subscription open per `PublishMsg`
call it made, and at least one once it has returned, on an ACK and on a NACK subject
alike. -/
theorem messageDeliverNats_leaves_subscriptions :
    subscriptionsOpened (messageDeliverNats proc message attempts).1 =
        publishes (messageDeliverNats proc message attempts).1 ∧
      ((messageDeliverNats proc message attempts).2.isSome →
        1 ≤ subscriptionsOpened (messageDeliverNats proc message attempts).1) :=
  loop_subscriptions proc message attempts .init

end

/-! ### The publisher of the examples -/

/-- The `REQCliCommand` publisher towards `ship1`, an ACK subject. -/
def cliPublisher : Process :=
  { messageID := 0, subject := ⟨"ship1", CommandACK, REQCliCommand⟩, node := "ship1",
    processID := 3, processKind := .publisher, allowedReceivers := [] }

/-- A `REQCliCommand` message with a one-second ACK wait and the given `Retries`. -/
def cliMessage (retries : Int) : Message :=
  { Message.zero with toNode := "ship1", method := REQCliCommand, timeout := 1,
                      retries := retries }

/-- A pass that subscribes and publishes, and whose `NextMsg` times out. -/
def timedOut : Attempt (List UInt8) := ⟨true, true, none⟩

/-- A pass whose `SubscribeSync` fails. -/
def refused : Attempt (List UInt8) := ⟨false, false, none⟩

/-- With `Retries = 1`, two refused subscriptions leave `messageDeliverNats` still in its
loop after two passes. -/
theorem messageDeliverNats_refused_twice :
    (messageDeliverNats cliPublisher (cliMessage 1) [refused, refused]).2 = none := by
  decide

/-- With `Retries = -1` the first timeout makes `messageDeliverNats` give up. -/
theorem messageDeliverNats_gives_up_on_negative_retries :
    (messageDeliverNats cliPublisher (cliMessage (-1)) [timedOut]).2 = some .gaveUp ∧
      (cliMessage (-1)).retries < 1 := by
  decide

/-- With `Retries = 2`, two timeouts make `messageDeliverNats` give up. -/
theorem cliPublisher_gives_up_after_two_timeouts :
    (messageDeliverNats cliPublisher (cliMessage 2) [timedOut, timedOut]).2 = some .gaveUp :=
  (messageDeliverNats_gives_up_iff cliPublisher (cliMessage 2) [timedOut, timedOut]
    (by decide)).1.2 ⟨by decide, by decide⟩

/-- The `REQHello` publisher towards `ship1`, a NACK subject. -/
def helloSender : Process :=
  { messageID := 0, subject := ⟨"ship1", EventNACK, REQHello⟩, node := "ship1",
    processID := 4, processKind := .publisher, allowedReceivers := [] }

/-- A hello to `ship1`. -/
def helloMessage : Message := { Message.zero with toNode := "ship1", method := REQHello }

/-- A hello on the NACK subject returns after its one publish and leaves the reply
subscription of its pass open. A command on the ACK subject with `Retries = 2` gives up
after two timeouts and leaves two open. -/
theorem messageDeliverNats_keeps_subscriptions :
    (messageDeliverNats helloSender helloMessage [(⟨true, true, none⟩ : Attempt Unit)]).2 =
        some .sent ∧
      subscriptionsOpened
        (messageDeliverNats helloSender helloMessage [(⟨true, true, none⟩ : Attempt Unit)]).1 = 1 ∧
      (messageDeliverNats cliPublisher (cliMessage 2) [timedOut, timedOut]).2 = some .gaveUp ∧
      subscriptionsOpened
        (messageDeliverNats cliPublisher (cliMessage 2) [timedOut, timedOut]).1 = 2 := by
  decide

end Steward
