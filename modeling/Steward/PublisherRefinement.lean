import Steward.Fabric
import Steward.Registry

/-!
# `Steward.PublisherRefinement`: the fabric's publisher runs `messageDeliverNats`

The publisher of `Steward.Fabric` makes the calls of a pass of `messageDeliverNats` one at a
time, interleaved with the broker and the subscriber. `delivery_runs_messageDeliverNats`
says that this is the loop of `Steward.Deliver`: at every point of every run, the delivery in
progress has returned exactly as `messageDeliverNats` returns over the broker's answers to
its passes so far (`Fabric.attempts`), and is still in its loop when `messageDeliverNats` is.
So what `Steward.Deliver` proves of `messageDeliverNats` holds of the fabric's deliveries,
whatever the other parties do in between; `fabric_gives_up_iff` reads the count of
timeouts at which the loop gives up through it.

The invariant `Runs` adds what a step needs: between returns, the loop over those answers
stands at the top of a pass with the counter `retryAttempts` of the delivery (`LoopAt`), and
a delivery waits on `NextMsg` only on an ACK subject.

The fabric numbers a message with the publisher's own counter, where `publishMessages`
reads `s.processes[pn].messageID` from the registry. `registry_reads_counter` ties the two
together when the publisher's worker is alone under its name: for every interleaving of the
fabric, `Steward.Registry` runs the worker's registry accesses (its spawn, a read at every
`take`, a write-back at every `finish`), and at every point the worker stands where the
fabric's publisher stands, delivering under the ID the fabric gave its message, with the
fabric's counter in its registry entry (`ReadsCounter`). One fabric step is matched by the
accesses it makes (`readsCounter_step`). A second spawn of the name breaks this
(`Registry.respawn_reuses_message_id`).
-/

set_option autoImplicit false

namespace Steward

/-- The loop of `messageDeliverNats` over `attempts` agrees with the loop state `st`: it has
returned as `st` has, and if `st` has not returned, the passes so far leave the loop at the
top of the next one with the counter of `st`. -/
def LoopAt (proc : Process) (m : Message) (attempts : List (Attempt Reply))
    (st : DeliverState Reply) : Prop :=
  (messageDeliverNats proc m attempts).2 = st.result ∧
    (st.result = none →
      messageDeliverNats.after proc m .init attempts = ⟨.top, st.retryAttempts⟩)

section LoopAt

variable {proc : Process} {m : Message} {attempts : List (Attempt Reply)}

theorem loopAt_init : LoopAt proc m [] .init := ⟨rfl, fun _ => rfl⟩

/-- A call inside a pass that does not return moves the state, not the loop. -/
theorem LoopAt.of_result_none {s t : DeliverState Reply} (hl : LoopAt proc m attempts s)
    (h : s.result = none) (h' : t.result = none) (hn : t.retryAttempts = s.retryAttempts) :
    LoopAt proc m attempts t :=
  ⟨hl.1.trans (h.trans h'.symm), fun _ => hn ▸ hl.2 h⟩

/-- The last call of a pass from the top with counter `n` is the loop's next pass. -/
theorem LoopAt.of_pass {n : Int} {b : Attempt Reply} {s : DeliverState Reply}
    (hl : LoopAt proc m attempts ⟨.top, n⟩)
    (hs : (deliverIteration proc m ⟨.top, n⟩ b).2 = s) :
    LoopAt proc m (attempts ++ [b]) s := by
  have hafter := hl.2 rfl
  refine ⟨?_, fun hr => ?_⟩
  · rw [messageDeliverNats, loop_append_of_none _ _ _ _ _ hl.1, hafter, hs]
  · rw [after_append, hafter]
    subst hs
    exact congrArg (DeliverState.mk · _) (deliverIteration_top_of_result_none _ _ _ _ hr)

end LoopAt

namespace Fabric

variable (L : Link)

/-- The delivery in progress runs `messageDeliverNats` over the broker's answers so far, and
waits on `NextMsg` only on an ACK subject. -/
def Runs (f : Fabric) : Prop :=
  ∀ m st sr, f.current = some ⟨m, st, sr⟩ →
    LoopAt L.publisher m f.attempts st ∧
      (st.phase = .awaiting → isACK L.publisher.subject.commandOrEvent = true)

theorem runs_start (pending : List Message) : Runs L (start pending) := by
  simp [Runs, start]

section Step

variable {L} {f f' : Fabric}

/-- `Runs` of a state whose delivery in progress is known. -/
theorem runs_of_current {m : Message} {s : DeliverState Reply} {sr : Option Nat}
    (hc : f'.current = some ⟨m, s, sr⟩) (hl : LoopAt L.publisher m f'.attempts s)
    (hk : s.phase = .awaiting → isACK L.publisher.subject.commandOrEvent = true) :
    Runs L f' := by
  intro m' st' sr' h
  rw [hc, Option.some.injEq, Delivery.mk.injEq] at h
  obtain ⟨rfl, rfl, -⟩ := h
  exact ⟨hl, hk⟩

/-- A step that leaves the delivery and the answers alone keeps `Runs`. -/
theorem runs_of_frame (hc : f'.current = f.current) (ha : f'.attempts = f.attempts)
    (hf : Runs L f) : Runs L f' := by
  intro m st sr h
  rw [ha]
  exact hf m st sr (hc.symm.trans h)

theorem runs_step {a : FabricAction} (hf : Runs L f) (h : step L f a = some f') :
    Runs L f' := by
  cases a with
  | take =>
    obtain ⟨m, ms, -, -, rfl⟩ := step_take h
    exact runs_of_current rfl loopAt_init nofun
  | subscribeSync ok =>
    obtain ⟨m, n, sr, hc, ⟨-, rfl⟩ | ⟨-, rfl⟩⟩ := step_subscribeSync h
    · exact runs_of_current rfl ((hf m _ sr hc).1.of_result_none rfl rfl rfl) nofun
    · exact runs_of_current rfl ((hf m _ sr hc).1.of_pass rfl) nofun
  | publishMsg ok =>
    obtain ⟨m, n, sr, hc, ⟨-, rfl⟩ | ⟨-, rfl⟩⟩ := step_publishMsg h
    · have hl := (hf m _ sr hc).1
      cases hk : isACK L.publisher.subject.commandOrEvent <;>
        simp only [hk, if_true, if_false, Bool.false_eq_true]
      · exact runs_of_current rfl (hl.of_pass (b := ⟨true, true, none⟩)
          (by rw [deliverIteration_nack L.publisher m _ _ rfl rfl hk])) nofun
      · exact runs_of_current rfl (hl.of_result_none rfl rfl rfl) fun _ => hk
    · exact runs_of_current rfl ((hf m _ sr hc).1.of_pass rfl) nofun
  | nextMsg =>
    obtain ⟨m, n, i, s, hc, -, ⟨r, rs, -, rfl⟩ | ⟨-, rfl⟩⟩ := step_nextMsg h
    all_goals
      obtain ⟨hl, hk⟩ := hf m _ _ hc
      have hk := hk rfl
      exact runs_of_current rfl
        (hl.of_pass (by rw [deliverIteration_ack L.publisher m _ ⟨true, true, _⟩ rfl rfl hk]; rfl))
        fun _ => hk
  | finish =>
    obtain ⟨m, d, n, sr, -, rfl⟩ := step_finish h
    exact fun _ _ _ h => nomatch h
  | deliver =>
    obtain ⟨m, ms, -, -, rfl⟩ := step_deliver h
    exact runs_of_frame rfl rfl hf
  | runStep g =>
    obtain ⟨-, m, effects, ⟨-, rfl⟩ | ⟨e, -, rfl⟩⟩ := step_runStep h
    all_goals exact runs_of_frame rfl rfl hf

end Step

section Run

variable {L}

/-- `Runs` holds after every interleaving. -/
theorem runs_run (pending : List Message) (acts : List FabricAction) {f : Fabric}
    (h : (start pending).run L acts = some f) : Runs L f :=
  run_invariant L (Runs L) (fun _ _ _ hf hs => runs_step hf hs) acts (runs_start L pending) h

/-- The fabric's publisher refines `messageDeliverNats`: after any interleaving, the delivery
in progress has returned exactly as `messageDeliverNats` returns over the broker's answers to
its passes so far. -/
theorem delivery_runs_messageDeliverNats (pending : List Message) (acts : List FabricAction)
    {f : Fabric} (h : (start pending).run L acts = some f) {m : Message}
    {st : DeliverState Reply} {sr : Option Nat} (hc : f.current = some ⟨m, st, sr⟩) :
    (messageDeliverNats L.publisher m f.attempts).2 = st.result :=
  (runs_run pending acts h m st sr hc).1.1

/-- On an ACK subject, a delivery of the fabric gives up exactly when `messageDeliverNats`
does over the same answers: when `Retries ≠ 0` and the `NextMsg` calls have timed out
`max Retries 1` times. -/
theorem fabric_gives_up_iff (pending : List Message) (acts : List FabricAction) {f : Fabric}
    (h : (start pending).run L acts = some f) {m : Message} {n : Int} {sr : Option Nat}
    (hk : isACK L.publisher.subject.commandOrEvent = true)
    (hc : f.current = some ⟨m, ⟨.returned .gaveUp, n⟩, sr⟩) :
    m.retries ≠ 0 ∧
      (timeouts (messageDeliverNats L.publisher m f.attempts).1 : Int) = max m.retries 1 :=
  (loop_ack_gaveUp_init L.publisher m f.attempts hk).1.1
    ((runs_run pending acts h m _ sr hc).1.1)

end Run

/-! ### The ID read from the registry -/

/-- The registry accesses of the publisher's worker in an action of the fabric: `take` is the
worker taking its message and reading its ID, `finish` its write-back; no other action
touches the registry. The worker is the registry's first. -/
def registryActions : FabricAction → List RegistryAction
  | .take => [.takeMessage 0]
  | .finish => [.writeBack 0]
  | _ => []

/-- `newProcess` of the link's publisher, and the registry write of its `spawnWorker`. -/
def spawnPublisher : List RegistryAction :=
  [.newProcess L.publisher.subject .publisher L.publisher.allowedReceivers, .spawnWorker 0]

/-- Where the registry's worker stands when the fabric's publisher is at `f`: at the top of
its loop, or delivering its message under the ID the fabric gave it. -/
def workerPhase (f : Fabric) : WorkerPhase :=
  match f.current with
  | none => .waiting
  | some d => .delivering d.message.id

/-- The registry agrees with the fabric: its one worker is a publisher on the link's subject,
registered under its name with the fabric's counter, and it stands where the fabric's
publisher stands. -/
def ReadsCounter (f : Fabric) (r : Registry) : Prop :=
  ∃ p, r.workers = [⟨p, f.workerPhase⟩] ∧ p.subject = L.publisher.subject ∧
    p.processKind = .publisher ∧ p.messageID = f.messageID ∧
    r.server.processes p.processName = some p

theorem readsCounter_start (s : Server) (pending : List Message) :
    ∃ r, (Registry.start s).run (spawnPublisher L) = some r ∧
      ReadsCounter L (start pending) r :=
  ⟨_, rfl, _, rfl, rfl, rfl, rfl, by simp⟩

section ReadsCounter

variable {L} {f f' : Fabric} {r : Registry}

/-- A step that keeps the counter and the worker's phase needs no registry access. -/
theorem ReadsCounter.of_frame (hr : ReadsCounter L f r) (hp : f'.workerPhase = f.workerPhase)
    (hid : f'.messageID = f.messageID) : ReadsCounter L f' r := by
  obtain ⟨p, hw, hs, hk, hm, hreg⟩ := hr
  exact ⟨p, by rw [hp]; exact hw, hs, hk, hid ▸ hm, hreg⟩

/-- A step of the delivery in progress keeps the message, and so the worker's phase. -/
theorem workerPhase_of_current {d d' : Delivery} (hc : f.current = some d)
    (hc' : f'.current = some d') (hm : d'.message = d.message) :
    f'.workerPhase = f.workerPhase := by
  simp only [workerPhase, hc, hc', hm]

/-- One step of the fabric is matched by the registry accesses it makes. -/
theorem readsCounter_step {a : FabricAction} (hr : ReadsCounter L f r)
    (h : step L f a = some f') :
    ∃ r', r.run (registryActions a) = some r' ∧ ReadsCounter L f' r' := by
  cases a with
  | take =>
    obtain ⟨m, ms, hc, -, rfl⟩ := step_take h
    obtain ⟨p, hw, hs, hk, hid, hreg⟩ := hr
    rw [workerPhase, hc] at hw
    refine ⟨⟨r.server, [⟨p, .delivering f.messageID⟩],
      r.dispatched ++ [(p.processName, f.messageID)]⟩, ?_, p, rfl, hs, hk, hid, hreg⟩
    simp [registryActions, Registry.run, Registry.step_takeMessage_of_registered
      (i := 0) (by rw [hw]; rfl) hk hreg, hw, hid]
  | finish =>
    obtain ⟨m, d, n, sr, hc, rfl⟩ := step_finish h
    obtain ⟨p, hw, hs, hk, hid, hreg⟩ := hr
    rw [workerPhase, hc] at hw
    refine ⟨⟨r.server.setProcess p.processName { p with messageID := p.messageID + 1 },
      [⟨{ p with messageID := p.messageID + 1 }, .waiting⟩], r.dispatched⟩, ?_,
      { p with messageID := p.messageID + 1 }, rfl, hs, hk, by rw [hid],
      by rw [Server.setProcess_processes]; exact if_pos rfl⟩
    simp [registryActions, Registry.run, Registry.step_writeBack_of_delivering
      (i := 0) (by rw [hw]; rfl) hk, hw]
  | subscribeSync ok =>
    obtain ⟨m, n, sr, hc, ⟨-, rfl⟩ | ⟨-, rfl⟩⟩ := step_subscribeSync h <;>
      exact ⟨r, rfl, hr.of_frame (workerPhase_of_current hc rfl rfl) rfl⟩
  | publishMsg ok =>
    obtain ⟨m, n, sr, hc, ⟨-, rfl⟩ | ⟨-, rfl⟩⟩ := step_publishMsg h <;>
      exact ⟨r, rfl, hr.of_frame (workerPhase_of_current hc rfl rfl) rfl⟩
  | nextMsg =>
    obtain ⟨m, n, i, s, hc, -, ⟨r', rs, -, rfl⟩ | ⟨-, rfl⟩⟩ := step_nextMsg h <;>
      exact ⟨r, rfl, hr.of_frame (workerPhase_of_current hc rfl rfl) rfl⟩
  | deliver =>
    obtain ⟨m, ms, -, -, rfl⟩ := step_deliver h
    exact ⟨r, rfl, hr.of_frame rfl rfl⟩
  | runStep g =>
    obtain ⟨-, m, effects, ⟨-, rfl⟩ | ⟨e, -, rfl⟩⟩ := step_runStep h <;>
      exact ⟨r, rfl, hr.of_frame rfl rfl⟩

/-- Every run of the fabric is matched by the registry accesses it makes. -/
theorem readsCounter_run : ∀ (acts : List FabricAction) {f f' : Fabric} {r : Registry},
    ReadsCounter L f r → run L f acts = some f' →
      ∃ r', r.run (acts.flatMap registryActions) = some r' ∧ ReadsCounter L f' r'
  | [], _, _, r, hr, h => by cases h; exact ⟨r, rfl, hr⟩
  | a :: as, _, _, _, hr, h => by
    obtain ⟨f₁, h₁, h₂⟩ := Option.bind_eq_some.1 h
    obtain ⟨r₁, hr₁, hc₁⟩ := readsCounter_step hr h₁
    obtain ⟨r', hr', hc'⟩ := readsCounter_run as hc₁ h₂
    exact ⟨r', by rw [List.flatMap_cons, Registry.run_append, hr₁, Option.some_bind, hr'], hc'⟩

end ReadsCounter

/-- The fabric's numbering is the registry's, for the publisher's worker alone under its
name: after every interleaving of the fabric, the registry run of the worker's spawn and of
the registry accesses of the fabric's steps succeeds, and its worker is registered with the
fabric's counter and delivers the fabric's message under the ID the fabric gave it. -/
theorem registry_reads_counter (s : Server) (pending : List Message) (acts : List FabricAction)
    {f : Fabric} (h : (start pending).run L acts = some f) :
    ∃ r, (Registry.start s).run (spawnPublisher L ++ acts.flatMap registryActions) = some r ∧
      ReadsCounter L f r := by
  obtain ⟨r₀, h₀, hc₀⟩ := readsCounter_start L s pending
  obtain ⟨r, hr, hc⟩ := readsCounter_run acts hc₀ h
  exact ⟨r, by rw [Registry.run_append, h₀, Option.some_bind, hr], hc⟩

/-- `central` pings `ship1` once, with `Retries = 1`, and no reply comes in time. -/
def timeoutRun : List FabricAction := [.take, .subscribeSync true, .publishMsg true, .nextMsg]

/-- The state after `timeoutRun`. -/
def timedOutPing : Fabric := ((start [ping]).run pingLink timeoutRun).getD (start [])

/-- After `timeoutRun` the ping has given up, and `messageDeliverNats` gives up over the one
answer the broker gave. -/
theorem timedOutPing_gives_up :
    (messageDeliverNats pingLink.publisher { ping with id := 0 } timedOutPing.attempts).2 =
      some .gaveUp :=
  delivery_runs_messageDeliverNats [ping] timeoutRun
    (show (start [ping]).run pingLink timeoutRun = some timedOutPing from rfl)
    (show timedOutPing.current = some ⟨{ ping with id := 0 }, ⟨.returned .gaveUp, 1⟩, some 0⟩
      from rfl)

/-- The ping of `timeoutRun` gave up after one timeout, its `Retries`. -/
theorem timedOutPing_one_timeout :
    ({ ping with id := 0 } : Message).retries ≠ 0 ∧
      (timeouts (messageDeliverNats pingLink.publisher { ping with id := 0 }
        timedOutPing.attempts).1 : Int) = max ({ ping with id := 0 } : Message).retries 1 :=
  fabric_gives_up_iff [ping] timeoutRun
    (show (start [ping]).run pingLink timeoutRun = some timedOutPing from rfl) rfl
    (show timedOutPing.current = some ⟨{ ping with id := 0 }, ⟨.returned .gaveUp, 1⟩, some 0⟩
      from rfl)

/-- The worker of `timeoutRun`'s publisher reads the ID of the ping from the registry as 0,
the ID the fabric gave it. -/
theorem timedOutPing_reads_registry :
    ∃ r, (Registry.start ship1Server).run
        (spawnPublisher pingLink ++ timeoutRun.flatMap registryActions) = some r ∧
      ReadsCounter pingLink timedOutPing r :=
  registry_reads_counter pingLink ship1Server [ping] timeoutRun
    (show (start [ping]).run pingLink timeoutRun = some timedOutPing from rfl)

end Fabric

end Steward
