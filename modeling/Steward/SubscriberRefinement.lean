import Steward.HandlerOrder

/-!
# `Steward.SubscriberRefinement`: the fabric's goroutines run `subscriberHandler`

`subscribeMessages` starts a goroutine `subscriberHandler` for every message the broker hands
its callback, and the goroutines of a subject run side by side with each other, with the
publisher and with the broker. `Steward.Fabric` performs a goroutine's effects one step at a
time, with the method handler's start and return as two steps.

`goroutine_runs_subscriberHandler` says that each goroutine still runs the code of
`subscriberHandler` on its own message, whatever the interleaving. The events of goroutine
`g` in the log, then the return from the method handler it owes while it is inside it, then
the events of the effects it has still to perform, are the events of the effects
`subscriberHandler` lists for its message, in order; and the effects still to perform are the
end of that list. No step of another party logs an event of `g` or changes what `g` has left
to do. This is the subscriber's half of what `Steward.PublisherRefinement` says of the
publisher.

The statement reads the log per goroutine (`ofGoroutine`) and compares it with the events of
a list of effects (`effectTrace`), the way a lane's events of a shared trace are compared with
the lane's own program.
-/

set_option autoImplicit false

namespace Steward

/-- The goroutine an event belongs to. -/
def Event.goroutine : Event → Option Nat
  | .handlerStart g _ | .handlerReturn g _ | .replied g _ => some g
  | _ => none

namespace Fabric

/-- The events of goroutine `g` in a log, in order. -/
def ofGoroutine (log : List Event) (g : Nat) : List Event := log.filter (·.goroutine == some g)

/-- What the log records of goroutine `g` performing `e` on message `id`: `effectEvents`, and
the return from the method handler after a call of it. -/
def effectTrace (g id : Nat) (e : SubscriberEffect) : List Event :=
  effectEvents g id e ++ if e.isCallHandler then [.handlerReturn g id] else []

/-- The return goroutine `g` owes while it is inside the method handler. -/
def owed (g : Nat) (x : HandlerGoroutine) : List Event :=
  if x.inHandler then [.handlerReturn g x.message.id] else []

/-- Every goroutine is partway through `subscriberHandler` on its message: its effects still to
perform end that list, and its events so far, its return owed and the events still to come
make up the events of the whole list. No event belongs to a goroutine not yet started. -/
structure RunsHandler (L : Link) (f : Fabric) : Prop where
  suffix : ∀ (g : Nat) (x : HandlerGoroutine), f.goroutines[g]? = some x →
    x.effects <:+ L.effectsOf x.message
  trace : ∀ (g : Nat) (x : HandlerGoroutine), f.goroutines[g]? = some x →
    ofGoroutine f.log g ++ owed g x ++ x.effects.flatMap (effectTrace g x.message.id) =
      (L.effectsOf x.message).flatMap (effectTrace g x.message.id)
  fresh : ∀ g, f.goroutines.length ≤ g → ofGoroutine f.log g = []

theorem runsHandler_start (L : Link) (pending : List Message) : RunsHandler L (start pending) :=
  ⟨nofun, nofun, fun _ _ => rfl⟩

@[simp] theorem ofGoroutine_append (l l' : List Event) (g : Nat) :
    ofGoroutine (l ++ l') g = ofGoroutine l g ++ ofGoroutine l' g := List.filter_append ..

/-- The events of a goroutine's effect are its own. -/
theorem goroutine_of_mem_effectEvents {g id : Nat} {e : SubscriberEffect} {e' : Event}
    (he : e' ∈ effectEvents g id e) : e'.goroutine = some g := by
  cases e <;> simp [effectEvents] at he <;> subst he <;> rfl

theorem ofGoroutine_effectEvents (g g' id : Nat) (e : SubscriberEffect) :
    ofGoroutine (effectEvents g id e) g' = if g = g' then effectEvents g id e else [] := by
  split_ifs with h
  · exact List.filter_eq_self.2 fun e' he => by simp [goroutine_of_mem_effectEvents he, h]
  · exact List.filter_eq_nil_iff.2 fun e' he => by simp [goroutine_of_mem_effectEvents he, h]

section Step

variable {L : Link} {f f' : Fabric} {a : FabricAction}

/-- A step that logs no goroutine's event and leaves the goroutines alone keeps `RunsHandler`. -/
theorem RunsHandler.of_frame (hi : RunsHandler L f) (hg : f'.goroutines = f.goroutines)
    {es : List Event} (hlog : f'.log = f.log ++ es) (hes : ∀ e ∈ es, e.goroutine = none) :
    RunsHandler L f' := by
  have hz (g : Nat) : ofGoroutine f'.log g = ofGoroutine f.log g := by
    rw [hlog, ofGoroutine_append, List.append_right_eq_self, ofGoroutine,
      List.filter_eq_nil_iff]
    intro e he
    simp [hes e he]
  exact ⟨hg ▸ hi.suffix, fun g x h => hz g ▸ hi.trace g x (hg ▸ h),
    fun g h => (hz g).trans (hi.fresh g (hg ▸ h))⟩

theorem runsHandler_step (hi : RunsHandler L f) (h : step L f a = some f') :
    RunsHandler L f' := by
  have none : ∀ e ∈ ([] : List Event), e.goroutine = none := nofun
  cases a with
  | take =>
    obtain ⟨m, ms, -, -, rfl⟩ := step_take h
    exact hi.of_frame rfl (List.append_nil _).symm none
  | subscribeSync ok =>
    obtain ⟨m, n, sr, -, ⟨-, rfl⟩ | ⟨-, rfl⟩⟩ := step_subscribeSync h <;>
      exact hi.of_frame rfl (List.append_nil _).symm none
  | publishMsg ok =>
    obtain ⟨m, n, sr, -, ⟨-, rfl⟩ | ⟨-, rfl⟩⟩ := step_publishMsg h
    · exact hi.of_frame rfl rfl fun e he => by
        simp only [List.mem_cons] at he
        rcases he with rfl | he
        · rfl
        · split at he <;> simp_all [Event.goroutine]
    · exact hi.of_frame rfl (List.append_nil _).symm none
  | nextMsg =>
    obtain ⟨m, n, i, s, -, -, ⟨r, rs, -, rfl⟩ | ⟨-, rfl⟩⟩ := step_nextMsg h
    · exact hi.of_frame rfl rfl fun e he => by simp_all [Event.goroutine]
    · exact hi.of_frame rfl rfl fun e he => by split at he <;> simp_all [Event.goroutine]
  | finish =>
    obtain ⟨m, d, n, sr, -, rfl⟩ := step_finish h
    exact hi.of_frame rfl (List.append_nil _).symm none
  | deliver =>
    -- the new goroutine starts at the beginning of `subscriberHandler`, with no events yet
    obtain ⟨m, ms, -, -, rfl⟩ := step_deliver h
    refine ⟨fun g x hx => ?_, fun g x hx => ?_,
      fun g hg => hi.fresh g (by simp at hg; omega)⟩ <;>
      rcases Nat.lt_or_ge g f.goroutines.length with hlt | hge
    · exact hi.suffix g x (by rwa [List.getElem?_append_left hlt] at hx)
    · rw [List.getElem?_append_right hge] at hx
      rcases hn : g - f.goroutines.length with _ | k <;> simp [hn] at hx
      subst hx
      exact List.suffix_refl _
    · exact hi.trace g x (by rwa [List.getElem?_append_left hlt] at hx)
    · rw [List.getElem?_append_right hge] at hx
      rcases hn : g - f.goroutines.length with _ | k <;> simp [hn] at hx
      subst hx
      simp [hi.fresh g hge, owed]
  | runStep g =>
    obtain ⟨-, m, effects, hcase⟩ := step_runStep h
    -- another goroutine's events are not `g'`'s
    have hother {es : List Event} (hes : ∀ e ∈ es, e.goroutine = some g) {g' : Nat}
        (hne : g ≠ g') : ofGoroutine es g' = [] :=
      List.filter_eq_nil_iff.2 fun e he => by simp [hes e he, hne]
    have hlen : g < f.goroutines.length := by
      rcases hcase with ⟨hg, -⟩ | ⟨e, hg, -⟩ <;> exact (List.getElem?_eq_some_iff.1 hg).1
    rcases hcase with ⟨hg, rfl⟩ | ⟨e, hg, rfl⟩
    · -- the method handler returns: the owed return is logged
      have hes : ∀ e ∈ [Event.handlerReturn g m.id], e.goroutine = some g := by
        simp [Event.goroutine]
      refine ⟨fun g' x hx => ?_, fun g' x hx => ?_, fun g' hg' => ?_⟩
      · rcases getElem?_set_cases hx with ⟨rfl, rfl⟩ | ⟨-, hx⟩
        exacts [hi.suffix g ⟨m, effects, true⟩ hg, hi.suffix g' x hx]
      · rcases getElem?_set_cases hx with ⟨rfl, rfl⟩ | ⟨hne, hx⟩
        · simpa [ofGoroutine, Event.goroutine, owed] using hi.trace g ⟨m, effects, true⟩ hg
        · simpa [hother hes hne] using hi.trace g' x hx
      · simp only [List.length_set] at hg'
        simpa [hother hes (show g ≠ g' by omega)] using hi.fresh g' hg'
    · -- an effect: its events are logged, and a handler call leaves a return owed
      have hes : ∀ e' ∈ effectEvents g m.id e, e'.goroutine = some g :=
        fun _ => goroutine_of_mem_effectEvents
      refine ⟨fun g' x hx => ?_, fun g' x hx => ?_, fun g' hg' => ?_⟩
      · rcases getElem?_set_cases hx with ⟨rfl, rfl⟩ | ⟨-, hx⟩
        · exact (List.suffix_cons e effects).trans (hi.suffix g _ hg)
        · exact hi.suffix g' x hx
      · rcases getElem?_set_cases hx with ⟨rfl, rfl⟩ | ⟨hne, hx⟩
        · have := hi.trace g _ hg
          simp only [runEffect, ofGoroutine_append, ofGoroutine_effectEvents, if_true, owed,
            List.flatMap_cons, effectTrace] at this ⊢
          simpa [List.append_assoc] using this
        · simpa [runEffect, hother hes hne] using hi.trace g' x hx
      · simp only [runEffect, List.length_set] at hg'
        simpa [runEffect, hother hes (show g ≠ g' by omega)] using hi.fresh g' hg'

end Step

/-- Over every interleaving, each goroutine of the subscriber runs `subscriberHandler` on its
own message: its effects still to perform end the list `subscriberHandler` gives for the
message, and the events it logged, the return it owes while inside the method handler, and
the events of its effects still to come are, in order, the events of that whole list. -/
theorem goroutine_runs_subscriberHandler (L : Link) (pending : List Message)
    (acts : List FabricAction) {f : Fabric} (h : (start pending).run L acts = some f) {g : Nat}
    {x : HandlerGoroutine} (hx : f.goroutines[g]? = some x) :
    x.effects <:+ subscriberHandler L.run L.subscriber L.server.nodeName L.natsMsg L.server
        x.message false ∧
      ofGoroutine f.log g ++ owed g x ++ x.effects.flatMap (effectTrace g x.message.id) =
        (subscriberHandler L.run L.subscriber L.server.nodeName L.natsMsg L.server x.message
          false).flatMap (effectTrace g x.message.id) := by
  have hi := run_invariant L (RunsHandler L) (fun _ _ _ hi hs => runsHandler_step hi hs) acts
    (runsHandler_start L pending) h
  exact ⟨hi.suffix g x hx, hi.trace g x hx⟩

/-- A ping delivered to `ship1`, whose goroutine has logged its receipt and called the method
handler. -/
def pingInHandlerRun : List FabricAction :=
  [.take, .subscribeSync true, .publishMsg true, .deliver, .runStep 0, .runStep 0]

/-- The state after `pingInHandlerRun`. -/
def pingInHandler : Fabric := ((start [ping]).run pingLink pingInHandlerRun).getD (start [])

/-- In `pingInHandlerRun` the goroutine is inside the method handler, and owes its return. -/
theorem pingInHandler_runs_subscriberHandler :
    ∃ x, pingInHandler.goroutines[0]? = some x ∧ x.inHandler = true ∧
      (x.effects <:+ subscriberHandler noOutput pingSubscriber "ship1" pingLink.natsMsg
          ship1Server x.message false ∧
        ofGoroutine pingInHandler.log 0 ++ owed 0 x ++
            x.effects.flatMap (effectTrace 0 x.message.id) =
          (subscriberHandler noOutput pingSubscriber "ship1" pingLink.natsMsg ship1Server x.message
            false).flatMap (effectTrace 0 x.message.id)) :=
  ⟨_, rfl, rfl, goroutine_runs_subscriberHandler pingLink [ping] pingInHandlerRun
    (show (start [ping]).run pingLink pingInHandlerRun = some pingInHandler from rfl) rfl⟩

end Fabric

end Steward
