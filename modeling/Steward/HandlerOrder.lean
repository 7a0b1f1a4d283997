import Steward.Fabric

/-!
# `Steward.HandlerOrder`: in which order the subscriber runs the handlers

`subscribeMessages` starts a goroutine for every delivery and returns to the broker at once,
so the subscriber runs the handlers of a subject concurrently, and a NACK publisher does not
wait for any of them. The handler of a later message can start before the handler of an
earlier one has started, on a NACK subject, or before it has returned, on an ACK subject
after the publisher gave up on the earlier message (`handlers_overtake`).

What orders two handler runs is a reply (`handler_after_reply`): when `messageDeliverNats`
returned for message `j` with a reply published by a run of `j`'s own handler, that run, the
goroutine the reply names, had finished, its method handler returned and its reply
published, before any run on a later message started its handler. The chain behind it is one invariant per link, in `OrderInv`:
a handler starts only on a published message; a message is published only after every
earlier message has returned; and a return with a reply comes after the reply was published
by a goroutine whose handler had returned.
-/

set_option autoImplicit false

namespace Steward

namespace Fabric

variable (L : Link)

/-- At position `i` of the log, goroutine `g` published its reply to message `j`, after its
method handler returned if it had called it. -/
def Finished (log : List Event) (i g j : Nat) : Prop :=
  log[i]? = some (Event.replied g j) ∧
    ∀ i' < i, log[i']? = some (Event.handlerStart g j) →
      ∃ i'' < i, log[i'']? = some (Event.handlerReturn g j)

/-- A finished run stays finished as the log grows. -/
theorem Finished.append {log : List Event} {i g j : Nat} (h : Finished log i g j)
    (es : List Event) : Finished (log ++ es) i g j := by
  have hi : i < log.length := (List.getElem?_eq_some_iff.1 h.1).1
  refine ⟨by rw [List.getElem?_append_left hi]; exact h.1, fun i' hi' hs => ?_⟩
  rw [List.getElem?_append_left (hi'.trans hi)] at hs
  obtain ⟨i'', hi'', hr⟩ := h.2 i' hi' hs
  exact ⟨i'', hi'', by rw [List.getElem?_append_left (hi''.trans hi)]; exact hr⟩

/-- An entry of a grown log is an old entry or one of the new ones. -/
theorem getElem?_append_cases {log es : List Event} {k : Nat} {e : Event}
    (h : (log ++ es)[k]? = some e) :
    (k < log.length ∧ log[k]? = some e) ∨ (log.length ≤ k ∧ e ∈ es) := by
  by_cases hk : k < log.length
  · exact .inl ⟨hk, by rwa [List.getElem?_append_left hk] at h⟩
  · rw [List.getElem?_append_right (Nat.le_of_not_lt hk)] at h
    exact .inr ⟨Nat.le_of_not_lt hk, List.getElem?_mem h⟩

/-- The invariant behind the order of handler runs. -/
structure OrderInv (f : Fabric) : Prop where
  counted : f.Counted
  /-- A message is published only after every earlier message has returned. -/
  ordered : ∀ (k₁ k₂ j j' : Nat) (dv : Delivered Reply) (out : List Nat),
    f.log[k₁]? = some (Event.published j') →
    f.log[k₂]? = some (Event.returned j dv out) → j < j' → k₂ < k₁
  inflight_published : ∀ m ∈ f.inflight, .published m.id ∈ f.log
  goroutine_published : ∀ x ∈ f.goroutines, .published x.message.id ∈ f.log
  /-- A handler starts only on a published message. -/
  start_published : ∀ k g j : Nat, f.log[k]? = some (Event.handlerStart g j) →
    ∃ i < k, f.log[i]? = some (Event.published j)
  /-- Every queued reply was published by the run it names, which had finished. -/
  queue_finished : ∀ s ∈ f.subs, ∀ r ∈ s.queue, ∃ i, Finished f.log i r.goroutine r.origin
  /-- A return with a reply comes after the run that published it finished. -/
  returned_finished : ∀ (k j : Nat) (r : Reply) (out : List Nat),
    f.log[k]? = some (Event.returned j (.acked r) out) →
    ∃ i, i < k ∧ Finished f.log i r.goroutine r.origin
  /-- A goroutine outside its handler has returned from every handler call it made. -/
  handler_done : ∀ (g : Nat) (x : HandlerGoroutine), f.goroutines[g]? = some x →
    x.inHandler = false →
    ∀ j : Nat, .handlerStart g j ∈ f.log → .handlerReturn g j ∈ f.log
  /-- The handler calls in the log are those of existing goroutines, on their messages. -/
  start_id : ∀ g j : Nat, .handlerStart g j ∈ f.log →
    ∃ x, f.goroutines[g]? = some x ∧ j = x.message.id

theorem orderInv_start (pending : List Message) : (start pending).OrderInv :=
  ⟨counted_start pending, by simp [start], by simp [start], by simp [start], by simp [start],
    by simp [start], by simp [start], by simp [start], by simp [start]⟩

/-! ### One step -/

section Step

variable {L} {f f' : Fabric} {a : FabricAction}

/-- Positions in the log before a step keep their entries. -/
theorem getElem?_of_log_step {es : List Event} (hlog : f'.log = f.log ++ es) {i : Nat}
    {e : Event} (h : f.log[i]? = some e) : f'.log[i]? = some e := by
  rw [hlog, List.getElem?_append_left (List.getElem?_eq_some_iff.1 h).1]
  exact h

theorem ordered_step (hi : f.OrderInv) (h : step L f a = some f') :
    ∀ (k₁ k₂ j j' : Nat) (dv : Delivered Reply) (out : List Nat),
      f'.log[k₁]? = some (Event.published j') → f'.log[k₂]? = some (Event.returned j dv out) →
        j < j' → k₂ < k₁ := by
  obtain ⟨es, hlog, hes⟩ := log_step L h
  intro k₁ k₂ j j' dv out h₁ h₂ hjj
  rw [hlog] at h₁ h₂
  rcases getElem?_append_cases h₁ with ⟨hk₁, h₁⟩ | ⟨hk₁, h₁⟩ <;>
    rcases getElem?_append_cases h₂ with ⟨hk₂, h₂⟩ | ⟨hk₂, h₂⟩
  · exact hi.ordered k₁ k₂ j j' dv out h₁ h₂ hjj
  · -- the new return is of the current message, whose ID bounds every published one
    obtain ⟨d, hd, rfl, -⟩ := hes _ h₂
    have := hi.counted.published_le j' (List.getElem?_mem h₁)
    have := hi.counted.current_id d hd
    omega
  · omega
  · -- a step publishes and returns only the current message
    obtain ⟨d, hd, rfl⟩ := hes _ h₁
    obtain ⟨d', hd', rfl, -⟩ := hes _ h₂
    cases hd.symm.trans hd'
    exact absurd hjj (lt_irrefl _)

theorem published_step (hi : f.OrderInv) (h : step L f a = some f') :
    (∀ m ∈ f'.inflight, .published m.id ∈ f'.log) ∧
      ∀ x ∈ f'.goroutines, .published x.message.id ∈ f'.log := by
  obtain ⟨es, hlog, -⟩ := log_step L h
  have hmono : ∀ e ∈ f.log, e ∈ f'.log := fun e he => hlog ▸ List.mem_append_left _ he
  have hkeep (h₁ : f'.inflight = f.inflight) (h₂ : f'.goroutines = f.goroutines) :
      (∀ m ∈ f'.inflight, .published m.id ∈ f'.log) ∧
        ∀ x ∈ f'.goroutines, .published x.message.id ∈ f'.log :=
    ⟨fun m hm => hmono _ (hi.inflight_published m (h₁ ▸ hm)),
      fun x hx => hmono _ (hi.goroutine_published x (h₂ ▸ hx))⟩
  cases a with
  | take =>
    obtain ⟨m, ms, -, -, rfl⟩ := step_take h
    exact hkeep rfl rfl
  | subscribeSync ok =>
    obtain ⟨m, n, sr, -, ⟨-, rfl⟩ | ⟨-, rfl⟩⟩ := step_subscribeSync h <;> exact hkeep rfl rfl
  | publishMsg ok =>
    obtain ⟨m, n, sr, -, ⟨-, rfl⟩ | ⟨-, rfl⟩⟩ := step_publishMsg h
    · refine ⟨fun m' hm' => ?_, fun x hx => hmono _ (hi.goroutine_published x hx)⟩
      rcases List.mem_append.1 hm' with hm' | hm'
      · exact hmono _ (hi.inflight_published m' hm')
      · simp [List.mem_singleton.1 hm']
    · exact hkeep rfl rfl
  | nextMsg =>
    obtain ⟨m, n, i, s, -, -, ⟨r, rs, -, rfl⟩ | ⟨-, rfl⟩⟩ := step_nextMsg h <;>
      exact hkeep rfl rfl
  | finish =>
    obtain ⟨m, d, n, sr, -, rfl⟩ := step_finish h
    exact hkeep rfl rfl
  | deliver =>
    obtain ⟨m, ms, -, hin, rfl⟩ := step_deliver h
    refine ⟨fun m' hm' => hi.inflight_published m' (by simp [hin, hm']), fun x hx => ?_⟩
    rcases List.mem_append.1 hx with hx | hx
    · exact hi.goroutine_published x hx
    · rw [List.mem_singleton.1 hx]
      exact hi.inflight_published m (by simp [hin])
  | runStep g =>
    -- the goroutine keeps its message
    obtain ⟨-, m, effects, ⟨hg, rfl⟩ | ⟨e, hg, rfl⟩⟩ := step_runStep h <;>
    · refine ⟨fun m hm => hmono _ (hi.inflight_published m hm), fun x hx => ?_⟩
      rcases List.mem_or_eq_of_mem_set hx with hx | rfl
      · exact hmono _ (hi.goroutine_published x hx)
      · have := hi.goroutine_published _ (List.getElem?_mem hg)
        exact hmono _ this

theorem start_published_step (hi : f.OrderInv) (h : step L f a = some f') :
    ∀ k g j : Nat, f'.log[k]? = some (Event.handlerStart g j) →
      ∃ i < k, f'.log[i]? = some (Event.published j) := by
  obtain ⟨es, hlog, hes⟩ := log_step L h
  intro k g j hk
  rw [hlog] at hk
  rcases getElem?_append_cases hk with ⟨-, hk⟩ | ⟨hk', hk⟩
  · obtain ⟨i, hik, hp⟩ := hi.start_published k g j hk
    exact ⟨i, hik, getElem?_of_log_step hlog hp⟩
  · obtain ⟨x, hx, -, rfl⟩ := hes _ hk
    obtain ⟨i, hp⟩ := List.mem_iff_getElem?.1 (hi.goroutine_published x (List.getElem?_mem hx))
    exact ⟨i, by have := (List.getElem?_eq_some_iff.1 hp).1; omega, getElem?_of_log_step hlog hp⟩

/-- Putting in place of goroutine `g` one on the same message keeps every goroutine's
message. -/
theorem message_of_set {l : List HandlerGoroutine} {g g' : Nat} {x y z : HandlerGoroutine}
    (hz : l[g]? = some z) (hx : x.message = z.message) (hy : l[g']? = some y) :
    ∃ y', (l.set g x)[g']? = some y' ∧ y'.message = y.message := by
  by_cases hgg : g = g'
  · subst hgg
    cases hz.symm.trans hy
    exact ⟨x, by simp [List.getElem?_set, (List.getElem?_eq_some_iff.1 hz).1], hx⟩
  · exact ⟨y, by simp [List.getElem?_set_ne hgg, hy], rfl⟩

/-- What `OrderInv` says of the goroutines. -/
def HandlersOk (f : Fabric) : Prop :=
  (∀ (g : Nat) (x : HandlerGoroutine), f.goroutines[g]? = some x → x.inHandler = false →
    ∀ j : Nat, .handlerStart g j ∈ f.log → .handlerReturn g j ∈ f.log) ∧
  ∀ g j : Nat, .handlerStart g j ∈ f.log → ∃ x, f.goroutines[g]? = some x ∧ j = x.message.id

/-- A step that logs no handler call and leaves the goroutines alone keeps them right. -/
theorem handlersOk_of_frame (hi : f.OrderInv) {es : List Event} (hlog : f'.log = f.log ++ es)
    (hg : f'.goroutines = f.goroutines) (hes : ∀ g j : Nat, Event.handlerStart g j ∉ es) :
    HandlersOk f' := by
  have hstart : ∀ g j : Nat, .handlerStart g j ∈ f'.log → .handlerStart g j ∈ f.log :=
    fun g j h => by simpa [hlog, hes g j] using h
  refine ⟨fun g x hx hx' j hj => ?_, fun g j hj => hg ▸ hi.start_id g j (hstart g j hj)⟩
  rw [hlog]
  exact List.mem_append_left _ (hi.handler_done g x (hg ▸ hx) hx' j (hstart g j hj))

theorem handlersOk_step (hi : f.OrderInv) (h : step L f a = some f') : HandlersOk f' := by
  cases a with
  | take =>
    obtain ⟨m, ms, -, -, rfl⟩ := step_take h
    exact handlersOk_of_frame hi (List.append_nil _).symm rfl (by simp)
  | subscribeSync ok =>
    obtain ⟨m, n, sr, -, ⟨-, rfl⟩ | ⟨-, rfl⟩⟩ := step_subscribeSync h <;>
      exact handlersOk_of_frame hi (List.append_nil _).symm rfl (by simp)
  | publishMsg ok =>
    obtain ⟨m, n, sr, -, ⟨-, rfl⟩ | ⟨-, rfl⟩⟩ := step_publishMsg h
    · exact handlersOk_of_frame hi rfl rfl (fun g j => by split <;> simp)
    · exact handlersOk_of_frame hi (List.append_nil _).symm rfl (by simp)
  | nextMsg =>
    obtain ⟨m, n, i, s, -, -, ⟨r, rs, -, rfl⟩ | ⟨-, rfl⟩⟩ := step_nextMsg h
    · exact handlersOk_of_frame hi rfl rfl (by simp)
    · exact handlersOk_of_frame hi rfl rfl (fun g j => by split <;> simp)
  | finish =>
    obtain ⟨m, d, n, sr, -, rfl⟩ := step_finish h
    exact handlersOk_of_frame hi (List.append_nil _).symm rfl (by simp)
  | deliver =>
    obtain ⟨m, ms, -, -, rfl⟩ := step_deliver h
    refine ⟨fun g x hx hx' j hj => ?_, fun g j hj => ?_⟩
    · obtain ⟨y, hy, -⟩ := hi.start_id g j hj
      rw [List.getElem?_append_left (List.getElem?_eq_some_iff.1 hy).1] at hx
      exact hi.handler_done g x hx hx' j hj
    · obtain ⟨y, hy, rfl⟩ := hi.start_id g j hj
      exact ⟨y, by rw [List.getElem?_append_left (List.getElem?_eq_some_iff.1 hy).1, hy], rfl⟩
  | runStep g =>
    obtain ⟨-, m, effects, ⟨hg, rfl⟩ | ⟨e, hg, rfl⟩⟩ := step_runStep h
    · -- the handler of `g` returns
      have hstart : ∀ g' j : Nat, .handlerStart g' j ∈ f.log ++ [.handlerReturn g m.id] →
          .handlerStart g' j ∈ f.log := fun g' j h => by simpa using h
      refine ⟨fun g' x hx hx' j hj => ?_, fun g' j hj => ?_⟩
      · obtain ⟨y, hy, rfl⟩ := hi.start_id g' j (hstart g' j hj)
        rcases getElem?_set_cases hx with ⟨rfl, -⟩ | ⟨-, hx⟩
        · cases hg.symm.trans hy
          simp
        · cases hx.symm.trans hy
          exact List.mem_append_left _ (hi.handler_done g' _ hy hx' _ (hstart g' _ hj))
      · obtain ⟨y, hy, rfl⟩ := hi.start_id g' j (hstart g' j hj)
        obtain ⟨y', hy', hm⟩ := message_of_set (x := ⟨m, effects, false⟩) hg rfl hy
        exact ⟨y', hy', by rw [hm]⟩
    · -- goroutine `g` performs the effect `e`
      have hevents : ∀ g' j : Nat, .handlerStart g' j ∈ effectEvents g m.id e →
          g' = g ∧ j = m.id ∧ e.isCallHandler = true := fun g' j h => by
        cases e <;> simp_all [effectEvents, SubscriberEffect.isCallHandler]
      refine ⟨fun g' x hx hx' j hj => ?_, fun g' j hj => ?_⟩
      · simp only [runEffect, List.mem_append] at hj hx ⊢
        rcases getElem?_set_cases hx with ⟨rfl, rfl⟩ | ⟨hgg, hx⟩ <;> rcases hj with hj | hj
        · exact .inl (hi.handler_done g _ hg rfl j hj)
        · cases (hevents g j hj).2.2.symm.trans hx'
        · exact .inl (hi.handler_done g' x hx hx' j hj)
        · exact absurd (hevents g' j hj).1.symm hgg
      · simp only [runEffect, List.mem_append] at hj
        rcases hj with hj | hj
        · obtain ⟨y, hy, rfl⟩ := hi.start_id g' j hj
          obtain ⟨y', hy', hm⟩ := message_of_set (x := ⟨m, effects, e.isCallHandler⟩) hg rfl hy
          exact ⟨y', hy', by rw [hm]⟩
        · obtain ⟨rfl, rfl, -⟩ := hevents g' j hj
          obtain ⟨y', hy', hm⟩ := message_of_set (x := ⟨m, effects, e.isCallHandler⟩) hg rfl hg
          exact ⟨y', hy', by rw [hm]⟩

theorem queue_finished_step (hi : f.OrderInv) (h : step L f a = some f') :
    ∀ s ∈ f'.subs, ∀ r ∈ s.queue, ∃ i, Finished f'.log i r.goroutine r.origin := by
  obtain ⟨es, hlog, -⟩ := log_step L h
  have hold : ∀ s ∈ f.subs, ∀ r ∈ s.queue, ∃ i, Finished f'.log i r.goroutine r.origin :=
    fun s hs r hr => by
      obtain ⟨i, hf⟩ := hi.queue_finished s hs r hr
      exact ⟨i, hlog ▸ hf.append es⟩
  cases a with
  | take =>
    obtain ⟨m, ms, -, -, rfl⟩ := step_take h
    exact hold
  | subscribeSync ok =>
    obtain ⟨m, n, sr, -, ⟨-, rfl⟩ | ⟨-, rfl⟩⟩ := step_subscribeSync h
    · intro s hs r hr
      rcases List.mem_append.1 hs with hs | hs
      · exact hold s hs r hr
      · simp only [List.mem_singleton] at hs
        simp [hs] at hr
    · exact hold
  | publishMsg ok =>
    obtain ⟨m, n, sr, -, ⟨-, rfl⟩ | ⟨-, rfl⟩⟩ := step_publishMsg h <;> exact hold
  | nextMsg =>
    obtain ⟨m, n, i, s, -, hs, ⟨r, rs, hq, rfl⟩ | ⟨-, rfl⟩⟩ := step_nextMsg h
    · intro s' hs' r' hr'
      rcases List.mem_or_eq_of_mem_set hs' with hs' | rfl
      · exact hold s' hs' r' hr'
      · exact hold s (List.getElem?_mem hs) r' (by simp [hq, hr'])
    · exact hold
  | finish =>
    obtain ⟨m, d, n, sr, -, rfl⟩ := step_finish h
    exact hold
  | deliver =>
    obtain ⟨m, ms, -, -, rfl⟩ := step_deliver h
    exact hold
  | runStep g =>
    obtain ⟨-, m, effects, ⟨-, rfl⟩ | ⟨e, hg, rfl⟩⟩ := step_runStep h
    · exact hold
    · cases e with
      | publish subject data =>
        intro s hs r hr
        simp only [runEffect, effectSubs, publishReply, List.mem_map] at hs
        obtain ⟨s₀, hs₀, rfl⟩ := hs
        split at hr
        · rcases List.mem_append.1 hr with hr | hr
          · exact hold s₀ hs₀ r hr
          · -- the reply goroutine `g` publishes now, its handler returned if it was called
            rw [List.mem_singleton.1 hr]
            refine ⟨f.log.length, by simp [runEffect, effectEvents], fun i' hi' hs' => ?_⟩
            simp only [runEffect, effectEvents, List.getElem?_append_left hi'] at hs'
            have hret := hi.handler_done g _ hg rfl m.id (List.getElem?_mem hs')
            obtain ⟨i'', hi''⟩ := List.mem_iff_getElem?.1 hret
            exact ⟨i'', (List.getElem?_eq_some_iff.1 hi'').1,
              by simpa [runEffect, List.getElem?_append_left (List.getElem?_eq_some_iff.1 hi'').1]
                using hi''⟩
        · exact hold s₀ hs₀ r hr
      | _ => exact hold

theorem returned_finished_step (hi : f.OrderInv) (h : step L f a = some f') :
    ∀ (k j : Nat) (r : Reply) (out : List Nat),
      f'.log[k]? = some (Event.returned j (.acked r) out) →
        ∃ i, i < k ∧ Finished f'.log i r.goroutine r.origin := by
  obtain ⟨es, hlog, hes⟩ := log_step L h
  intro k j r out hk
  rw [hlog] at hk
  rcases getElem?_append_cases hk with ⟨-, hk⟩ | ⟨hk', hk⟩
  · obtain ⟨i, hik, hf⟩ := hi.returned_finished k j r out hk
    exact ⟨i, hik, hlog ▸ hf.append es⟩
  · obtain ⟨d, -, -, hr⟩ := hes _ hk
    obtain ⟨i, s, -, hs, hrq, -⟩ := hr r rfl
    obtain ⟨i', hf⟩ := hi.queue_finished s (List.getElem?_mem hs) r hrq
    exact ⟨i', by have := (List.getElem?_eq_some_iff.1 hf.1).1; omega, hlog ▸ hf.append es⟩

theorem orderInv_step (hi : f.OrderInv) (h : step L f a = some f') : f'.OrderInv :=
  have hp := published_step hi h
  have hh := handlersOk_step hi h
  ⟨counted_step L hi.counted h, ordered_step hi h, hp.1, hp.2, start_published_step hi h,
    queue_finished_step hi h, returned_finished_step hi h, hh.1, hh.2⟩

end Step

/-- When `messageDeliverNats` returned for message `j` with a reply published by a run of
`j`'s own handler, that run, goroutine `r.goroutine`, had finished before any handler on a
later message started: it had published its reply, after its method handler returned if it
had called it. -/
theorem handler_after_reply (pending : List Message) (acts : List FabricAction) {f : Fabric}
    (h : (start pending).run L acts = some f) {j j' g' k : Nat} {r : Reply} {out : List Nat}
    (hret : .returned j (.acked r) out ∈ f.log) (hown : r.origin = j)
    (hstart : f.log[k]? = some (Event.handlerStart g' j')) (hlt : j < j') :
    ∃ i, i < k ∧ Finished f.log i r.goroutine j := by
  have hi := run_invariant L OrderInv (fun _ _ _ hi h => orderInv_step hi h) acts
    (orderInv_start pending) h
  obtain ⟨k₁, hk₁⟩ := List.mem_iff_getElem?.1 hret
  obtain ⟨i₁, hi₁, hp⟩ := hi.start_published k g' j' hstart
  have h₁ := hi.ordered i₁ k₁ j j' _ _ hp hk₁ hlt
  obtain ⟨i, hi₀, hf⟩ := hi.returned_finished k₁ j r out hk₁
  exact ⟨i, by omega, hown ▸ hf⟩

/-- `central` pings `ship1` twice, and each reply comes in time. -/
def orderlyRun : List FabricAction :=
  [.take, .subscribeSync true, .publishMsg true, .deliver, .runStep 0, .runStep 0, .runStep 0,
    .runStep 0, .nextMsg, .finish, .take, .subscribeSync true, .publishMsg true, .deliver,
    .runStep 1, .runStep 1]

/-- The state after `orderlyRun`. -/
def orderly : Fabric := ((start [ping, ping]).run pingLink orderlyRun).getD (start [])

/-- In `orderlyRun` the handler of the second ping starts, at position 6, after goroutine 0,
the run on the first ping, finished. -/
theorem orderly_first_finished : ∃ i, i < 6 ∧ Finished orderly.log i 0 0 :=
  handler_after_reply pingLink [ping, ping] orderlyRun
    (show (start [ping, ping]).run pingLink orderlyRun = some orderly from rfl)
    (show Event.returned 0 (.acked ⟨[], 0, 0⟩) [] ∈ orderly.log by decide) rfl
    (show orderly.log[6]? = some (Event.handlerStart 1 1) by decide) (by decide)

/-- Two hellos on the NACK subject: the publisher publishes both without waiting, and the
handler of the second starts before the first has started. -/
def helloOvertakeRun : List FabricAction :=
  [.take, .subscribeSync true, .publishMsg true, .finish, .take, .subscribeSync true,
    .publishMsg true, .finish, .deliver, .deliver, .runStep 1, .runStep 1]

/-- Two pings on the ACK subject: the publisher gives up on the first while its handler runs,
and the handler of the second starts before the first has returned. -/
def pingOvertakeRun : List FabricAction :=
  [.take, .subscribeSync true, .publishMsg true, .deliver, .runStep 0, .runStep 0, .nextMsg,
    .finish, .take, .subscribeSync true, .publishMsg true, .deliver, .runStep 1, .runStep 1]

/-- The handler of message 1 starts before the handler of message 0 has returned, on a NACK
and on an ACK subject. -/
theorem handlers_overtake :
    ((start [hello, hello]).run helloLink helloOvertakeRun).map (·.log) =
        some [.published 0, .returned 0 .sent [], .published 1, .returned 1 .sent [],
          .handlerStart 1 1] ∧
      ((start [ping, ping]).run pingLink pingOvertakeRun).map (·.log) =
        some [.published 0, .handlerStart 0 0, .returned 0 .gaveUp [], .published 1,
          .handlerStart 1 1] := by
  decide

end Fabric

end Steward
