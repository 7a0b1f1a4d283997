import Steward.Deliver

/-!
# `Steward.Timeouts`: timeouts in seconds as `time.Duration`

A message carries its timeouts as whole seconds in Go `int`s. Two of them become a
`time.Duration` as `time.Second * time.Duration(t)`. One is the handler deadline that
`getContextForMethodTimeout` sets from `MethodTimeout`. The other is the wait for a reply
that `messageDeliverNats` passes to `NextMsg` from `Timeout` (`nextMsg_timeout`). A
`time.Duration` is an `int64` count of nanoseconds, and the product wraps around modulo
`2^64`.

`timeouts_exact_below_wrap` says what holds. Up to `maxDurationSeconds`, about 292 years,
both durations are exactly `t * 10^9` nanoseconds, never negative, and non-decreasing in
`t`. One second more and the product wraps to a negative duration
(`timeouts_wrap_negative`), which puts the deadline in the past.

Go's `int`, `int64` and `time.Duration` are `Int` here, with the wrap `toInt64` made
explicit where the code multiplies.
-/

set_option autoImplicit false

namespace Steward

/-- Go's `int64` arithmetic: the two's-complement value of `x` modulo `2^64`. -/
def toInt64 (x : Int) : Int :=
  (x + 9223372036854775808) % 18446744073709551616 - 9223372036854775808

/-- A value in the range of `int64` is its own `int64`. -/
theorem toInt64_of_range {x : Int} (h₀ : -9223372036854775808 ≤ x)
    (h₁ : x ≤ 9223372036854775807) : toInt64 x = x := by
  unfold toInt64; omega

/-- `time.Second`, in nanoseconds. -/
def timeSecond : Int := 1000000000

/-- `time.Hour`, in nanoseconds. -/
def timeHour : Int := 3600000000000

/-- `time.Duration(t)` of a Go `int`, which is 64 bits wide: the same `int64`. -/
def timeDuration (t : Int) : Int := toInt64 t

/-- `time.Second * time.Duration(t)`: `t` seconds as a `time.Duration`, the `int64` product,
as both timeouts compute it. -/
def secondsDuration (t : Int) : Int := toInt64 (timeSecond * timeDuration t)

/-- The timeout `getContextForMethodTimeout` hands to `context.WithTimeout`, whose deadline
is that long after now: 200 years for `MethodTimeout = -1`, and `MethodTimeout` seconds
otherwise. `time.Hour*time.Duration(8760*200)` is a constant expression, which Go evaluates
exactly when it compiles. -/
def getContextForMethodTimeout (message : Message) : Int :=
  if message.methodTimeout = -1 then timeHour * (8760 * 200)
  else secondsDuration message.methodTimeout

/-- The wait `subReply.NextMsg(time.Second * time.Duration(message.Timeout))` of
`messageDeliverNats`. -/
def ackWait (message : Message) : Int := secondsDuration message.timeout

/-- Every `NextMsg` call of `messageDeliverNats` is made with the message's `Timeout`, so it
waits `ackWait message`. -/
theorem nextMsg_timeout {α : Type} (proc : Process) (message : Message) :
    ∀ (attempts : List (Attempt α)) (st : DeliverState α) {t : Int} {r : Option α},
      .nextMsg t r ∈ (messageDeliverNats.loop proc message st attempts).1 →
        t = message.timeout
  | [], _, _, _, h => by simp [messageDeliverNats.loop] at h
  | a :: as, st, t, r, h => by
    have hpass : .nextMsg t r ∈ (deliverIteration proc message st a).1 → t = message.timeout := by
      unfold deliverIteration
      split_ifs <;> simp_all
    rw [messageDeliverNats.loop] at h
    split at h
    · exact hpass h
    · rcases List.mem_append.1 h with h | h
      · exact hpass h
      · exact nextMsg_timeout proc message as _ h

/-- The largest number of seconds whose duration fits in an `int64`. -/
def maxDurationSeconds : Int := 9223372036

/-- Up to `maxDurationSeconds`, `t` seconds are exactly `t * 10^9` nanoseconds. -/
theorem secondsDuration_exact {t : Int} (h₀ : 0 ≤ t) (h₁ : t ≤ maxDurationSeconds) :
    secondsDuration t = t * 1000000000 := by
  unfold maxDurationSeconds at h₁
  have ht : toInt64 t = t := toInt64_of_range (by omega) (by omega)
  rw [secondsDuration, timeDuration, ht, timeSecond, toInt64_of_range (by omega) (by omega)]
  omega

/-- Both timeouts, for every `t` from 0 to `maxDurationSeconds`: the duration is exactly
`t * 10^9` nanoseconds, it is not negative, so the deadline is not in the past, and it does
not decrease as `t` grows. -/
theorem timeouts_exact_below_wrap :
    (∀ m m' : Message, 0 ≤ m.methodTimeout → m.methodTimeout ≤ m'.methodTimeout →
        m'.methodTimeout ≤ maxDurationSeconds →
        getContextForMethodTimeout m = m.methodTimeout * 1000000000 ∧
          0 ≤ getContextForMethodTimeout m ∧
          getContextForMethodTimeout m ≤ getContextForMethodTimeout m') ∧
      ∀ m m' : Message, 0 ≤ m.timeout → m.timeout ≤ m'.timeout → m'.timeout ≤ maxDurationSeconds →
        ackWait m = m.timeout * 1000000000 ∧ 0 ≤ ackWait m ∧ ackWait m ≤ ackWait m' := by
  refine ⟨fun m m' h₀ hle h₁ => ?_, fun m m' h₀ hle h₁ => ?_⟩
  · have hm : getContextForMethodTimeout m = m.methodTimeout * 1000000000 := by
      rw [getContextForMethodTimeout, if_neg (by omega), secondsDuration_exact h₀ (Int.le_trans hle h₁)]
    have hm' : getContextForMethodTimeout m' = m'.methodTimeout * 1000000000 := by
      rw [getContextForMethodTimeout, if_neg (by omega), secondsDuration_exact (Int.le_trans h₀ hle) h₁]
    exact ⟨hm, by omega, by omega⟩
  · have hm : ackWait m = m.timeout * 1000000000 := secondsDuration_exact h₀ (Int.le_trans hle h₁)
    have hm' : ackWait m' = m'.timeout * 1000000000 := secondsDuration_exact (Int.le_trans h₀ hle) h₁
    exact ⟨hm, by omega, by omega⟩

/-- One second past `maxDurationSeconds` both durations wrap around to a negative value:
the handler's deadline is already past, and the wait for a reply is shorter than that of
a one-second timeout. -/
theorem timeouts_wrap_negative :
    getContextForMethodTimeout { Message.zero with methodTimeout := 9223372037 } < 0 ∧
      ackWait { Message.zero with timeout := 9223372037 } < 0 ∧
      ackWait { Message.zero with timeout := 9223372037 } <
        ackWait { Message.zero with timeout := 1 } := by
  decide

end Steward
