import Steward.Ingress

/-!
# `Steward.ReplyMessage`: the reply a handler's output becomes

`newReplyMessage` turns the output of a method handler into a new message back to the node
the request came from, and puts it on the process's channel to the ring buffer. The sentinel
`ReplyMethod = "REQNone"` suppresses the reply, and an empty `ReplyMethod` defaults to
`REQToFileAppend`. The reply goes to the request's `FromNode`, comes from its `ToNode`,
carries the output as data, and keeps a copy of the request, without its data, in
`PreviousMessage` (`replyMessage_reverses`).

`newReplyMessage_of_reply_method` gives the path that works: a request with a `FromNode`,
whose reply method is empty or one the client offers (`GetReplyMethods`) other than
`REQNone`, gets one valid pair back to the node it came from.
On the other path, a request without a `FromNode` or with a reply method the table lacks,
the code reports the error and then sends the zero pair anyway
(`newReplyMessage_enqueues_zero_sam`). That pair has neither `ToNode` nor `Method`.

The function writes to two channels of the process, the error kernel's and the ring
buffer's. The model returns those writes in order, as `ReplyEffect`s.
-/

set_option autoImplicit false

namespace Steward

/-- One write of `newReplyMessage` to a channel of the process. -/
inductive ReplyEffect where
  /-- `proc.errorKernel.errSend(proc, message, er)`. -/
  | errSend (e : ErrSend)
  /-- `proc.toRingbufferCh <- sams`. -/
  | toRingbuffer (sams : List SubjectAndMessage)

/-- The request with the default reply method: `REQToFileAppend` when `ReplyMethod` is
empty. -/
def withReplyMethodDefault (message : Message) : Message :=
  if message.replyMethod = "" then { message with replyMethod := REQToFileAppend } else message

/-- `newMsg`, the reply to `message` (whose `ReplyMethod` is already defaulted) with the
handler's output `outData`. `thisMsg` is the request without its data. -/
def replyMessage (message : Message) (outData : List UInt8) : Message :=
  let thisMsg := { message with data := [] }
  { Message.zero with
    toNode := message.fromNode
    fromNode := message.toNode
    data := outData
    method := message.replyMethod
    methodArgs := message.replyMethodArgs
    methodTimeout := message.replyMethodTimeout
    isReply := true
    ackTimeout := message.replyACKTimeout
    retries := message.replyRetries
    directory := message.directory
    fileName := message.fileName
    previousMessage := some thisMsg }

/-- `newReplyMessage`: its writes, in order. On an error of `newSubjectAndMessage` the `sam`
it sends is the zero value that function returned; the `%v` of the request at the end of
the error text is not spelled out. -/
def newReplyMessage (message : Message) (outData : List UInt8) : List ReplyEffect :=
  if message.replyMethod = "REQNone" then []
  else
    let message := withReplyMethodDefault message
    match newSubjectAndMessage (replyMessage message outData) with
    | .ok sam => [.toRingbuffer [sam]]
    | .error err =>
      [.errSend ⟨message, "error: newSubjectAndMessage : " ++ err ++ ", message: "⟩,
        .toRingbuffer [.zero]]

/-- Every reply `newReplyMessage` builds is marked as a reply and carries the request, data
stripped, with `FromNode` and `ToNode` reversed, as the spec asks of a reply. -/
theorem replyMessage_reverses (message : Message) (outData : List UInt8) :
    (replyMessage message outData).isReply = true ∧
      ∃ p, (replyMessage message outData).previousMessage = some p ∧
        p.fromNode = (replyMessage message outData).toNode ∧
        p.toNode = (replyMessage message outData).fromNode ∧ p.data = [] :=
  ⟨rfl, _, rfl, rfl, rfl, rfl⟩

/-- A request from a node whose reply method is empty, or one the client offers other than
`REQNone`, gets its reply onto the ring buffer as one valid pair, addressed back to the node
it came from. -/
theorem newReplyMessage_of_reply_method (message : Message) (outData : List UInt8)
    (hf : message.fromNode ≠ "")
    (hm : message.replyMethod = "" ∨
      message.replyMethod ∈ getReplyMethods ∧ message.replyMethod ≠ REQNone) :
    ∃ sam, newReplyMessage message outData = [.toRingbuffer [sam]] ∧
      Persistable sam.message ∧ sam.message.toNode = message.fromNode := by
  have hnone : message.replyMethod ≠ REQNone := by
    rcases hm with h | ⟨-, h⟩
    · rw [h]; decide
    · exact h
  have hh : (getHandler (withReplyMethodDefault message).replyMethod).isSome := by
    rcases hm with h | ⟨h₁, h₂⟩
    · rw [withReplyMethodDefault, if_pos h]
      exact (by decide : (getHandler REQToFileAppend).isSome = true)
    · rw [withReplyMethodDefault, if_neg (fun h => by rw [h] at h₁; exact absurd h₁ (by decide))]
      exact getHandler_of_mem_getReplyMethods _ h₁ h₂
  have hfrom : (withReplyMethodDefault message).fromNode = message.fromNode := by
    unfold withReplyMethodDefault; split <;> rfl
  obtain ⟨h, hget⟩ := Option.isSome_iff_exists.1 hh
  have ht : targetSam (replyMessage (withReplyMethodDefault message) outData) =
      some ⟨⟨message.fromNode, h.event, (withReplyMethodDefault message).replyMethod⟩,
        replyMessage (withReplyMethodDefault message) outData⟩ := by
    simp [targetSam, replyMessage, hget, hfrom, hf]
  have hso := newSubjectAndMessage_toOption (replyMessage (withReplyMethodDefault message) outData)
  unfold newReplyMessage
  rw [if_neg (show message.replyMethod ≠ "REQNone" from hnone)]
  dsimp only
  cases hn : newSubjectAndMessage (replyMessage (withReplyMethodDefault message) outData) with
  | error e => simp [hn, Except.toOption, ht] at hso
  | ok sam =>
    simp only [hn, Except.toOption, ht, Option.some.injEq] at hso
    subst hso
    exact ⟨_, rfl, persistable_of_targetSam ht, hfrom⟩

/-- A command from `central` to `ship1` with no reply method. -/
def centralRequest : Message :=
  { Message.zero with toNode := "ship1", fromNode := "central", method := REQCliCommand }

/-- The reply to `centralRequest` is one valid pair addressed to `central`. -/
theorem centralRequest_reply :
    ∃ sam, newReplyMessage centralRequest [] = [.toRingbuffer [sam]] ∧
      Persistable sam.message ∧ sam.message.toNode = "central" :=
  newReplyMessage_of_reply_method centralRequest [] (by decide) (.inl rfl)

/-- A request to `ship1` with no `FromNode`. -/
def anonymousRequest : Message := { Message.zero with toNode := "ship1", method := REQCliCommand }

/-- The reply to `anonymousRequest` has no `ToNode`: `newReplyMessage` reports the error and
still sends the zero pair, which has no `ToNode` and no method of the table. -/
theorem newReplyMessage_enqueues_zero_sam :
    newReplyMessage anonymousRequest [] =
        [.errSend ⟨{ anonymousRequest with replyMethod := REQToFileAppend },
            "error: newSubjectAndMessage : error: newSubjectAndMessage: ToNode empty: , message: "⟩,
          .toRingbuffer [.zero]] ∧
      ¬ Persistable SubjectAndMessage.zero.message :=
  ⟨rfl, by decide⟩

end Steward
