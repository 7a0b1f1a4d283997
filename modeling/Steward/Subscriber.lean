import Steward.Process

/-!
# `Steward.Subscriber`: what `subscriberHandler` does with a delivery

`subscriberHandler` decodes the payload of a delivery, looks up the handler of the
message's `Method` with `CheckIfExists`, checks the allowlist on ACK subjects, calls the
handler, and on ACK subjects publishes the handler's output (or the rejection text) on
the delivery's reply subject. The model returns everything the handler does, in order:
log lines, the handler call, the publish, the test error it sends towards the error
kernel, and the runtime panic of a call on the nil handler, after which nothing else
happens.

The decoding is `gobDec.Decode(&message)`. The model takes the message value that the
decoder leaves and whether it failed; the code goes on with that value either way. Every
`Message` is what some payload decodes to, so a statement over every `message` is a
statement over every payload that decodes.

`dispatch` is the point the handler reaches on its way to the method handler: the call of
a handler `h`, the rejection of an ACK sender that is not allowed, the nil-handler panic,
or a subject kind that is neither ACK nor NACK. `subscriberHandler_eq` factors the
handler through it, and the theorems below read the handler through that equation:

* `mem_callHandler_iff`: a handler runs exactly when `dispatch` says so, on the decoded
  message;
* `callHandler_allowed_of_ack` and `reject_of_not_allowed`: on an ACK subject a handler
  runs only for an allowed sender, and any other sender gets the rejection reply;
* `dispatch_allowedReceivers_of_not_ack`: off an ACK subject the allowlist is never read;
* `mem_nilHandlerPanic_iff`: when the nil handler is called.
-/

set_option autoImplicit false

namespace Steward

/-- The fields of the broker's `*nats.Msg` that the subscriber reads. -/
structure NatsMsg where
  subject : String
  reply : String
  data : List UInt8

/-- One thing `subscriberHandler` does, in the order it does them. -/
inductive SubscriberEffect where
  /-- `log.Printf("error: gob decoding failed: ...")`. -/
  | logDecodeFailed
  /-- `log.Printf("info: subscriberHandler: ACK Message received ...")`, with the subject
  name. -/
  | logReceived (subjectName : String)
  /-- `log.Printf("error: subscriberHandler: method type not available: ...")`. The line
  prints the subject's kind, not the method it failed to find. -/
  | logMethodNotAvailable (kind : CommandOrEvent)
  /-- `mf.handler(s, p, message, thisNode)` on a handler of the table. -/
  | callHandler (h : MethodHandler) (message : Message)
  /-- `mf.handler(...)` on the nil handler that `CheckIfExists` returned: a nil pointer
  dereference, which ends the program. -/
  | nilHandlerPanic
  /-- `log.Printf("error: subscriberHandler: failed to execute event: ...")`. -/
  | logHandlerFailed (err : String)
  /-- `log.Printf("info: we don't allow receiving from: ...")`. -/
  | logNotAllowed (fromNode : Node) (subject : Subject)
  /-- `natsConn.Publish(subject, data)`. -/
  | publish (subject : String) (data : List UInt8)
  /-- `sendErrorLogMessage(s.newMessagesCh, node(thisNode), err)`. -/
  | sendErrorLogMessage (node : Node) (err : String)
  /-- `log.Printf("info: did not find that specific type of command: ...")`. -/
  | logUnknownKind (kind : CommandOrEvent)

/-- The effects that are only a line in the log. -/
def SubscriberEffect.isLog : SubscriberEffect → Bool
  | .logDecodeFailed | .logReceived _ | .logMethodNotAvailable _ | .logHandlerFailed _
  | .logNotAllowed _ _ | .logUnknownKind _ => true
  | _ => false

/-- What a method handler returns, `(out, err)` with `none` for a nil error. The handlers
lie outside the core, so their results are a parameter. -/
abbrev HandlerRun := MethodHandler → Process → Message → Node → List UInt8 × Option String

/-- `methodREQInitial.handler`, the one handler body in this part of the source: the reply
`confirmed from: <node>: <ID>`, and no error. -/
def methodREQInitial.handler (_proc : Process) (message : Message) (node : Node) :
    List UInt8 × Option String :=
  (bytesOf ("confirmed from: " ++ node ++ ": " ++ toString message.id), none)

/-- The error the ACK branch sends after every reply, in the block the source marks
`TESTING`. -/
def testingError : String := "error: some testing error we want to send out"

/-- The rejection payload `[]byte("not allowed from " + message.FromNode)`. -/
def notAllowedFrom (fromNode : Node) : List UInt8 := bytesOf ("not allowed from " ++ fromNode)

/-- The log line of a handler error, when there is one. -/
def handlerErrorLog : Option String → List SubscriberEffect
  | some e => [.logHandlerFailed e]
  | none => []

/-- `subscriberHandler`, given the message the decoder left in `message` and whether
`Decode` failed. -/
def subscriberHandler (run : HandlerRun) (p : Process) (thisNode : Node) (msg : NatsMsg)
    (s : Server) (message : Message) (decodeErr : Bool) : List SubscriberEffect :=
  (if decodeErr then [.logDecodeFailed] else []) ++
  if isACK p.subject.commandOrEvent then
    let mf := s.methodsAvailable.checkIfExists message.method
    .logReceived p.subject.name ::
      ((if mf.isNone then [.logMethodNotAvailable p.subject.commandOrEvent] else []) ++
      if message.fromNode ∈ p.allowedReceivers ∨ "*" ∈ p.allowedReceivers then
        match mf with
        | none => [.nilHandlerPanic]
        | some h =>
          .callHandler h message :: (handlerErrorLog (run h p message thisNode).2 ++
            [.publish msg.reply (run h p message thisNode).1,
             .sendErrorLogMessage thisNode testingError])
      else
        [.logNotAllowed message.fromNode p.subject,
         .publish msg.reply (notAllowedFrom message.fromNode),
         .sendErrorLogMessage thisNode testingError])
  else if isNACK p.subject.commandOrEvent then
    let mf := s.methodsAvailable.checkIfExists message.method
    .logReceived p.subject.name ::
      ((if mf.isNone then [.logMethodNotAvailable p.subject.commandOrEvent] else []) ++
      match mf with
      | none => [.nilHandlerPanic]
      | some h => .callHandler h message :: handlerErrorLog (run h p message thisNode).2)
  else [.logUnknownKind p.subject.commandOrEvent]

/-! ### The dispatch point -/

/-- Where `subscriberHandler` goes after the lookup. -/
inductive Dispatch where
  /-- The method handler `h` runs. -/
  | call (h : MethodHandler)
  /-- An ACK subject and a sender that is not allowed: the rejection reply. -/
  | reject
  /-- The nil handler is called. -/
  | panic
  /-- A kind that is neither ACK nor NACK: one log line. -/
  | ignore
  deriving DecidableEq, Repr

/-- A call of the handler the lookup returned: a handler of the table runs, the nil
handler panics. -/
def callOrPanic : Option MethodHandler → Dispatch
  | some h => .call h
  | none => .panic

/-- The decision `subscriberHandler` takes for `message` on process `p`. -/
def dispatch (p : Process) (ma : MethodsAvailable) (message : Message) : Dispatch :=
  if isACK p.subject.commandOrEvent then
    if message.fromNode ∈ p.allowedReceivers ∨ "*" ∈ p.allowedReceivers then
      callOrPanic (ma.checkIfExists message.method)
    else .reject
  else if isNACK p.subject.commandOrEvent then
    callOrPanic (ma.checkIfExists message.method)
  else .ignore

/-- The log lines `subscriberHandler` writes before its dispatch point. -/
def lookupEffects (p : Process) (ma : MethodsAvailable) (message : Message)
    (decodeErr : Bool) : List SubscriberEffect :=
  (if decodeErr then [.logDecodeFailed] else []) ++
  if isACK p.subject.commandOrEvent || isNACK p.subject.commandOrEvent then
    .logReceived p.subject.name ::
      if (ma.checkIfExists message.method).isNone then
        [.logMethodNotAvailable p.subject.commandOrEvent]
      else []
  else []

/-- After a handler call: on an ACK subject, the publish of its output on the reply subject
and the test error. -/
def replyEffects (ack : Bool) (reply : String) (out : List UInt8) (thisNode : Node) :
    List SubscriberEffect :=
  if ack then [.publish reply out, .sendErrorLogMessage thisNode testingError] else []

/-- What `subscriberHandler` does from the dispatch point on. -/
def dispatchEffects (run : HandlerRun) (p : Process) (thisNode : Node) (msg : NatsMsg)
    (message : Message) : Dispatch → List SubscriberEffect
  | .call h =>
    .callHandler h message :: (handlerErrorLog (run h p message thisNode).2 ++
      replyEffects (isACK p.subject.commandOrEvent) msg.reply (run h p message thisNode).1
        thisNode)
  | .reject =>
    [.logNotAllowed message.fromNode p.subject,
     .publish msg.reply (notAllowedFrom message.fromNode),
     .sendErrorLogMessage thisNode testingError]
  | .panic => [.nilHandlerPanic]
  | .ignore => [.logUnknownKind p.subject.commandOrEvent]

section
variable (run : HandlerRun) (p : Process) (thisNode : Node) (msg : NatsMsg) (s : Server)
  (message : Message) (decodeErr : Bool)

/-- `subscriberHandler` is its log lines, then the effects of its dispatch decision. -/
theorem subscriberHandler_eq :
    subscriberHandler run p thisNode msg s message decodeErr =
      lookupEffects p s.methodsAvailable message decodeErr ++
        dispatchEffects run p thisNode msg message (dispatch p s.methodsAvailable message) := by
  unfold subscriberHandler lookupEffects dispatch
  by_cases ha : message.fromNode ∈ p.allowedReceivers ∨ "*" ∈ p.allowedReceivers <;>
    cases hk : isACK p.subject.commandOrEvent <;>
    cases hn : isNACK p.subject.commandOrEvent <;>
    cases hm : s.methodsAvailable.checkIfExists message.method <;>
    simp [ha, dispatchEffects, replyEffects, callOrPanic, hk, hn]

/-- Everything before the dispatch point is a log line. -/
theorem isLog_of_mem_lookupEffects (ma : MethodsAvailable) {e : SubscriberEffect}
    (he : e ∈ lookupEffects p ma message decodeErr) : e.isLog := by
  unfold lookupEffects at he
  split_ifs at he <;> simp at he <;> rcases he with rfl | rfl | rfl <;> rfl

/-- A non-log effect of `subscriberHandler` comes from its dispatch decision. -/
theorem mem_dispatchEffects_of_not_isLog {e : SubscriberEffect} (hl : e.isLog = false) :
    e ∈ subscriberHandler run p thisNode msg s message decodeErr ↔
      e ∈ dispatchEffects run p thisNode msg message (dispatch p s.methodsAvailable message) := by
  rw [subscriberHandler_eq, List.mem_append]
  exact or_iff_right fun he => by
    simpa [hl] using isLog_of_mem_lookupEffects p message decodeErr _ he

@[simp] theorem callHandler_not_mem_handlerErrorLog (h : MethodHandler) (m : Message)
    (e : Option String) : SubscriberEffect.callHandler h m ∉ handlerErrorLog e := by
  cases e <;> simp [handlerErrorLog]

@[simp] theorem nilHandlerPanic_not_mem_handlerErrorLog (e : Option String) :
    SubscriberEffect.nilHandlerPanic ∉ handlerErrorLog e := by
  cases e <;> simp [handlerErrorLog]

@[simp] theorem publish_not_mem_handlerErrorLog (sub : String) (d : List UInt8)
    (e : Option String) : SubscriberEffect.publish sub d ∉ handlerErrorLog e := by
  cases e <;> simp [handlerErrorLog]

@[simp] theorem callHandler_not_mem_replyEffects (h : MethodHandler) (m : Message)
    (ack : Bool) (reply : String) (out : List UInt8) (thisNode : Node) :
    SubscriberEffect.callHandler h m ∉ replyEffects ack reply out thisNode := by
  cases ack <;> simp [replyEffects]

@[simp] theorem nilHandlerPanic_not_mem_replyEffects (ack : Bool) (reply : String)
    (out : List UInt8) (thisNode : Node) :
    SubscriberEffect.nilHandlerPanic ∉ replyEffects ack reply out thisNode := by
  cases ack <;> simp [replyEffects]

/-- A handler runs exactly when the dispatch decision is a call of it, and it runs on the
decoded message. -/
theorem mem_callHandler_iff (h : MethodHandler) (m : Message) :
    .callHandler h m ∈ subscriberHandler run p thisNode msg s message decodeErr ↔
      dispatch p s.methodsAvailable message = .call h ∧ m = message := by
  rw [mem_dispatchEffects_of_not_isLog run p thisNode msg s message decodeErr
    (e := .callHandler h m) rfl]
  cases dispatch p s.methodsAvailable message <;> simp [dispatchEffects]
  exact fun _ => eq_comm

/-- The nil handler is called exactly when the dispatch decision is the panic. -/
theorem mem_nilHandlerPanic_iff :
    .nilHandlerPanic ∈ subscriberHandler run p thisNode msg s message decodeErr ↔
      dispatch p s.methodsAvailable message = .panic := by
  rw [mem_dispatchEffects_of_not_isLog run p thisNode msg s message decodeErr
    (e := .nilHandlerPanic) rfl]
  cases dispatch p s.methodsAvailable message <;> simp [dispatchEffects]

end

/-! ### What the dispatch decision depends on -/

/-- The decision is a call of `h` exactly when the table holds `h` for the message's own
method, and either the subject is ACK and the sender is allowed, or the subject is NACK. -/
theorem dispatch_eq_call_iff (p : Process) (ma : MethodsAvailable) (message : Message)
    (h : MethodHandler) :
    dispatch p ma message = .call h ↔
      ma.checkIfExists message.method = some h ∧
        (isACK p.subject.commandOrEvent = true ∧
            (message.fromNode ∈ p.allowedReceivers ∨ "*" ∈ p.allowedReceivers) ∨
          isACK p.subject.commandOrEvent = false ∧ isNACK p.subject.commandOrEvent = true) := by
  unfold dispatch
  cases hm : ma.checkIfExists message.method <;>
    cases isACK p.subject.commandOrEvent <;> cases isNACK p.subject.commandOrEvent <;>
    by_cases ha : message.fromNode ∈ p.allowedReceivers ∨ "*" ∈ p.allowedReceivers <;>
    simp [callOrPanic, ha, eq_comm]

/-- The nil handler is called exactly when the table lacks the message's method and the
code reaches the call: on a NACK subject always, on an ACK subject for an allowed
sender. -/
theorem dispatch_eq_panic_iff (p : Process) (ma : MethodsAvailable) (message : Message) :
    dispatch p ma message = .panic ↔
      ma.checkIfExists message.method = none ∧
        (isACK p.subject.commandOrEvent = true ∧
            (message.fromNode ∈ p.allowedReceivers ∨ "*" ∈ p.allowedReceivers) ∨
          isACK p.subject.commandOrEvent = false ∧ isNACK p.subject.commandOrEvent = true) := by
  unfold dispatch
  cases hm : ma.checkIfExists message.method <;>
    cases isACK p.subject.commandOrEvent <;> cases isNACK p.subject.commandOrEvent <;>
    by_cases ha : message.fromNode ∈ p.allowedReceivers ∨ "*" ∈ p.allowedReceivers <;>
    simp [callOrPanic, ha]

/-- Off ACK subjects the decision does not read the allowlist. -/
theorem dispatch_allowedReceivers_of_not_ack (p : Process) (ma : MethodsAvailable)
    (message : Message) (l : List Node) (hk : isACK p.subject.commandOrEvent = false) :
    dispatch { p with allowedReceivers := l } ma message = dispatch p ma message := by
  simp [dispatch, hk]

section
variable {run : HandlerRun} {p : Process} {thisNode : Node} {msg : NatsMsg} {s : Server}
  {message : Message} {decodeErr : Bool}

/-- On an ACK subject a handler runs only for a sender that the allowlist names, or when
it holds `"*"`. -/
theorem callHandler_allowed_of_ack {h : MethodHandler} {m : Message}
    (hk : isACK p.subject.commandOrEvent = true)
    (hc : .callHandler h m ∈ subscriberHandler run p thisNode msg s message decodeErr) :
    message.fromNode ∈ p.allowedReceivers ∨ "*" ∈ p.allowedReceivers := by
  obtain ⟨hd, -⟩ := (mem_callHandler_iff run p thisNode msg s message decodeErr h m).1 hc
  rcases ((dispatch_eq_call_iff p _ _ h).1 hd).2 with ⟨-, ha⟩ | ⟨hk', -⟩
  · exact ha
  · simp [hk] at hk'

/-- On an ACK subject a sender that the allowlist does not admit runs no handler, and the
reply subject gets `"not allowed from <FromNode>"`. -/
theorem reject_of_not_allowed (hk : isACK p.subject.commandOrEvent = true)
    (ha : ¬(message.fromNode ∈ p.allowedReceivers ∨ "*" ∈ p.allowedReceivers)) :
    (∀ h m, .callHandler h m ∉ subscriberHandler run p thisNode msg s message decodeErr) ∧
      .publish msg.reply (notAllowedFrom message.fromNode) ∈
        subscriberHandler run p thisNode msg s message decodeErr := by
  have hd : dispatch p s.methodsAvailable message = .reject := by simp [dispatch, hk, ha]
  refine ⟨fun h m hc => ?_, ?_⟩
  · rw [mem_callHandler_iff, hd] at hc
    cases hc.1
  · rw [mem_dispatchEffects_of_not_isLog run p thisNode msg s message decodeErr
      (e := .publish msg.reply (notAllowedFrom message.fromNode)) rfl, hd]
    simp [dispatchEffects]

end

/-! ### The subscribers of the counterexamples -/

/-- A server on `ship1` with the method table of `GetMethodsAvailable`. -/
def ship1Server : Server := ⟨fun _ => none, 2, getMethodsAvailable, "ship1"⟩

/-- The `REQHello` subscriber of `ship1`, a NACK subject, allowing only `central`. -/
def helloSubscriber : Process :=
  { messageID := 0, subject := ⟨"ship1", EventNACK, REQHello⟩, node := "ship1",
    processID := 1, processKind := .subscriber, allowedReceivers := ["central"] }

/-- The `REQPing` subscriber of `ship1`, an ACK subject, allowing only `central`. -/
def pingSubscriber : Process :=
  { messageID := 0, subject := ⟨"ship1", EventACK, REQPing⟩, node := "ship1",
    processID := 2, processKind := .subscriber, allowedReceivers := ["central"] }

/-- A message to `ship1` from `fromNode` naming `method`, every other field zero. -/
def messageFrom (fromNode : Node) (method : Method) : Message :=
  { Message.zero with toNode := "ship1", fromNode := fromNode, method := method }

/-- On the NACK `REQHello` subject that allows only `central`, a `REQHello` from `ship9`
runs the Hello handler: the NACK branch calls `mf.handler` without the allowlist check
that the ACK branch makes. -/
theorem helloSubscriber_runs_handler_for_ship9 (run : HandlerRun) (msg : NatsMsg)
    (decodeErr : Bool) :
    .callHandler ⟨"methodREQHello", EventNACK⟩ (messageFrom "ship9" REQHello) ∈
        subscriberHandler run helloSubscriber "ship1" msg ship1Server
          (messageFrom "ship9" REQHello) decodeErr ∧
      "ship9" ∉ helloSubscriber.allowedReceivers ∧ "*" ∉ helloSubscriber.allowedReceivers :=
  ⟨(mem_callHandler_iff _ _ _ _ _ _ _ _ _).2 ⟨by decide, rfl⟩, by decide, by decide⟩

/-- Method handlers that return no output and no error. -/
def noOutput : HandlerRun := fun _ _ _ _ => ([], none)

/-- On the ACK `REQPing` subject of `ship1`, whose allowlist admits `central` for pings, a
message from `central` naming `REQCliCommand` runs the CLI command handler, which the
table does not give for `REQPing`: the lookup reads the message's `Method`, never the
subject's, so the allowlist of the ping subject admits a CLI command. -/
theorem pingSubscriber_runs_cliCommand (run : HandlerRun) (msg : NatsMsg) (decodeErr : Bool) :
    .callHandler ⟨"methodREQCliCommand", EventACK⟩ (messageFrom "central" REQCliCommand) ∈
        subscriberHandler run pingSubscriber "ship1" msg ship1Server
          (messageFrom "central" REQCliCommand) decodeErr ∧
      getMethodsAvailable.checkIfExists pingSubscriber.subject.method ≠
        some ⟨"methodREQCliCommand", EventACK⟩ :=
  ⟨(mem_callHandler_iff _ _ _ _ _ _ _ _ _).2 ⟨by decide, rfl⟩, by decide⟩

/-- On the NACK `REQHello` subject, a message naming a method the table lacks calls the
nil handler: the lookup failure is logged and the code goes on to `mf.handler`. -/
theorem helloSubscriber_unknown_method_panics (run : HandlerRun) (msg : NatsMsg)
    (decodeErr : Bool) :
    .nilHandlerPanic ∈ subscriberHandler run helloSubscriber "ship1" msg ship1Server
      (messageFrom "central" "REQFoo") decodeErr :=
  (mem_nilHandlerPanic_iff _ _ _ _ _ _ _).2 (by decide)

end Steward
