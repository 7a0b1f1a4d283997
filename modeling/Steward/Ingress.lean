import Steward.Methods

/-!
# `Steward.Ingress`: from parsed messages to subject-and-message pairs

Every ingress reader hands the bytes it read to `convertBytesToSAMs`. That function parses
them into a list of messages, expands the addressing with `checkMessageToNodes`, and pairs
each message with its subject with `newSubjectAndMessage`. Whatever it drops, it reports to
the error kernel. The ring buffer then persists the pairs it returns.

`checkMessageToNodes` keeps a message with `ToNode` set as it is. A message with only
`ToNodes` becomes one message per listed node, each with that node as `ToNode` and no
`ToNodes` left. A message with neither is dropped. This is the spec's fan-out, `fanOut`.
`newSubjectAndMessage` accepts a message exactly when its `ToNode` is set and its method has
an entry in the method table. The subject is the node, the event the table declares for the
method, and the method: `targetSam`. `convertBytesToSAMs_targets` puts the two together. For
every parsed list, the pairs returned are the valid targets of the fan-out, in input order,
each once, and every one of them satisfies the invariant of a persisted message
(`Persistable`).

The parser is `yaml.Unmarshal`, a library function. It is a parameter of
`convertBytesToSAMs`, so the statements hold for whatever it returns.
-/

set_option autoImplicit false

namespace Steward

/-- `subjectAndMessage`: a message with the subject it is published on. -/
structure SubjectAndMessage where
  subject : Subject
  message : Message

/-- The zero value `subjectAndMessage{}`. -/
def SubjectAndMessage.zero : SubjectAndMessage := ⟨⟨"", "", ""⟩, Message.zero⟩

/-- A call `errorKernel.errSend(proc, message, err)`: the message handed along and the text
of the error. Where the format string prints a struct with `%v`, the text stops before the
verb. -/
structure ErrSend where
  message : Message
  err : String

/-- The invariant the spec puts on every persisted message: `ToNode ≠ ""`, and `Method` has
an entry in the method table. -/
def Persistable (m : Message) : Prop := m.toNode ≠ "" ∧ (getHandler m.method).isSome

instance (m : Message) : Decidable (Persistable m) := inferInstanceAs (Decidable (_ ∧ _))

/-- The empty method has no entry in the table. -/
theorem getHandler_empty : getHandler "" = none := by decide

/-! ### The functions -/

/-- `newSubjectAndMessage`: the subject of a message, from the handler the table holds for
its method. The `%+v` and `%v` of the message in the last two errors are not spelled out. -/
def newSubjectAndMessage (m : Message) : Except String SubjectAndMessage :=
  match getHandler m.method with
  | none => .error ("error: newSubjectAndMessage: no such request type defined: " ++ m.method)
  | some tmpH =>
    if m.toNode = "" then .error "error: newSubjectAndMessage: ToNode empty: "
    else if m.method = "" then .error "error: newSubjectAndMessage: Method empty: "
    else .ok ⟨⟨m.toNode, tmpH.getKind, m.method⟩, m⟩

/-- The error `checkMessageToNodes` sends for a message with neither `ToNode` nor
`ToNodes`. -/
def noToNodeError (v : Message) : ErrSend :=
  ⟨v, "error: no toNode or toNodes where specified in the message, dropping message: "⟩

/-- One pass of the loop of `checkMessageToNodes` over `v`: the switch on its addressing. -/
def checkMessageToNodes.step (acc : List Message × List ErrSend) (v : Message) :
    List Message × List ErrSend :=
  if v.toNode ≠ "" then (acc.1 ++ [v], acc.2)
  else if v.toNodes.length ≠ 0 then
    (acc.1 ++ v.toNodes.map (fun n => { v with toNodes := [], toNode := n }), acc.2)
  else (acc.1, acc.2 ++ [noToNodeError v])

/-- `checkMessageToNodes`: the messages it returns, and the errors it sends on the way. -/
def checkMessageToNodes (msgSlice : List Message) : List Message × List ErrSend :=
  msgSlice.foldl checkMessageToNodes.step ([], [])

/-- One pass of the loop of `convertBytesToSAMs` over `m`. -/
def convertBytesToSAMs.step (acc : List SubjectAndMessage × List ErrSend) (m : Message) :
    List SubjectAndMessage × List ErrSend :=
  match newSubjectAndMessage m with
  | .ok sm => (acc.1 ++ [sm], acc.2)
  | .error err => (acc.1, acc.2 ++ [⟨m, "error: newSubjectAndMessage: " ++ err⟩])

/-- `convertBytesToSAMs`, with `yaml.Unmarshal` as the parameter `unmarshal`: the pairs it
returns and the errors it sends, or the error it returns when the bytes do not parse. The
`%#v` of the parser's error is its text. -/
def convertBytesToSAMs (unmarshal : List UInt8 → Except String (List Message))
    (b : List UInt8) : Except String (List SubjectAndMessage × List ErrSend) :=
  match unmarshal b with
  | .error err => .error ("error: unmarshal of file failed: " ++ err)
  | .ok msgSlice =>
    let checked := checkMessageToNodes msgSlice
    .ok (checked.1.foldl convertBytesToSAMs.step ([], checked.2))

/-! ### What the spec asks for -/

/-- The spec's fan-out of a message: itself when `ToNode` is set ("`ToNode` wins"), and
otherwise one copy per node of `ToNodes`, with that node as `ToNode` and `ToNodes` nil. -/
def fanOut (v : Message) : List Message :=
  if v.toNode ≠ "" then [v] else v.toNodes.map fun n => { v with toNodes := [], toNode := n }

/-- The pair the spec asks for a target: kept exactly when its `ToNode` is set and its
method is a key of the method table, on the subject `(ToNode, the method's Event, Method)`. -/
def targetSam (m : Message) : Option SubjectAndMessage :=
  match getHandler m.method with
  | some h => if m.toNode = "" then none else some ⟨⟨m.toNode, h.event, m.method⟩, m⟩
  | none => none

/-- A target the spec keeps is a persistable message. -/
theorem persistable_of_targetSam {m : Message} {sm : SubjectAndMessage}
    (h : targetSam m = some sm) : Persistable sm.message := by
  unfold targetSam at h
  split at h
  · next hd hh =>
    split at h
    · cases h
    · cases h
      exact ⟨‹_›, by simp [hh]⟩
  · cases h

/-! ### The loops -/

section Loops

/-- A pass of `checkMessageToNodes` appends the fan-out of the message. -/
theorem checkMessageToNodes_step_fst (acc : List Message × List ErrSend) (v : Message) :
    (checkMessageToNodes.step acc v).1 = acc.1 ++ fanOut v := by
  unfold checkMessageToNodes.step fanOut
  split_ifs with h₁ h₂
  · rfl
  · rfl
  · simp [List.length_eq_zero.1 (not_not.1 h₂)]

theorem foldl_checkMessageToNodes_fst :
    ∀ (l : List Message) (acc : List Message × List ErrSend),
      (l.foldl checkMessageToNodes.step acc).1 = acc.1 ++ l.flatMap fanOut
  | [], acc => by simp
  | v :: l, acc => by
    rw [List.foldl_cons, foldl_checkMessageToNodes_fst l, checkMessageToNodes_step_fst,
      List.flatMap_cons, List.append_assoc]

/-- `newSubjectAndMessage` accepts a message exactly as the spec keeps it. -/
theorem newSubjectAndMessage_toOption (m : Message) :
    (newSubjectAndMessage m).toOption = targetSam m := by
  unfold newSubjectAndMessage targetSam
  cases hh : getHandler m.method with
  | none => rfl
  | some h =>
    by_cases ht : m.toNode = ""
    · simp [ht, Except.toOption]
    · have hm : m.method ≠ "" := fun hm => by rw [hm, getHandler_empty] at hh; cases hh
      simp [ht, hm, Except.toOption, MethodHandler.getKind]

/-- A pass of `convertBytesToSAMs` appends the pair the spec keeps, if any. -/
theorem convertBytesToSAMs_step_fst (acc : List SubjectAndMessage × List ErrSend)
    (m : Message) :
    (convertBytesToSAMs.step acc m).1 = acc.1 ++ (targetSam m).toList := by
  rw [← newSubjectAndMessage_toOption, convertBytesToSAMs.step]
  split <;> next h => simp [h, Except.toOption]

theorem foldl_convertBytesToSAMs_fst :
    ∀ (l : List Message) (acc : List SubjectAndMessage × List ErrSend),
      (l.foldl convertBytesToSAMs.step acc).1 = acc.1 ++ l.filterMap targetSam
  | [], acc => by simp
  | m :: l, acc => by
    rw [List.foldl_cons, foldl_convertBytesToSAMs_fst l, convertBytesToSAMs_step_fst,
      List.filterMap_cons]
    cases targetSam m <;> simp

/-- A pass of `checkMessageToNodes` reports the message when its fan-out is empty. -/
theorem checkMessageToNodes_step_snd (acc : List Message × List ErrSend) (v : Message) :
    (checkMessageToNodes.step acc v).2 =
      acc.2 ++ if (fanOut v).isEmpty then [noToNodeError v] else [] := by
  unfold checkMessageToNodes.step fanOut
  split_ifs with h₁ h₂ <;> simp_all

theorem foldl_checkMessageToNodes_snd :
    ∀ (l : List Message) (acc : List Message × List ErrSend),
      (l.foldl checkMessageToNodes.step acc).2 =
        acc.2 ++ (l.filter fun v => (fanOut v).isEmpty).map noToNodeError
  | [], acc => by simp
  | v :: l, acc => by
    rw [List.foldl_cons, foldl_checkMessageToNodes_snd l, checkMessageToNodes_step_snd,
      List.filter_cons]
    split <;> simp_all

/-- A pass of `convertBytesToSAMs` reports the message when the spec drops it. -/
theorem convertBytesToSAMs_step_snd (acc : List SubjectAndMessage × List ErrSend)
    (m : Message) :
    ((convertBytesToSAMs.step acc m).2.map (·.message)) =
      acc.2.map (·.message) ++ if (targetSam m).isNone then [m] else [] := by
  rw [← newSubjectAndMessage_toOption, convertBytesToSAMs.step]
  split <;> next h => simp [h, Except.toOption]

theorem foldl_convertBytesToSAMs_snd :
    ∀ (l : List Message) (acc : List SubjectAndMessage × List ErrSend),
      (l.foldl convertBytesToSAMs.step acc).2.map (·.message) =
        acc.2.map (·.message) ++ l.filter fun m => (targetSam m).isNone
  | [], acc => by simp
  | m :: l, acc => by
    rw [List.foldl_cons, foldl_convertBytesToSAMs_snd l, convertBytesToSAMs_step_snd,
      List.filter_cons]
    split <;> simp_all

end Loops

/-- For every list the parser returns, `convertBytesToSAMs` returns, in input order, exactly
one pair per valid target of the fan-out, on the subject the method table gives it; so every
pair it returns satisfies the invariant of a persisted message. -/
theorem convertBytesToSAMs_targets (unmarshal : List UInt8 → Except String (List Message))
    (b : List UInt8) {msgs : List Message} (h : unmarshal b = .ok msgs) :
    (∃ errs, convertBytesToSAMs unmarshal b =
        .ok ((msgs.flatMap fanOut).filterMap targetSam, errs)) ∧
      ∀ sm ∈ (msgs.flatMap fanOut).filterMap targetSam, Persistable sm.message := by
  refine ⟨?_, fun sm hsm => ?_⟩
  · refine ⟨((checkMessageToNodes msgs).1.foldl convertBytesToSAMs.step
      ([], (checkMessageToNodes msgs).2)).2, ?_⟩
    rw [convertBytesToSAMs, h]
    refine congrArg Except.ok (Prod.ext ?_ rfl)
    rw [foldl_convertBytesToSAMs_fst, checkMessageToNodes, foldl_checkMessageToNodes_fst]
    rfl
  · obtain ⟨m, -, hm⟩ := List.mem_filterMap.1 hsm
    exact persistable_of_targetSam hm

/-- A request list as a client might send it: a message to `ship1`, one fanned out to `ship1`,
an empty node and `ship2`, one with no address, and one with a misspelt method. -/
def fanOutRequests : List Message :=
  [{ Message.zero with toNode := "ship1", method := REQHello },
   { Message.zero with toNodes := ["ship1", "", "ship2"], method := REQCliCommand },
   { Message.zero with method := REQPing },
   { Message.zero with toNode := "ship3", method := "REQPIng" }]

/-- `fanOutRequests` gives three pairs: the hello to `ship1` and the command to `ship1` and
to `ship2`, each on the event its method declares. -/
theorem fanOutRequests_subjects :
    ((∃ errs, convertBytesToSAMs (fun _ => .ok fanOutRequests) [] =
        .ok ((fanOutRequests.flatMap fanOut).filterMap targetSam, errs)) ∧
      ∀ sm ∈ (fanOutRequests.flatMap fanOut).filterMap targetSam, Persistable sm.message) ∧
    ((fanOutRequests.flatMap fanOut).filterMap targetSam).map (·.subject) =
      [⟨"ship1", EventNACK, REQHello⟩, ⟨"ship1", EventACK, REQCliCommand⟩,
        ⟨"ship2", EventACK, REQCliCommand⟩] :=
  ⟨convertBytesToSAMs_targets (fun _ => .ok fanOutRequests) [] rfl, by decide⟩

/-- Nothing is dropped silently: the errors `convertBytesToSAMs` sends name, in order, every
message with no target and then every target the spec does not keep. -/
theorem convertBytesToSAMs_reports_drops
    (unmarshal : List UInt8 → Except String (List Message)) (b : List UInt8)
    {msgs : List Message} (h : unmarshal b = .ok msgs) :
    ∃ sams errs, convertBytesToSAMs unmarshal b = .ok (sams, errs) ∧
      errs.map (·.message) = msgs.filter (fun v => (fanOut v).isEmpty) ++
        (msgs.flatMap fanOut).filter fun m => (targetSam m).isNone := by
  refine ⟨_, _, by rw [convertBytesToSAMs, h], ?_⟩
  rw [foldl_convertBytesToSAMs_snd, checkMessageToNodes, foldl_checkMessageToNodes_snd,
    foldl_checkMessageToNodes_fst]
  simp [Function.comp_def, noToNodeError]

/-- `fanOutRequests` sends three errors: for the message with no address, for the empty node
of the fanned-out one, and for the misspelt method. -/
theorem fanOutRequests_drops :
    (∃ sams errs, convertBytesToSAMs (fun _ => .ok fanOutRequests) [] = .ok (sams, errs) ∧
      errs.map (·.message) = fanOutRequests.filter (fun v => (fanOut v).isEmpty) ++
        (fanOutRequests.flatMap fanOut).filter fun m => (targetSam m).isNone) ∧
    (fanOutRequests.filter (fun v => (fanOut v).isEmpty) ++
        (fanOutRequests.flatMap fanOut).filter fun m => (targetSam m).isNone).map (·.method) =
      [REQPing, REQCliCommand, "REQPIng"] :=
  ⟨convertBytesToSAMs_reports_drops (fun _ => .ok fanOutRequests) [] rfl, by decide⟩

end Steward
