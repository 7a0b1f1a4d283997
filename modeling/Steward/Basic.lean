import Mathlib.Data.List.Basic

/-!
# `Steward.Basic`: nodes, methods, subjects and messages

The value types that every part of Steward passes around: node names, method names, the
kind of a subject, the subject and the message. The Go files in `src/` use these types
but declare none of them, so their shape comes from the spec and the README, and each
declaration that stands in for a missing one says so.

Go's string types (`node`, `Method`, `CommandOrEvent`) are Lean strings: every string a
sender can put on the wire is a value of the type, as in Go. The `int` fields of a message
are `Int`, because a sender can write a negative `retries` or `methodTimeout` in the JSON
it hands to the socket and the code reads it as it is. Byte slices are `List UInt8`, and
`bytesOf` is Go's conversion `[]byte(s)`.
-/

set_option autoImplicit false

namespace Steward

/-- A node name, Go's `node` (written `Node` in the newer files). -/
abbrev Node := String

/-- A method name, Go's `type Method string`. Every string is a `Method`; the method table
says which of them have a handler. -/
abbrev Method := String

/-- The kind of a subject, `CommandOrEvent` in `process.go` (the newer files call the type
`Event`). A string type; the four values the code compares with are below. -/
abbrev CommandOrEvent := String

/-- Modelled from the spec: the kind constants the README lists for a subject. -/
def CommandACK : CommandOrEvent := "CommandACK"
/-- Modelled from the spec: the kind constants the README lists for a subject. -/
def EventACK : CommandOrEvent := "EventACK"
/-- Modelled from the spec: the kind constants the README lists for a subject. -/
def CommandNACK : CommandOrEvent := "CommandNACK"
/-- Modelled from the spec: the kind constants the README lists for a subject. -/
def EventNACK : CommandOrEvent := "EventNACK"

/-- The test `CommandOrEvent == CommandACK || CommandOrEvent == EventACK` that
`messageDeliverNats` and `subscriberHandler` make: a reply is expected. -/
def isACK (k : CommandOrEvent) : Bool := k == CommandACK || k == EventACK

/-- The test `CommandOrEvent == CommandNACK || CommandOrEvent == EventNACK` of the second
case of `subscriberHandler`. -/
def isNACK (k : CommandOrEvent) : Bool := k == CommandNACK || k == EventNACK

/-- Go's `[]byte(s)`: the UTF-8 bytes of a string. -/
def bytesOf (s : String) : List UInt8 := s.data.flatMap String.utf8EncodeChar

/-- The characters of `strings.Join` as Lean computes it: the `String.intercalate` loop
appends separator and element to its accumulator, which is `List.intercalate` on the
characters. -/
theorem data_intercalate_go (s : String) :
    ∀ (as : List String) (acc : String),
      (String.intercalate.go acc s as).data =
        List.intercalate s.data (acc.data :: as.map String.data)
  | [], acc => by simp [String.intercalate.go, List.intercalate]
  | a :: as, acc => by
    rw [String.intercalate.go, data_intercalate_go s as]
    cases as <;> simp [List.intercalate, List.intersperse_cons₂]

/-- Modelled from the spec: a subject, the tuple `(ToNode, Event, Method)` that addresses
one logical channel. The Go struct also carries the `messageCh` channel of its publisher;
the state machines that need it hold that queue themselves. -/
structure Subject where
  toNode : Node
  commandOrEvent : CommandOrEvent
  method : Method
  deriving DecidableEq, Repr

/-- Modelled from the spec: `Subject.name`, the canonical wire name
`<ToNode>.<Method>.<Event>`. -/
def Subject.name (s : Subject) : String :=
  s.toNode ++ "." ++ s.method ++ "." ++ s.commandOrEvent

/-- Modelled from the spec: a message, with the fields that the modelled functions read or
write. `timeout` is the ACK wait as `process.go` names it; the newer files name the same
wait `ACKTimeout` and fill `ackTimeout` when they build a reply. `previousMessage` is the
pointer `*Message`, `none` for nil. `id` is the counter value `publishMessages` writes
before sending; it starts at 0 and only grows, so it is a `Nat`. -/
structure Message where
  toNode : Node
  toNodes : List Node
  data : List UInt8
  method : Method
  methodArgs : List String
  argSignature : List UInt8
  replyMethod : Method
  replyMethodArgs : List String
  timeout : Int
  ackTimeout : Int
  retries : Int
  replyACKTimeout : Int
  replyRetries : Int
  methodTimeout : Int
  replyMethodTimeout : Int
  directory : String
  fileName : String
  fromNode : Node
  isReply : Bool
  previousMessage : Option Message
  id : Nat
  deriving Repr

/-- The zero value `Message{}`: every string empty, every number zero, every slice and
pointer nil. -/
def Message.zero : Message :=
  ⟨"", [], [], "", [], [], "", [], 0, 0, 0, 0, 0, 0, 0, "", "", "", false, none, 0⟩

/-- The kind of a process, Go's `processKind`. -/
inductive ProcessKind where
  | subscriber
  | publisher
  deriving DecidableEq, Repr

/-- The string value of a kind: `processKindSubscriber` is `"subscriber"` and
`processKindPublisher` is `"publisher"`. -/
def ProcessKind.toString : ProcessKind → String
  | .subscriber => "subscriber"
  | .publisher => "publisher"

/-- A process name, Go's `processName`. -/
abbrev ProcessName := String

/-- Modelled from the spec: `processNameGet`, the registry key
`<subject-canonical>.<kind>`. -/
def processNameGet (subjectName : String) (kind : ProcessKind) : ProcessName :=
  subjectName ++ "." ++ kind.toString

end Steward
