import Steward.Methods

/-!
# `Steward.Process`: processes and the server they run on

A process is one worker on one subject, a publisher or a subscriber. `newProcess` fills
in a process with a fresh process ID; the server keeps the registry `processes` from
process name to process, the method table, and its own node name.

The Go `server` and `process` structs hold many more fields (the broker connection, the
channels to the ring buffer and the error kernel, metrics). The structures here keep the
fields that a modelled function reads or writes; the channels are queues of the state
machines that need them.
-/

set_option autoImplicit false

namespace Steward

/-- `process`: one worker on one subject. `allowedReceivers` is the key set of the Go map
`map[node]struct{}`, which the code only ever reads by lookup. -/
structure Process where
  messageID : Nat
  subject : Subject
  node : Node
  processID : Nat
  processKind : ProcessKind
  allowedReceivers : List Node

/-- `server`, with the fields the modelled functions use. A Go map read of an absent key
is handled where it happens, so `processes` answers `none` for it. -/
structure Server where
  processes : ProcessName → Option Process
  lastProcessID : Nat
  methodsAvailable : MethodsAvailable
  nodeName : Node

/-- `newProcess`: bump the server's `lastProcessID` and return a process on `subject` with
that ID, message counter 0, and the allowlist built from `allowedReceivers`. -/
def newProcess (s : Server) (subject : Subject) (processKind : ProcessKind)
    (allowedReceivers : List Node) : Server × Process :=
  let s := { s with lastProcessID := s.lastProcessID + 1 }
  (s, { messageID := 0
        subject := subject
        node := subject.toNode
        processID := s.lastProcessID
        processKind := processKind
        allowedReceivers := allowedReceivers })

end Steward
