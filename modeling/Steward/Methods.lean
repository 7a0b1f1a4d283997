import Steward.Basic

/-!
# `Steward.Methods`: the method table

`GetMethodsAvailable` maps each method constant to the Go value that handles it, and
that value's `getKind` says whether a reply is expected (`EventACK`) or not (`EventNACK`).
`CheckIfExists` and `getHandler` are the two lookups the rest of the code makes.

A handler value is modelled by the name of its Go type and its `event` field: the handler
code itself lies outside the core the spec covers, so what a handler returns is a
parameter of the functions that call one (`Steward.Subscriber`). Two entries share a type:
`REQToFile` and `REQToFileNACK` are both `methodREQToFile`, with different events.
-/

set_option autoImplicit false

namespace Steward

/-- A method handler value of the table: the Go type that implements `handler`, and the
`event` field that `getKind` returns. -/
structure MethodHandler where
  handlerType : String
  event : CommandOrEvent
  deriving DecidableEq, Repr

/-- `getKind`: the event of the handler. -/
def MethodHandler.getKind (h : MethodHandler) : CommandOrEvent := h.event

/-- `MethodsAvailable`: the table from method to handler. A Go map literal has no
repeated keys, so a list of pairs read with `List.lookup` is the map. -/
structure MethodsAvailable where
  methodhandlers : List (Method × MethodHandler)

/-- `CheckIfExists`: the handler of `m` and `true` if the table has `m`, and the nil
handler and `false` otherwise. `none` is the nil handler. -/
def MethodsAvailable.checkIfExists (ma : MethodsAvailable) (m : Method) :
    Option MethodHandler :=
  ma.methodhandlers.lookup m

/-! ### The method constants -/

def REQInitial : Method := "REQInitial"
def REQOpProcessList : Method := "REQOpProcessList"
def REQOpProcessStart : Method := "REQOpProcessStart"
def REQOpProcessStop : Method := "REQOpProcessStop"
def REQCliCommand : Method := "REQCliCommand"
def REQCliCommandCont : Method := "REQCliCommandCont"
def REQToConsole : Method := "REQToConsole"
def REQTuiToConsole : Method := "REQTuiToConsole"
def REQToFileAppend : Method := "REQToFileAppend"
def REQToFile : Method := "REQToFile"
def REQToFileNACK : Method := "REQToFileNACK"
def REQCopyFileFrom : Method := "REQCopyFileFrom"
def REQCopyFileTo : Method := "REQCopyFileTo"
def REQHello : Method := "REQHello"
def REQErrorLog : Method := "REQErrorLog"
def REQPing : Method := "REQPing"
def REQPong : Method := "REQPong"
def REQHttpGet : Method := "REQHttpGet"
def REQHttpGetScheduled : Method := "REQHttpGetScheduled"
def REQTailFile : Method := "REQTailFile"
def REQRelay : Method := "REQRelay"
def REQRelayInitial : Method := "REQRelayInitial"
def REQNone : Method := "REQNone"
def REQTest : Method := "REQTest"
def REQPublicKey : Method := "REQPublicKey"
def REQKeysRequestUpdate : Method := "REQKeysRequestUpdate"
def REQKeysDeliverUpdate : Method := "REQKeysDeliverUpdate"
def REQKeysAllow : Method := "REQKeysAllow"
def REQKeysDelete : Method := "REQKeysDelete"
def REQAclRequestUpdate : Method := "REQAclRequestUpdate"
def REQAclDeliverUpdate : Method := "REQAclDeliverUpdate"
def REQAclAddCommand : Method := "REQAclAddCommand"
def REQAclDeleteCommand : Method := "REQAclDeleteCommand"
def REQAclDeleteSource : Method := "REQAclDeleteSource"
def REQAclGroupNodesAddNode : Method := "REQAclGroupNodesAddNode"
def REQAclGroupNodesDeleteNode : Method := "REQAclGroupNodesDeleteNode"
def REQAclGroupNodesDeleteGroup : Method := "REQAclGroupNodesDeleteGroup"
def REQAclGroupCommandsAddCommand : Method := "REQAclGroupCommandsAddCommand"
def REQAclGroupCommandsDeleteCommand : Method := "REQAclGroupCommandsDeleteCommand"
def REQAclGroupCommandsDeleteGroup : Method := "REQAclGroupCommandsDeleteGroup"
def REQAclExport : Method := "REQAclExport"
def REQAclImport : Method := "REQAclImport"

/-- `GetMethodsAvailable`: every method constant with its handler type and event, in the
order of the Go literal. -/
def getMethodsAvailable : MethodsAvailable where
  methodhandlers :=
    [(REQInitial, ⟨"methodREQInitial", EventACK⟩),
     (REQOpProcessList, ⟨"methodREQOpProcessList", EventACK⟩),
     (REQOpProcessStart, ⟨"methodREQOpProcessStart", EventACK⟩),
     (REQOpProcessStop, ⟨"methodREQOpProcessStop", EventACK⟩),
     (REQCliCommand, ⟨"methodREQCliCommand", EventACK⟩),
     (REQCliCommandCont, ⟨"methodREQCliCommandCont", EventACK⟩),
     (REQToConsole, ⟨"methodREQToConsole", EventACK⟩),
     (REQTuiToConsole, ⟨"methodREQTuiToConsole", EventACK⟩),
     (REQToFileAppend, ⟨"methodREQToFileAppend", EventACK⟩),
     (REQToFile, ⟨"methodREQToFile", EventACK⟩),
     (REQToFileNACK, ⟨"methodREQToFile", EventNACK⟩),
     (REQCopyFileFrom, ⟨"methodREQCopyFileFrom", EventACK⟩),
     (REQCopyFileTo, ⟨"methodREQCopyFileTo", EventACK⟩),
     (REQHello, ⟨"methodREQHello", EventNACK⟩),
     (REQErrorLog, ⟨"methodREQErrorLog", EventACK⟩),
     (REQPing, ⟨"methodREQPing", EventACK⟩),
     (REQPong, ⟨"methodREQPong", EventACK⟩),
     (REQHttpGet, ⟨"methodREQHttpGet", EventACK⟩),
     (REQHttpGetScheduled, ⟨"methodREQHttpGetScheduled", EventACK⟩),
     (REQTailFile, ⟨"methodREQTailFile", EventACK⟩),
     (REQRelay, ⟨"methodREQRelay", EventACK⟩),
     (REQRelayInitial, ⟨"methodREQRelayInitial", EventACK⟩),
     (REQPublicKey, ⟨"methodREQPublicKey", EventACK⟩),
     (REQKeysRequestUpdate, ⟨"methodREQKeysRequestUpdate", EventNACK⟩),
     (REQKeysDeliverUpdate, ⟨"methodREQKeysDeliverUpdate", EventNACK⟩),
     (REQKeysAllow, ⟨"methodREQKeysAllow", EventACK⟩),
     (REQKeysDelete, ⟨"methodREQKeysDelete", EventACK⟩),
     (REQAclRequestUpdate, ⟨"methodREQAclRequestUpdate", EventNACK⟩),
     (REQAclDeliverUpdate, ⟨"methodREQAclDeliverUpdate", EventNACK⟩),
     (REQAclAddCommand, ⟨"methodREQAclAddCommand", EventACK⟩),
     (REQAclDeleteCommand, ⟨"methodREQAclDeleteCommand", EventACK⟩),
     (REQAclDeleteSource, ⟨"methodREQAclDeleteSource", EventACK⟩),
     (REQAclGroupNodesAddNode, ⟨"methodREQAclGroupNodesAddNode", EventACK⟩),
     (REQAclGroupNodesDeleteNode, ⟨"methodREQAclGroupNodesDeleteNode", EventACK⟩),
     (REQAclGroupNodesDeleteGroup, ⟨"methodREQAclGroupNodesDeleteGroup", EventACK⟩),
     (REQAclGroupCommandsAddCommand, ⟨"methodREQAclGroupCommandsAddCommand", EventACK⟩),
     (REQAclGroupCommandsDeleteCommand, ⟨"methodREQAclGroupCommandsDeleteCommand", EventACK⟩),
     (REQAclGroupCommandsDeleteGroup, ⟨"methodREQAclGroupCommandsDeleteGroup", EventACK⟩),
     (REQAclExport, ⟨"methodREQAclExport", EventACK⟩),
     (REQAclImport, ⟨"methodREQAclImport", EventACK⟩),
     (REQTest, ⟨"methodREQTest", EventACK⟩)]

/-- `getHandler`: the handler of `method` in `GetMethodsAvailable`, nil when absent. -/
def getHandler (method : Method) : Option MethodHandler :=
  getMethodsAvailable.methodhandlers.lookup method

/-- `GetReplyMethods`: the methods the client offers as reply methods. -/
def getReplyMethods : List Method :=
  [REQToConsole, REQTuiToConsole, REQCliCommand, REQCliCommandCont, REQToFile, REQToFileAppend,
    REQNone]

/-- Every reply method on offer but the sentinel `REQNone` has a handler in the table. -/
theorem getHandler_of_mem_getReplyMethods :
    ∀ rm ∈ getReplyMethods, rm ≠ REQNone → (getHandler rm).isSome := by
  decide

end Steward
