import Obsw.ActionHelper
import Obsw.Config

/-!
# `Sdc.Completion` — completion messages of the SD card handler

The return values the handler passes on and the messages of `sendCompletionMessage` and
`sendCompletionReply`. A message without a receiver goes to the sender of the message received last.
-/

namespace Obsw
namespace Sdc

/-- Return values beside `RETURN_OK`: those of the framework, of its file system interface and of the
    handler, and the codes of the file system and of the framework's parts that are passed on. -/
inductive Code where
  | returnFailed
  | genericFileError
  | isBusy
  | invalidParameters
  | fileDoesNotExist
  | fileAlreadyExists
  | fileLocked
  | directoryDoesNotExist
  | directoryAlreadyExists
  | directoryNotEmpty
  | sequencePacketMissingWrite
  | sequencePacketMissingRead
  | unknownCommand
  | streamTooShort
  | bufferTooShort
  | fileSystem (code : Int)
  | framework (code : Nat)
  deriving DecidableEq, Repr

/-- The arguments of `sendCompletionMessage`. The error code `none` is `RETURN_OK`. -/
structure CompletionMessage where
  success : Bool
  queueId : MessageQueueId
  errorCode : Option Code
  errorParam : Nat
  deriving DecidableEq, Repr

/-- `sendCompletionReply` of a success. -/
def successReply : CompletionMessage := ⟨true, noQueue, none, 0⟩

/-- `sendCompletionReply` of a failure. -/
def failureReply (errorCode : Code) (errorParam : Nat) : CompletionMessage :=
  ⟨false, noQueue, some errorCode, errorParam⟩

/-- The queue a message is sent to, by the sender of the message received last. -/
def CompletionMessage.receiver (lastPartner : MessageQueueId) (m : CompletionMessage) :
    MessageQueueId :=
  if m.queueId = noQueue then lastPartner else m.queueId

end Sdc
end Obsw
