import Custody.Realm

/-!
The events that the library reports, and the line each is written as: level, message, and the
fields that are shown.
-/

namespace Custody

/-- An event worth a line in the log. -/
inductive Event
  /-- A wrapper was used after it gave up its native object. -/
  | usedAfterRelease (realm : Realm)
  /-- An error kind took its number. -/
  | kindRegistered
  /-- The native side had no memory for a buffer. -/
  | bufferUnavailable
  /-- More bytes were to be appended than the input holds. -/
  | appendPastEnd (length available : Nat)
  /-- More bytes were to be inserted than the input holds. -/
  | insertPastEnd (length available : Nat)
  /-- The queue of frees reached the length that draws a warning. -/
  | queueGrowing (length : Nat)
  /-- A flush was asked for away from the main loop. -/
  | flushOffLoop
  /-- A flush ran some frees. -/
  | flushed (count : Nat)
  /-- The native side gave no message. -/
  | messageUnavailable
  /-- The native side refused a value for a message. -/
  | messageAppendFailed (code : Char)
  /-- The native side refused a value for a message iterator. -/
  | cursorAppendFailed (code : Char)
  /-- The native side opened no container. -/
  | containerOpenFailed (code : Char)
  /-- The native side refused to close a container. -/
  | containerCloseFailed
  /-- The native side refused a block of elements. -/
  | fixedArrayFailed (code : Char) (length : Nat)
  /-- The native side did not send a message. -/
  | sendFailed
  /-- A message went out. -/
  | sent
  /-- A reply named no waiting delegate. -/
  | unknownDelegate
  /-- A reply came without its message or its pending call. -/
  | nullReply
  /-- A delegate ended with an error. -/
  | delegateFailed (error : String)
  /-- A delegate panicked. -/
  | delegatePanicked
deriving DecidableEq

namespace Event

/-- The line that reports an event. -/
def render : Event → String
  | usedAfterRelease realm =>
      "WARN " ++ realm.label ++ " wrapper used after its native handle was released"
  | kindRegistered => "DEBUG registered native error kind"
  | bufferUnavailable => "ERROR eina_binbuf_new returned null"
  | appendPastEnd length available =>
      "DEBUG binbuf append past end of input length=" ++ length.repr ++ " available="
        ++ available.repr
  | insertPastEnd length available =>
      "DEBUG binbuf insert past end of input length=" ++ length.repr ++ " available="
        ++ available.repr
  | queueGrowing length =>
      "WARN deferred native free queue is growing; is flush() being called? len=" ++ length.repr
  | flushOffLoop => "WARN deferred::flush called off the main loop thread; ignoring"
  | flushed count => "DEBUG flushed deferred native frees n=" ++ count.repr
  | messageUnavailable => "ERROR eldbus_message_method_call_new returned null"
  | messageAppendFailed code =>
      "ERROR could not append basic type to eldbus message code=" ++ code.toString
  | cursorAppendFailed code =>
      "ERROR could not append basic type to eldbus message iterator code=" ++ code.toString
  | containerOpenFailed code => "ERROR could not open container code=" ++ code.toString
  | containerCloseFailed => "ERROR could not close container"
  | fixedArrayFailed code length =>
      "ERROR could not append fixed array code=" ++ code.toString ++ " len=" ++ length.repr
  | sendFailed => "ERROR eldbus_connection_send returned null"
  | sent => "DEBUG message sent"
  | unknownDelegate => "ERROR eldbus reply for an unknown delegate"
  | nullReply => "ERROR eldbus reply with a null handle"
  | delegateFailed error => "ERROR eldbus reply delegate failed error=" ++ error
  | delegatePanicked => "ERROR eldbus reply delegate panicked"

end Event

end Custody
