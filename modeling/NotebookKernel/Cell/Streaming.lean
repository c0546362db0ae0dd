import NotebookKernel.Session

/-!
Streaming of the target's output.

While a relay runs, captured output is drained to the broadcast channel: whenever the relay polls,
whenever its owner asks for it, and a last time after the polling has stopped. A drain takes
everything that is captured and broadcasts it as one message, so a reader sees the text in the order
in which it was captured, however the drains fall.
-/

namespace NotebookKernel.Streaming

/-- Read chunks until one is empty or a read fails. Every chunk but the last takes a character, so
as many reads as there are unread characters, and one more, see the end. -/
def collect (chunk : Nat) : (reads : Nat) → (taken : String) → Act String
  | 0, taken => pure taken
  | reads + 1, taken => do
    match ← Act.debugger (.takeOutput chunk) with
    | .ok text => if text = "" then pure taken else collect chunk reads (taken ++ text)
    | .error e =>
      Act.log (Log.warn .relay ("read target stdout: " ++ e.message))
      pure taken

/-- Take all captured output and broadcast it as one message. Tells whether there was any. -/
def broadcastUnread (chunk : Nat) : Act Bool := do
  let unread ← Act.debugger .unreadOutput
  let text ← collect chunk (unread + 1) ""
  if text = "" then
    pure false
  else
    Act.broadcastOrWarn .relay "publish target stdout:" (.notification (.stdout text))
    pure true

/-- One drain of a running relay. Tells whether the relay has had output so far. -/
def drain (chunk : Nat) : Act Bool := do
  let before ← Act.host .takeGuard
  let more ← broadcastUnread chunk
  Act.host (.releaseGuard (before || more))
  pure (before || more)

/-- Start a relay. Output left by earlier evaluations is broadcast first and does not count. -/
def start (chunk : Nat) : Action Unit := ExceptT.mk do
  let _ ← broadcastUnread chunk
  Act.host .startPolling

/-- Stop a relay: end its polling, then drain what came since. Tells whether it had output. -/
def stop (chunk : Nat) : Act Bool := do
  Act.host .stopPolling
  drain chunk

end NotebookKernel.Streaming
