import NotebookKernel.Json.Printer
import NotebookKernel.Text.Base64

/-!
Messages that the kernel broadcasts to every front end, and the lines they are written as.
-/

namespace NotebookKernel

/-- The content of an error notification and of error replies. -/
structure ErrorReport where
  name : String
  value : String
  traceback : List String
  deriving Repr, DecidableEq, Inhabited

/-- An error that is described by its traceback alone. -/
def ErrorReport.ofTraceback (traceback : List String) : ErrorReport :=
  ⟨"", "", traceback⟩

/-- A message about the progress of a request. -/
inductive Notification where
  /-- Text for one of the output streams. -/
  | stream (name text : String)
  /-- The value of a cell, in one or more representations by media type. -/
  | executeResult (count : UInt32) (data : List (String × String)) (metadata : Json)
  | error (content : ErrorReport)
  deriving Repr, Inhabited

namespace Notification

/-- The name of the stream of ordinary output. -/
def stdoutName : String := "stdout"

/-- Ordinary output. -/
def stdout (text : String) : Notification :=
  stream stdoutName text

/-- A value described by plain text. -/
def textResult (count : UInt32) (text : String) : Notification :=
  executeResult count [("text/plain", text)] (.obj [])

end Notification

/-- The fields of an error, in the order in which the message declares them. -/
def ErrorReport.fields (c : ErrorReport) : List (String × Json) :=
  [("ename", .str c.name), ("evalue", .str c.value), ("traceback", .texts c.traceback)]

/-- The number of a cell as JSON. -/
def Json.ofCount (count : UInt32) : Json :=
  .int count.toNat

/-- A notification as JSON; fields stand in the order in which the message declares them. -/
def Notification.toJson : Notification → Json
  | stream name text =>
    .obj [("msg_type", .str "stream"),
      ("content", .obj [("name", .str name), ("text", .str text)])]
  | executeResult count data metadata =>
    .obj [("msg_type", .str "execute_result"),
      ("content", .obj [("execution_count", .ofCount count),
        ("data", .obj (data.map fun d => (d.1, .str d.2))),
        ("metadata", metadata)])]
  | error content => .obj [("msg_type", .str "error"), ("content", .obj content.fields)]

/-- A message on the broadcast channel. -/
inductive Broadcast where
  | notification (n : Notification)
  /-- A message that the target built, forwarded part by part as it is. -/
  | parts (parts : List Bytes)
  deriving Repr, Inhabited

namespace Broadcast

/-- A part as text. -/
def partText (part : Bytes) : Json :=
  .str (String.ofList (Base64.encode part))

/-- A message as JSON. -/
def toJson : Broadcast → Json
  | notification n => n.toJson
  | parts ps => .obj [("msg_type", .str "display_data_raw"), ("parts", .arr (ps.map partText))]

/-- The line a message is written as. -/
def line (b : Broadcast) : String :=
  b.toJson.render ++ "\n"

/-- The texts of the ordinary output among messages. -/
def stdoutTexts (messages : List Broadcast) : List String :=
  messages.filterMap fun
    | notification (.stream name text) => if name = Notification.stdoutName then some text else none
    | _ => none

end Broadcast

/-- The line a reply to a request of the given kind is written as. -/
def replyLine (kind : String) (content : Json) : String :=
  (Json.obj [("content", content), ("msg_type", .str (kind ++ "_reply"))]).render ++ "\n"

end NotebookKernel
