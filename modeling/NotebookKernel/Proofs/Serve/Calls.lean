import Mathlib.Data.List.Basic
import NotebookKernel.Broadcast
import NotebookKernel.Proofs.Json.Fields
import NotebookKernel.Proofs.Json.ReadBack
import NotebookKernel.Proofs.Text.Base64

/-!
The calls that write a line, and how a front end gets them back from it.

A notification, a message in parts and a reply are told apart by the type that stands in the line:
no type of a message ends like the type of a reply. `Outlet.Call.ofJson?` reads a call from the value
of its line, and `Outlet.Call.recoveredFrom_body` says that nothing is lost on the way.
-/

namespace NotebookKernel

/-! ## Reading lists -/

/-- What was written item by item is read item by item. -/
theorem mapM_map_eq_some {α β : Type} {w : α → β} {r : β → Option α}
    (inverse : ∀ a, r (w a) = some a) (l : List α) : (l.map w).mapM r = some l := by
  induction l with
  | nil => rfl
  | cons a l ih =>
    rw [List.map_cons, List.mapM_cons, inverse a, ih]
    rfl

namespace Json

/-- A list of texts. -/
def texts? (j : Json) : Option (List String) :=
  j.items?.bind fun items => items.mapM text?

/-- A field with a text. -/
def ofTextField (field : String × String) : String × Json :=
  (field.1, str field.2)

/-- An object whose values are texts. -/
def textFields? : Json → Option (List (String × String))
  | obj fields => fields.mapM fun f => f.2.text?.map fun text => (f.1, text)
  | _ => none

/-- The number of a cell. -/
def count? : Json → Option UInt32
  | int n => if 0 ≤ n ∧ n < UInt32.size then some (UInt32.ofNat n.toNat) else none
  | _ => none

/-- Parts of a message. -/
def parts? (j : Json) : Option (List Bytes) :=
  j.items?.bind fun items =>
    items.mapM fun item => item.text?.bind fun text => Base64.decode text.toList

theorem texts?_texts (l : List String) : (texts l).texts? = some l :=
  mapM_map_eq_some (r := text?) (w := str) (fun _ => rfl) l

theorem textFields?_obj (data : List (String × String)) :
    (obj (data.map ofTextField)).textFields? = some data :=
  mapM_map_eq_some (r := fun f => f.2.text?.map fun text => (f.1, text)) (w := ofTextField)
    (fun _ => rfl) data

theorem count?_ofCount (count : UInt32) : (ofCount count).count? = some count := by
  have small := count.toNat_lt_size
  have range : 0 ≤ (count.toNat : Int) ∧ (count.toNat : Int) < UInt32.size := by omega
  rw [ofCount, count?, if_pos range, Int.toNat_natCast, UInt32.ofNat_toNat]

theorem parts?_arr (parts : List Bytes) :
    (arr (parts.map Broadcast.partText)).parts? = some parts := by
  apply mapM_map_eq_some
  intro part
  change Base64.decode (String.ofList (Base64.encode part)).toList = some part
  rw [String.toList_ofList]
  exact Base64.decode_encode part

theorem plain_texts (l : List String) : (texts l).Plain :=
  plainItems_map (f := str) (fun _ => True.intro) l

theorem sorted_texts (l : List String) : (texts l).Sorted :=
  sortedItems_map (f := str) (fun _ => True.intro) l

theorem plain_parts (parts : List Bytes) : (arr (parts.map Broadcast.partText)).Plain :=
  plainItems_map (f := Broadcast.partText) (fun _ => True.intro) parts

theorem sorted_parts (parts : List Bytes) : (arr (parts.map Broadcast.partText)).Sorted :=
  sortedItems_map (f := Broadcast.partText) (fun _ => True.intro) parts

theorem plain_textFields (data : List (String × String)) : (obj (data.map ofTextField)).Plain :=
  plainFields_map (f := ofTextField) (fun _ => True.intro) data

theorem sorted_textFields {data : List (String × String)} (sorted : data.Pairwise (·.1 < ·.1)) :
    (obj (data.map ofTextField)).Sorted :=
  ⟨List.pairwise_map.mpr sorted, sortedFields_map (f := ofTextField) (fun _ => True.intro) data⟩

end Json

/-! ## Messages -/

/-- The kind of request that a message of this type answers. -/
def replyKind? (type : String) : Option String :=
  (List.isSuffixOf? "_reply".toList type.toList).map String.ofList

theorem replyKind?_append (kind : String) : replyKind? (kind ++ "_reply") = some kind := by
  rw [replyKind?, String.toList_append, List.isSuffixOf?_eq_some_iff_append_eq.mpr rfl,
    Option.map_some, String.ofList_toList]

namespace Notification

/-- What the notification carries are values as they are held in memory, the keys of every object
sorted and distinct, and its numbers are integers. -/
def Proper : Notification → Prop
  | executeResult _ data metadata =>
    data.Pairwise (·.1 < ·.1) ∧ metadata.Plain ∧ metadata.Sorted
  | _ => True

/-- A notification, by its type. -/
def ofContent? (type : String) (content : Json) : Option Notification :=
  if type = "stream" then do
    let name ← (content.get "name").text?
    let text ← (content.get "text").text?
    some (.stream name text)
  else if type = "execute_result" then do
    let count ← (content.get "execution_count").count?
    let data ← (content.get "data").textFields?
    some (.executeResult count data (content.get "metadata"))
  else if type = "error" then do
    let name ← (content.get "ename").text?
    let value ← (content.get "evalue").text?
    let traceback ← (content.get "traceback").texts?
    some (.error ⟨name, value, traceback⟩)
  else none

theorem plain_toJson (n : Notification) (proper : n.Proper) : n.toJson.Plain := by
  cases n with
  | stream name text => exact ⟨True.intro, ⟨True.intro, True.intro, True.intro⟩, True.intro⟩
  | executeResult count data metadata =>
    obtain ⟨-, metadataPlain, -⟩ := proper
    have small := count.toNat_lt
    have number : (Json.ofCount count).Plain := ⟨by omega, by omega⟩
    have texts := Json.plain_textFields data
    exact ⟨True.intro, ⟨number, texts, metadataPlain, True.intro⟩, True.intro⟩
  | error report =>
    have traceback := Json.plain_texts report.traceback
    exact ⟨True.intro, ⟨True.intro, True.intro, traceback, True.intro⟩, True.intro⟩

/-- The type of a notification is no reply's, and with its content it gives the notification. -/
theorem ofContent?_canonical (n : Notification) (proper : n.Proper) :
    ∃ type content, n.toJson = .obj [("msg_type", .str type), ("content", content)] ∧
      replyKind? type = none ∧ type ≠ "display_data_raw" ∧
      ofContent? type (Json.canonical content) = some n := by
  cases n with
  | stream name text =>
    refine ⟨_, _, rfl, by decide +kernel, by decide, ?_⟩
    rw [ofContent?, if_pos rfl, Json.get_canonical, Json.get_canonical]
    rfl
  | executeResult count data metadata =>
    obtain ⟨sorted, -, metadataSorted⟩ := proper
    have texts := Json.canonical_eq_self _ (Json.sorted_textFields sorted)
    have same := Json.canonical_eq_self _ metadataSorted
    refine ⟨_, _, rfl, by decide +kernel, by decide, ?_⟩
    rw [ofContent?, if_neg (by decide), if_pos rfl, Json.get_canonical, Json.get_canonical,
      Json.get_canonical]
    change ((Json.ofCount count).count?.bind fun count =>
      (Json.canonical (.obj (data.map Json.ofTextField))).textFields?.bind fun data =>
        some (executeResult count data (Json.canonical metadata))) = _
    rw [Json.count?_ofCount, texts, same, Json.textFields?_obj]
    rfl
  | error report =>
    have traceback := Json.canonical_eq_self _ (Json.sorted_texts report.traceback)
    refine ⟨_, _, rfl, by decide +kernel, by decide, ?_⟩
    rw [ofContent?, if_neg (by decide), if_neg (by decide), if_pos rfl, Json.get_canonical,
      Json.get_canonical, Json.get_canonical]
    change ((Json.canonical (Json.texts report.traceback)).texts?.bind fun traceback =>
      some (error ⟨report.name, report.value, traceback⟩)) = _
    rw [traceback, Json.texts?_texts]
    rfl

end Notification

namespace Broadcast

/-- What the message carries are values as they are held in memory, and its numbers are
integers. -/
def Proper : Broadcast → Prop
  | notification n => n.Proper
  | parts _ => True

/-- A message, by its type. -/
def ofJson? (type : String) (j : Json) : Option Broadcast :=
  if type = "display_data_raw" then (j.get "parts").parts?.map parts
  else (Notification.ofContent? type (j.get "content")).map notification

theorem plain_toJson (message : Broadcast) (proper : message.Proper) : message.toJson.Plain := by
  cases message with
  | notification n => exact n.plain_toJson proper
  | parts parts => exact ⟨True.intro, Json.plain_parts parts, True.intro⟩

/-- A message is recovered from its value, the keys of whose objects were sorted, and its type is no
reply's. -/
theorem ofJson?_canonical (message : Broadcast) (proper : message.Proper) :
    ∃ type, (Json.canonical message.toJson).get "msg_type" = .str type ∧
      replyKind? type = none ∧ ofJson? type (Json.canonical message.toJson) = some message := by
  cases message with
  | notification n =>
    obtain ⟨type, content, shape, noReply, noParts, read⟩ := n.ofContent?_canonical proper
    have value : (notification n).toJson =
      .obj [("msg_type", .str type), ("content", content)] := shape
    refine ⟨type, ?_, noReply, ?_⟩
    · rw [value, Json.get_canonical]
      rfl
    · have filled : (Json.canonical (notification n).toJson).get "content" =
          Json.canonical content := by
        rw [value, Json.get_canonical]
        rfl
      rw [ofJson?, if_neg noParts, filled, read]
      rfl
  | parts parts =>
    have filled : (Json.canonical (Broadcast.parts parts).toJson).get "parts" =
        .arr (parts.map partText) := by
      rw [toJson, Json.get_canonical]
      exact Json.canonical_eq_self _ (Json.sorted_parts parts)
    refine ⟨"display_data_raw", ?_, by decide +kernel, ?_⟩
    · rw [toJson, Json.get_canonical]
      rfl
    · rw [ofJson?, if_pos rfl, filled, Json.parts?_arr]
      rfl

end Broadcast

/-! ## Calls -/

/-- A call that writes a line. -/
inductive Outlet.Call where
  /-- Publish a notification or a message in parts. -/
  | publish (message : Broadcast)
  /-- Answer a request of the given kind. -/
  | reply (kind : String) (content : Json)

namespace Outlet.Call

/-- The value that a call writes. -/
def toJson : Call → Json
  | publish message => message.toJson
  | reply kind content => .obj [("content", content), ("msg_type", .str (kind ++ "_reply"))]

/-- The line that a call writes. -/
def line : Call → String
  | publish message => message.line
  | reply kind content => replyLine kind content

/-- The bytes of the line before its line feed. -/
def body (call : Call) : Bytes :=
  Utf8.encode call.toJson.chars

/-- What the call carries are values as they are held in memory, and its numbers are integers. -/
def Proper : Call → Prop
  | publish message => message.Proper
  | reply _ content => content.Plain ∧ content.Sorted

/-- The call that a line was written by, from the value of the line. -/
def ofJson? (j : Json) : Option Call :=
  (j.get "msg_type").text?.bind fun type =>
    match replyKind? type with
    | some kind => some (reply kind (j.get "content"))
    | none => (Broadcast.ofJson? type j).map publish

theorem encodeString_line (call : Call) : Utf8.encodeString call.line = call.body ++ [0x0A] := by
  have rendered : call.line = call.toJson.render ++ "\n" := by cases call <;> rfl
  have feed : Utf8.encode "\n".toList = [0x0A] := by decide
  rw [rendered, Utf8.encodeString, String.toList_append, Utf8.encode_append, feed, Json.render,
    String.toList_ofList, body]

theorem plain_toJson (call : Call) (proper : call.Proper) : call.toJson.Plain := by
  cases call with
  | publish message => exact message.plain_toJson proper
  | reply kind content => exact ⟨proper.1, True.intro, True.intro⟩

/-- From the value that a call writes, the keys of its objects sorted, the call is recovered. -/
theorem ofJson?_canonical (call : Call) (proper : call.Proper) :
    ofJson? (Json.canonical call.toJson) = some call := by
  cases call with
  | publish message =>
    obtain ⟨type, typed, noReply, read⟩ := message.ofJson?_canonical proper
    rw [toJson, ofJson?, typed, Json.text?, Option.bind_some, noReply, read]
    rfl
  | reply kind content =>
    have typed : (Json.canonical (toJson (reply kind content))).get "msg_type" =
        .str (kind ++ "_reply") := by
      rw [toJson, Json.get_canonical]
      rfl
    have filled : (Json.canonical (toJson (reply kind content))).get "content" = content := by
      rw [toJson, Json.get_canonical]
      exact Json.canonical_eq_self _ proper.2
    rw [ofJson?, typed, Json.text?, Option.bind_some, replyKind?_append, filled]

/-- Every call writes an object. -/
theorem toJson_eq_obj (call : Call) : ∃ fields, call.toJson = .obj fields := by
  cases call with
  | publish message =>
    cases message with
    | notification n => cases n <;> exact ⟨_, rfl⟩
    | parts parts => exact ⟨_, rfl⟩
  | reply kind content => exact ⟨_, rfl⟩

/-- A line that is an object, from which the call is recovered by any reader that accepts as many
levels of nesting as the call has. -/
def RecoveredFrom (call : Call) (line : Bytes) : Prop :=
  line ≠ [] ∧ ∀ levels, call.toJson.depth ≤ levels →
    ∃ fields, Json.ofBytesWithin? levels line = some (.obj fields) ∧
      ofJson? (.obj fields) = some call

theorem body_ne_nil (call : Call) : call.body ≠ [] := by
  obtain ⟨fields, shape⟩ := call.toJson_eq_obj
  have opened : ∃ rest, call.toJson.chars = '\x7b' :: rest := by
    rw [shape]
    cases fields <;> exact ⟨_, rfl⟩
  obtain ⟨rest, chars⟩ := opened
  rw [body, chars]
  exact List.cons_ne_nil _ _

theorem recoveredFrom_body (call : Call) (proper : call.Proper) :
    call.RecoveredFrom call.body := by
  obtain ⟨fields, shape⟩ := call.toJson_eq_obj
  have value : Json.canonical call.toJson =
      .obj (Json.sortFields (Json.canonicalFields fields)) := by
    rw [shape]
    rfl
  have read := call.ofJson?_canonical proper
  rw [value] at read
  refine ⟨call.body_ne_nil, fun levels nested => ⟨_, ?_, read⟩⟩
  rw [body, Json.ofBytesWithin?_chars (call.plain_toJson proper) nested, value]

/-- A call that is nested no deeper than the reader accepts is recovered by the reader. -/
theorem RecoveredFrom.ofBytes? {call : Call} {line : Bytes} (recovered : call.RecoveredFrom line)
    (nested : call.toJson.depth ≤ Json.maxDepth) :
    ∃ fields, Json.ofBytes? line = some (.obj fields) ∧ ofJson? (.obj fields) = some call := by
  rw [← Json.ofBytesWithin?_maxDepth]
  exact recovered.2 Json.maxDepth nested

/-- The text of a call is one line. -/
theorem lineFeed_not_mem_body (call : Call) : 0x0A ∉ call.body :=
  Utf8.not_mem_encode (show ('\n').toNat < 0x80 by decide)
    (Json.lineFeed_not_mem_chars call.toJson)

end Outlet.Call

end NotebookKernel
