import SetuoraLite.Lib.Python
import SetuoraLite.Sync.Outbox

/-!
# What Master answers

Reading Master's replies: the acknowledgement of an event, and the summary of an
error that is kept in `last_error`. An error body is bounded before it is read,
and what is kept of it is bounded again and never contains the access key.

Everything here is a pure function of the reply. A reply that holds an integer of
more than 4,300 digits makes `json.loads` raise a `ValueError` that is not a
`JSONDecodeError`, and one nested too deep a `RecursionError`; where the source only
catches the first, the exception is an `.error` here.
-/

namespace SetuoraLite

open Lib

def masterResponseMaxBodyBytes : Nat := 5 * 1024 * 1024

def masterErrorMaxBodyBytes : Nat := 64 * 1024

def masterErrorMaxTextChars : Nat := 500

def masterErrorMaxDetailsChars : Nat := 700

/-- `CREDENTIAL_REJECTED_MESSAGE`. -/
def credentialRejectedMessage : PyStr :=
  py "Master did not accept this franchise's access key (HTTP 401). Ask the Master " ++
    py "administrator for replacement connection details, then choose Update connection details."

/-- `text.replace(key, "[redacted]")`, when there is a key. -/
def redacted (key s : PyStr) : PyStr := if key = [] then s else replaceAll key (py "[redacted]") s

/-- `_safe_error` of an exception that is no `HTTPError`; `text` is its reason or its `str`. -/
def safeError (apiKey text : PyStr) : PyStr :=
  (redacted apiKey (py "Master connection failed: " ++ text)).take 1000

/-- `_safe_error` of an `HTTPError`. -/
def safeHttpError (apiKey : PyStr) (status : Int) : PyStr :=
  (redacted apiKey (if status = 401 then credentialRejectedMessage
    else py "Master returned HTTP " ++ intStr status ++ py ".")).take 1000

/-- `_bounded_remote_text`. -/
def boundedRemoteText (value : Json) (limit : Nat) (redact : PyStr) : PyStr :=
  match value with
  | .str s => (redacted redact (joinWith (py " ") (splitWords s))).take limit
  | _ => []

/-- `_REMOTE_DETAIL_PRIORITY`. -/
def remoteDetailPriority : List PyStr :=
  [py "expected_sequence", py "received_sequence", py "last_sequence", py "next_sequence",
    py "serial_number", py "transfer_id", py "status_from", py "status_to", py "current_status",
    py "owner_franchise_code"]

/-- `sorted` of texts. -/
def sortedTexts : List PyStr → List PyStr
  | [] => []
  | s :: rest => insertText s (sortedTexts rest)
where
  insertText (s : PyStr) : List PyStr → List PyStr
    | [] => [s]
    | t :: ts => if strLe s t then s :: t :: ts else t :: insertText s ts

/-- The value is not `None`. -/
def notNone : Json → Bool
  | .null => false
  | _ => true

/-- `_bounded_remote_value`, with the number of levels it may still enter. -/
def boundedRemoteValue (redact : PyStr) : Nat → Json → Json
  | _, .null => .null
  | _, .bool b => .bool b
  | _, .int z => .int z
  | _, .float f => .float f
  | _, .str s => .str (boundedRemoteText (.str s) 240 redact)
  | 0, _ => .null
  | levels + 1, .obj kvs =>
    let first := remoteDetailPriority.filter fun k => (dictGet k kvs).isSome
    let rest := sortedTexts ((dictKeys kvs).filter fun k => !first.contains k)
    .obj (((first ++ rest).take 16).foldl (fun result k =>
      let boundedKey := boundedRemoteText (.str k) 80 redact
      let boundedValue := boundedRemoteValue redact levels (getItem kvs k)
      if !boundedKey.isEmpty && notNone boundedValue then dictSet boundedKey boundedValue result
      else result) [])
  | levels + 1, .arr xs =>
    .arr (((xs.take 12).map (boundedRemoteValue redact levels)).filter notNone)

/-- `json.loads(body.decode("utf-8"))`; `none` is an exception the source catches. -/
def loadsBytes (rt : Runtime) (body : List UInt8) : Except PyError (Option Json) :=
  match decodeUtf8 body with
  | none => .ok none
  | some text =>
    match decodeWithin (some rt.jsonLevels) text with
    | .ok v => .ok (some v)
    | .error .invalid => .ok none
    | .error .intTooLong => .error ⟨.value,
        py "Exceeds the limit (4300 digits) for integer string conversion; " ++
          py "use sys.set_int_max_str_digits() to increase the limit"⟩
    | .error .tooDeep => .error ⟨.other, py "maximum recursion depth exceeded"⟩

/-- `_bounded_master_error_envelope`. -/
def boundedMasterErrorEnvelope (rt : Runtime) (body : List UInt8) :
    Except PyError (Option (List (PyStr × Json))) :=
  let bounded := body.take (masterErrorMaxBodyBytes + 1)
  if bounded = [] ∨ masterErrorMaxBodyBytes < bounded.length then .ok none
  else do
    match ← loadsBytes rt bounded with
    | some (.obj kvs) =>
      match getItem kvs (py "error") with
      | .obj error => .ok (some error)
      | _ => .ok none
    | _ => .ok none

/-- `_master_http_error_code`. -/
def masterHttpErrorCode (rt : Runtime) (body : List UInt8) : Except PyError PyStr := do
  match ← boundedMasterErrorEnvelope rt body with
  | none => .ok []
  | some error => .ok (upper (boundedRemoteText (getItem error (py "code")) 80 []))

/-- The details of an error that are worth a sentence. -/
def hasDetails : Json → Bool
  | .null | .obj [] | .arr [] => false
  | _ => true

/-- `_master_http_error_summary`. -/
def masterHttpErrorSummary (rt : Runtime) (status : Int) (body : List UInt8) (apiKey : PyStr) :
    Except PyError PyStr :=
  if status = 401 then .ok credentialRejectedMessage
  else do
    let summary ← match ← boundedMasterErrorEnvelope rt body with
      | none => .ok (py "Master returned HTTP " ++ intStr status ++ py ".")
      | some error => do
        let code := boundedRemoteText (getItem error (py "code")) 80 apiKey
        let message :=
          boundedRemoteText (getItem error (py "message")) masterErrorMaxTextChars apiKey
        let heading :=
          py "Master HTTP " ++ intStr status ++ (if code = [] then [] else py " " ++ code)
        let summary := if message = [] then heading ++ py "." else heading ++ py ": " ++ message
        let details := boundedRemoteValue apiKey 2 (getItem error (py "details"))
        if hasDetails details then do
          let text ← canonicalJson details
          let text := if masterErrorMaxDetailsChars < text.length
            then text.take masterErrorMaxDetailsChars ++ py "..." else text
          .ok (summary ++ py " Details: " ++ text)
        else .ok summary
    .ok ((redacted apiKey summary).take 1000)

/-- `_http_status_is_retryable`. -/
def httpStatusIsRetryable (status : Int) (errorCode : PyStr) : Bool :=
  if status = 409 ∨ status = 412 then
    status == 409 && upper errorCode == py "CONCURRENT_EVENT_CONFLICT"
  else [408, 425, 429, 401, 403].contains status || 500 ≤ status

/-- `_decode_json_response`. -/
def decodeJsonResponse (rt : Runtime) (body : List UInt8) : Except PyError Json :=
  if body = [] then .ok .null
  else do
    match ← loadsBytes rt body with
    | some v => .ok v
    | none => .error (masterSyncError (py "Master returned an invalid JSON response."))

/-- `_validate_event_acknowledgement`. -/
def validateEventAcknowledgement (rt : Runtime) (body : List UInt8) (event : MasterOutboxEvent) :
    Except PyError Unit := do
  match ← decodeJsonResponse rt body with
  | .obj decoded =>
    match getItem decoded (py "data") with
    | .obj data =>
      match getItem data (py "acknowledgements"), (getItem data (py "last_sequence")).asInt? with
      | .arr acks, some lastSequence =>
        if lastSequence < event.id then
          .error (masterSyncError
            (py "Master acknowledgement did not advance to the submitted sequence."))
        else if acks.any fun ack =>
            match ack with
            | .obj ack => (getItem ack (py "event_id")).textOrEmpty rt == event.eventId &&
                (getItem ack (py "sequence")).eqInt event.id
            | _ => false
        then .ok ()
        else .error (masterSyncError
          (py "Master acknowledgement does not match the submitted event."))
      | _, _ => .error (masterSyncError (py "Master returned an incomplete event acknowledgement."))
    | _ => .error (masterSyncError (py "Master returned a malformed event acknowledgement."))
  | _ => .error (masterSyncError (py "Master returned a malformed event acknowledgement."))

end SetuoraLite
