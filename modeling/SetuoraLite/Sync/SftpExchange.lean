import SetuoraLite.Lib.Calendar
import SetuoraLite.Lib.Casing
import SetuoraLite.Lib.DecodeFault
import SetuoraLite.Lib.Python
import SetuoraLite.Lib.Table
import SetuoraLite.Lib.Work
import SetuoraLite.Store.Models

/-!
# The SFTP exchange

A franchise fetches Tally imports that Master leaves in `/outbox`, gives them to the local
Tally and acknowledges them in `/ack`, and puts its own party export into `/inbox`. Each
exchange is a row of `tally_sftp_exchanges`.

`runSftpTallySyncCycle` is one cycle, as a `Work`: each call to the server, to Tally and to
the database may be the last one of a cycle that is cut off. An exception of the database is
such an end. `sftpMachine` runs cycles, one at a time as the worker does, while Master does
with the remote files what it likes.
-/

namespace SetuoraLite

open Lib

/-! ## Rows and files -/

/-- `TallySftpDirection`. -/
inductive TallySftpDirection
  | upload | download
deriving DecidableEq

/-- `TallySftpStatus`. -/
inductive TallySftpStatus
  | pending | uploaded | imported | acknowledged | failed
deriving DecidableEq

/-- `TallySftpExchange`. -/
structure TallySftpExchange where
  id : Nat
  direction : TallySftpDirection
  remoteFilename : PyStr
  fileSha256 : PyStr
  status : TallySftpStatus
  attempts : Nat
  tallyReference : Option PyStr
  lastError : Option PyStr
  completedAt : Option Instant
deriving DecidableEq

/-- `REMOTE_INBOX`, `REMOTE_OUTBOX` and `REMOTE_ACK`. -/
inductive RemoteDirectory
  | inbox | outbox | ack
deriving DecidableEq

/-- A name in a remote directory. -/
abbrev RemotePath := RemoteDirectory × PyStr

/-- `SftpTallySyncError`, an `OSError` or another exception, by the name of its class. -/
inductive SftpError
  | sync (message : PyStr)
  | os (name : PyStr)
  | other (name : PyStr)
deriving DecidableEq

/-- `type(exc).__name__`. -/
def SftpError.className : SftpError → PyStr
  | .sync _ => py "SftpTallySyncError"
  | .os name => name
  | .other name => name

/-- What cannot be taken back. -/
inductive SftpEntry
  /-- `post_to_tally` was called for a file, and `confirmed` says whether it returned a result. -/
  | posted (filename : PyStr) (payload : List UInt8) (confirmed : Bool)
  /-- The import of a file was recorded. -/
  | imported (filename : PyStr)
  /-- A remote file appeared under its name. -/
  | published (path : RemotePath)
deriving DecidableEq

/-- The franchise's own part: its table, and what it did. -/
structure SftpBook where
  exchanges : List TallySftpExchange
  log : List SftpEntry

/-- The book of this node and the files of the server. -/
structure SftpWorld where
  book : SftpBook
  files : List (RemotePath × List UInt8)

/-! ## Calls -/

/-- What a cycle asks of the server, of Tally and of the book. -/
inductive SftpCall
  | listdir (directory : RemoteDirectory)
  | stat (path : RemotePath)
  | read (path : RemotePath) (size : Nat)
  | remove (path : RemotePath)
  | putfo (path : RemotePath) (payload : List UInt8)
  | rename (source destination : RemotePath)
  /-- `post_to_tally`, for a file. -/
  | post (filename : PyStr) (payload : List UInt8)
  /-- `export_tally_parties_xml`. -/
  | exportParties
  | find (filename : PyStr)
  | latestUpload
  | insert (row : TallySftpExchange)
  | save (id : Nat) (change : TallySftpExchange → TallySftpExchange)
  /-- The rows after an acknowledgement, in one transaction. -/
  | acknowledge (id : Nat) (now : Instant)

/-- What a call returns, or the exception it raises. -/
abbrev SftpCall.Answer : SftpCall → Type
  | .listdir _ => Except SftpError (List PyStr)
  | .stat _ => Except SftpError Nat
  | .read _ _ => Except SftpError (List UInt8)
  | .remove _ => Except SftpError PUnit
  | .putfo _ _ => Except SftpError PUnit
  | .rename _ _ => Except SftpError PUnit
  | .post _ _ => Except PyStr PyStr
  | .exportParties => Except PyStr (List UInt8)
  | .find _ => Option TallySftpExchange
  | .latestUpload => Option TallySftpExchange
  | .insert _ => Except SftpError TallySftpExchange
  | .save _ _ => PUnit
  | .acknowledge _ _ => PUnit

/-- How the world takes a call. -/
inductive SftpFate
  | ok
  | fails (e : SftpError)
  /-- It takes effect, and then it fails. -/
  | late (e : SftpError)
  /-- The first bytes arrive, then it fails. -/
  | partly (size : Nat) (e : SftpError)
  | listed (names : List PyStr)
  | replied (reply : Except PyStr PyStr)
  | exported (reply : Except PyStr (List UInt8))
deriving DecidableEq

/-- The content of a file, if it is there. -/
def SftpWorld.file (w : SftpWorld) (path : RemotePath) : Option (List UInt8) :=
  (lookup Prod.fst path w.files).map Prod.snd

/-- The names in a directory. -/
def SftpWorld.namesIn (w : SftpWorld) (directory : RemoteDirectory) : List PyStr :=
  (w.files.filter fun f => f.1.1 = directory).map fun f => f.1.2

/-- The files with one more, in place of one of its name. -/
def SftpWorld.put (w : SftpWorld) (path : RemotePath) (payload : List UInt8) : SftpWorld :=
  { w with files := w.files.filter (fun f => f.1 ≠ path) ++ [(path, payload)] }

/-- The world without a file. -/
def SftpWorld.drop (w : SftpWorld) (path : RemotePath) : SftpWorld :=
  { w with files := w.files.filter fun f => f.1 ≠ path }

/-- The error of a path that leads nowhere. -/
def noSuchFile : SftpError := .os (py "FileNotFoundError")

/-- The latest upload: the one with the greatest id. -/
def latestUploadOf (rows : List TallySftpExchange) : Option TallySftpExchange :=
  (rows.filter fun e => e.direction = .upload).getLast?

/-- `record.status = ...` after the acknowledgement. -/
def TallySftpExchange.acknowledgedAs (now : Instant) (e : TallySftpExchange) : TallySftpExchange :=
  { e with status := .acknowledged, completedAt := some now, lastError := none }

/-- What the acknowledgement of Master's answer does to the upload it answers. -/
def TallySftpExchange.answeredAs (now : Instant) (e : TallySftpExchange) : TallySftpExchange :=
  { e with status := .acknowledged, completedAt := some now }

/-- The rows after an acknowledgement: the exchange, and the latest upload with it. -/
def acknowledgedExchanges (id : Nat) (now : Instant) (rows : List TallySftpExchange) :
    List TallySftpExchange :=
  let marked := modifyRow (·.id) id (TallySftpExchange.acknowledgedAs now) rows
  match latestUploadOf rows with
  | some upload => modifyRow (·.id) upload.id (TallySftpExchange.answeredAs now) marked
  | none => marked

/-- The book with other rows. -/
def SftpBook.save (b : SftpBook) (rows : List TallySftpExchange) : SftpBook :=
  { b with exchanges := rows }

/-- The book with one entry more. -/
def SftpBook.record (b : SftpBook) (entry : SftpEntry) : SftpBook :=
  { b with log := b.log ++ [entry] }

/-- A file moves to another name, where Master can see it. -/
def SftpWorld.moved (w : SftpWorld) (source destination : RemotePath) : Option SftpWorld :=
  (w.file source).map fun payload =>
    { (w.drop source).put destination payload with book := w.book.record (.published destination) }

/-- The imports that a change of a row records. -/
def importEntries (change : TallySftpExchange → TallySftpExchange) (e : TallySftpExchange) :
    List SftpEntry :=
  if e.status ≠ .imported ∧ (change e).status = .imported then [.imported e.remoteFilename] else []

/-- A row that is saved; an import that it records is logged. -/
def SftpBook.saveRow (b : SftpBook) (id : Nat) (change : TallySftpExchange → TallySftpExchange) :
    SftpBook where
  exchanges := modifyRow (·.id) id change b.exchanges
  log := b.log ++ ((lookup (·.id) id b.exchanges).map (importEntries change)).getD []

/-- A new row, unless its name is taken in its direction. -/
def insertExchange (b : SftpBook) (row : TallySftpExchange) :
    Except SftpError TallySftpExchange × SftpBook :=
  if b.exchanges.any
    (fun e => e.direction = row.direction ∧ e.remoteFilename = row.remoteFilename) then
    (.error (.other (py "IntegrityError")), b)
  else
    let stored := { row with id := nextId (·.id) b.exchanges }
    (.ok stored, b.save (b.exchanges ++ [stored]))

/-- How the server, Tally and the database take a call. -/
def sftpServer (w : SftpWorld) : (o : SftpCall) → SftpFate → Option (o.Answer × SftpWorld)
  | .listdir directory, i =>
    match i with
    | .listed names => if names.Perm (w.namesIn directory) then some (.ok names, w) else none
    | .fails e => some (.error e, w)
    | _ => none
  | .stat path, i =>
    match i with
    | .ok => some ((w.file path).elim (.error noSuchFile) fun payload => .ok payload.length, w)
    | .fails e => some (.error e, w)
    | _ => none
  | .read path size, i =>
    match i with
    | .ok => some ((w.file path).elim (.error noSuchFile) fun payload => .ok (payload.take size), w)
    | .fails e => some (.error e, w)
    | _ => none
  | .remove path, i =>
    match i with
    | .ok => some (if (w.file path).isSome then .ok ⟨⟩ else .error noSuchFile, w.drop path)
    | .late e => some (.error e, w.drop path)
    | .fails e => some (.error e, w)
    | _ => none
  | .putfo path payload, i =>
    match i with
    | .ok => some (.ok ⟨⟩, w.put path payload)
    | .partly size e => some (.error e, w.put path (payload.take size))
    | .fails e => some (.error e, w)
    | _ => none
  | .rename source destination, i =>
    match i with
    | .ok => some ((w.moved source destination).elim (.error noSuchFile, w) fun t => (.ok ⟨⟩, t))
    | .late e => some (.error e, (w.moved source destination).getD w)
    | .fails e => some (.error e, w)
    | _ => none
  | .post filename payload, i =>
    match i with
    | .replied reply =>
      some (reply, { w with book := w.book.record (.posted filename payload reply.isOk) })
    | _ => none
  | .exportParties, i =>
    match i with
    | .exported reply => some (reply, w)
    | _ => none
  | .find filename, _ =>
    some (w.book.exchanges.find? fun e => e.direction = .download ∧ e.remoteFilename = filename, w)
  | .latestUpload, _ => some (latestUploadOf w.book.exchanges, w)
  | .insert row, _ =>
    some ((insertExchange w.book row).1, { w with book := (insertExchange w.book row).2 })
  | .save id change, _ => some (⟨⟩, { w with book := w.book.saveRow id change })
  | .acknowledge id now, _ =>
    some (⟨⟩, { w with book := w.book.save (acknowledgedExchanges id now w.book.exchanges) })

/-! ## One cycle -/

/-- The work of a cycle. -/
abbrev SftpWork (α : Type) := Work SftpCall SftpCall.Answer SftpError α

/-- One call. -/
abbrev sftp (o : SftpCall) : SftpWork o.Answer := Work.perform o

/-- An XML element: its tag and its text. -/
structure XmlElement where
  tag : PyStr
  text : PyStr

/-- The settings, and what the cycle uses that is not this program's. -/
structure SftpSettings where
  runtime : Runtime
  maxXmlBytes : Nat
  franchiseCode : PyStr
  /-- `fromstring(payload).iter()` of a parser that refuses entities; `none` is its exception. -/
  parse : List UInt8 → Option (XmlElement × List XmlElement)
  /-- `sha256(payload).hexdigest()`. -/
  digest : List UInt8 → PyStr

variable (st : SftpSettings)

/-- `PurePosixPath(filename).name != filename`, or no name at all. -/
def unsafeFilename (filename : PyStr) : Bool :=
  filename.isEmpty || filename.contains (cp '/') || filename == py "." || filename == py ".."

/-- The error of a name that could leave the directory. -/
def unsafeError : SftpError := .sync (py "Master returned an unsafe SFTP filename.")

/-- `_remote_path`. -/
def remotePath (directory : RemoteDirectory) (filename : PyStr) : Except SftpError RemotePath :=
  if unsafeFilename filename then .error unsafeError else .ok (directory, filename)

/-- `sorted(names, key=str.casefold)`. -/
def sortedNames (names : List PyStr) : List PyStr :=
  names.insertionSort fun a b => strLe (st.runtime.casefold a) (st.runtime.casefold b) = true

/-- An XML file that is not hidden. -/
def listedAsXml (filename : PyStr) : Bool :=
  (py ".xml").isSuffixOf (st.runtime.lower filename) && !(py ".").isPrefixOf filename

/-- `_xml_names`. -/
def xmlNames (directory : RemoteDirectory) : SftpWork (List PyStr) := do
  let listed ← Work.lift (← sftp (.listdir directory))
  let names := listed.filter (listedAsXml st)
  Work.raiseIf (names.any unsafeFilename = true) unsafeError
  pure (sortedNames st names)

/-- The error of a file beyond the limit. -/
def tooLargeError : SftpError :=
  .sync (py "Master XML exceeds the configured " ++ decDigits st.maxXmlBytes ++ py "-byte limit.")

/-- `_read_remote_xml`. -/
def readRemoteXml (path : RemotePath) : SftpWork (List UInt8) := do
  let size ← Work.lift (← sftp (.stat path))
  Work.raiseIf (st.maxXmlBytes < size) (tooLargeError st)
  let payload ← Work.lift (← sftp (.read path (st.maxXmlBytes + 1)))
  Work.raiseIf (st.maxXmlBytes < payload.length) (tooLargeError st)
  Work.raiseIf (payload = []) (.sync (py "Master published an empty XML file."))
  pure payload

/-- `try: client.remove(path)`, `except OSError: pass`. -/
def removeIfThere (path : RemotePath) : SftpWork PUnit := do
  match ← sftp (.remove path) with
  | .error (.os _) => pure ⟨⟩
  | r => Work.lift r

/-- `_write_remote_atomic`. -/
def writeRemoteAtomic (destination : RemotePath) (payload : List UInt8) : SftpWork PUnit := do
  let temporary : RemotePath := (destination.1, destination.2 ++ py ".part")
  removeIfThere temporary
  Work.lift (← sftp (.putfo temporary payload))
  match ← sftp (.rename temporary destination) with
  | .ok _ => pure ⟨⟩
  | .error e => do
    removeIfThere temporary
    Work.raise e

/-- `node.tag.rsplit("}", 1)[-1].upper()`. -/
def XmlElement.localTag (e : XmlElement) : PyStr := upper (e.tag.rtakeWhile fun c => c ≠ cp '}')

/-- `_validate_master_import_xml`. -/
def validateMasterImportXml (payload : List UInt8) : Except SftpError PUnit :=
  match st.parse payload with
  | none => .error (.sync (py "Master published unsafe or invalid XML."))
  | some (root, rest) =>
    let request := ((root :: rest).find? fun e => e.localTag = py "TALLYREQUEST").elim []
      fun e => st.runtime.casefold (strip e.text)
    if root.localTag ≠ py "ENVELOPE" then .error (.sync (py "Master XML is not a Tally ENVELOPE."))
    else if request ≠ py "import data" then
      .error (.sync (py "Master XML is not a Tally Import Data request."))
    else .ok ⟨⟩

/-- A new row. -/
def newExchange (direction : TallySftpDirection) (filename digest : PyStr) (attempts : Nat) :
    TallySftpExchange :=
  ⟨0, direction, filename, digest, .pending, attempts, none, none, none⟩

/-- The error of a name that comes back with another content. -/
def reusedError : SftpError :=
  .sync (py "Master reused an outbound filename with different content. " ++
    py "The exchange is paused for operator review.")

/-- `_record_for_remote_file`. -/
def recordForRemoteFile (filename digest : PyStr) : SftpWork TallySftpExchange := do
  match ← sftp (.find filename) with
  | some record => do
    Work.raiseIf (record.fileSha256 ≠ digest) reusedError
    pure record
  | none => Work.lift (← sftp (.insert (newExchange .download filename digest 0)))

/-- `PurePosixPath(filename).stem`. -/
def stem (filename : PyStr) : PyStr :=
  let suffix := filename.rtakeWhile fun c => c ≠ cp '.'
  let name := (filename.rdropWhile fun c => c ≠ cp '.').dropLast
  if name = [] ∨ suffix = [] then filename else name

/-- The name of an acknowledgement. -/
def ackName (filename : PyStr) : PyStr := stem filename ++ py ".ack"

/-- `_upload_ack`. -/
def uploadAck (filename : PyStr) : SftpWork PUnit := do
  let destination ← Work.lift (remotePath .ack (ackName filename))
  writeRemoteAtomic destination []

/-- One attempt more. -/
def TallySftpExchange.attempted (e : TallySftpExchange) : TallySftpExchange :=
  { e with attempts := e.attempts + 1, lastError := none }

/-- Refused, with the message. -/
def TallySftpExchange.refused (message : PyStr) (e : TallySftpExchange) : TallySftpExchange :=
  { e with status := .failed, lastError := some (message.take 2000) }

/-- Imported, with the reference of Tally. -/
def TallySftpExchange.importedAs (reference : PyStr) (e : TallySftpExchange) : TallySftpExchange :=
  { e with status := .imported, tallyReference := some (reference.take 255), lastError := none }

/-- A message left for the operator. -/
def TallySftpExchange.noted (message : PyStr) (e : TallySftpExchange) : TallySftpExchange :=
  { e with lastError := some (message.take 2000) }

/-- `post_to_tally(payload.decode("utf-8"))`, with what it raises as a value. -/
def postToTally (filename : PyStr) (payload : List UInt8) : SftpWork (Except PyStr PyStr) :=
  match h : decodeUtf8 payload with
  | none => pure (.error (utf8FaultText payload h))
  | some _ => sftp (.post filename payload)

/-- Uploaded, at a time. -/
def TallySftpExchange.uploadedAs (now : Instant) (e : TallySftpExchange) : TallySftpExchange :=
  { e with status := .uploaded, completedAt := some now }

/-- The post to Tally and its record. -/
def importOnce (record : TallySftpExchange) (filename : PyStr) (payload : List UInt8) :
    SftpWork PUnit := do
  sftp (.save record.id TallySftpExchange.attempted)
  match ← postToTally filename payload with
  | .error message => do
    sftp (.save record.id (TallySftpExchange.refused message))
    Work.raise (.sync
      (py "Master XML is waiting because Tally did not import it: " ++ message.take 500))
  | .ok reference => sftp (.save record.id (TallySftpExchange.importedAs reference))

/-- A file whose import is on record is only acknowledged. -/
def importUnlessRecorded (record : TallySftpExchange) (filename : PyStr) (payload : List UInt8) :
    SftpWork PUnit :=
  if record.status = .imported then pure ⟨⟩ else importOnce record filename payload

/-- The acknowledgement to Master and its record. -/
def acknowledgeOnce (now : Instant) (record : TallySftpExchange) (filename : PyStr) :
    SftpWork PUnit := do
  match ← (uploadAck filename).attempt with
  | .error e => do
    let message := py "Tally import succeeded, but acknowledgement upload failed: " ++ e.className
    sftp (.save record.id (TallySftpExchange.noted message))
    Work.raise (.sync (message.take 2000))
  | .ok _ => sftp (.acknowledge record.id now)

/-- `_import_master_file`. -/
def importMasterFile (now : Instant) (filename : PyStr) : SftpWork PyStr := do
  let path ← Work.lift (remotePath .outbox filename)
  let payload ← readRemoteXml st path
  Work.lift (validateMasterImportXml st payload)
  let record ← recordForRemoteFile filename (st.digest payload)
  if record.status = .acknowledged then pure (py "imported_and_acknowledged")
  else do
    importUnlessRecorded record filename payload
    acknowledgeOnce now record filename
    pure (py "imported_and_acknowledged")

/-- `strftime("%Y%m%dT%H%M%SZ")`. -/
def stampText (now : Instant) : PyStr :=
  ((isoInstant now).take 19).filter (fun c => c ≠ cp '-' ∧ c ≠ cp ':') ++ py "Z"

/-- The name of an upload: its time and its digest. -/
def uploadName (now : Instant) (digest : PyStr) : PyStr :=
  py "setuora-" ++ st.franchiseCode ++ py "-debtors-creditors-" ++ stampText now ++ py "-" ++
    digest.take 8 ++
    py ".xml"

/-- A file for Master, written under a temporary name and renamed. -/
def writeToInbox (filename : PyStr) (payload : List UInt8) : SftpWork PUnit := do
  let destination ← Work.lift (remotePath .inbox filename)
  writeRemoteAtomic destination payload

/-- `_upload_tally_export`. -/
def uploadTallyExport (now : Instant) : SftpWork PyStr := do
  match ← sftp .exportParties with
  | .error message => Work.raise (.sync message)
  | .ok payload => do
    Work.raiseIf (st.maxXmlBytes < payload.length)
      (.sync (py "Tally export exceeds the configured " ++ decDigits st.maxXmlBytes ++
        py "-byte limit."))
    let digest := st.digest payload
    let previous ← sftp .latestUpload
    if previous.map (·.fileSha256) = some digest then pure (py "idle_unchanged")
    else do
      let filename := uploadName st now digest
      let record ← Work.lift (← sftp (.insert (newExchange .upload filename digest 1)))
      match ← (writeToInbox filename payload).attempt with
      | .error e => do
        let message := py "SFTP upload failed: " ++ e.className
        sftp (.save record.id (TallySftpExchange.refused message))
        Work.raise (.sync (message.take 2000))
      | .ok _ => do
        sftp (.save record.id (TallySftpExchange.uploadedAs now))
        pure (py "uploaded")

/-- `run_sftp_tally_sync_cycle`, once it is enabled and connected. -/
def runSftpTallySyncCycle (now : Instant) : SftpWork PyStr := do
  match ← xmlNames st .outbox with
  | filename :: _ => importMasterFile st now filename
  | [] => do
    match ← xmlNames st .inbox with
    | _ :: _ => pure (py "waiting_for_master")
    | [] => uploadTallyExport st now

/-! ## Runs -/

/-- What Master does with a file. -/
inductive MasterMove
  | leaves (path : RemotePath) (payload : List UInt8)
  | takes (path : RemotePath)
deriving DecidableEq

/-- What Master does between two calls. -/
def masterMoves (w : SftpWorld) : MasterMove → Option SftpWorld
  | .leaves path payload => some (w.put path payload)
  | .takes path => some (w.drop path)

/-- Cycles of the worker, one after another, each cut off anywhere, and Master. -/
def sftpMachine : Machine (Bench SftpWorld SftpCall SftpCall.Answer SftpError PyStr)
    (WorkAction Instant SftpFate MasterMove) :=
  workMachine sftpServer (runSftpTallySyncCycle st) masterMoves

end SetuoraLite
