import ParkingSystem.Violations.Issue

/-!
# Violations Recorded Offline

A field device keeps what it recorded in a table of its own and sends it in passes: a pass reads
the pending items once and takes them one after the other, the photo first, under a reference of
its own. What the server answers decides what becomes of the item. Nothing keeps two passes from
running at once, and each one works on the items as it read them.

## What ends a call

The server answered, or it answered with an HTTP error, or there was no answer. An error 401 is
answered by a refresh of the tokens, once a call; then the request is sent again.
-/

namespace ParkingSystem

open PyText Table Transaction

/-! ## POST /files -/

/-- The object store, and how `storage.py` names an object in it: by the prefix, the name of the
file, the time and a uuid. -/
structure Storage where
  bucket : String
  objectKey : String → Option String → ℤ → ℕ → String
  sha256 : List UInt8 → String
  /-- Whether the store takes an object, of a content type, under a key. -/
  putObject : String → List UInt8 → String → Bool

/-- The form of `upload_file`. -/
structure FileUpload where
  data : List UInt8
  filename : Option String := none
  contentType : Option String := none
  clientRef : Option String := none
  pathPrefix : String := "violations"
  deriving DecidableEq, Repr

/-- What the endpoint answers; the checksum is that of a new file. -/
structure FileResponse where
  id : ℕ
  objectKey : String
  size : ℤ
  checksum : Option String := none
  duplicate : Bool := false
  deriving DecidableEq, Repr

/-- `MAX_SIZE`. -/
def maxFileSize : ℕ := 10 * 1024 * 1024

/-- `IMAGE_EXTENSIONS`. -/
def imageExtensions : List String := ["jpg", "jpeg", "png", "webp", "bmp", "gif", "heic"]

/-- `_MAGIC`. -/
def imageMagic : List (List UInt8) :=
  [[0xff, 0xd8, 0xff], [0x89, 0x50, 0x4e, 0x47, 0x0d, 0x0a, 0x1a, 0x0a],
    [0x47, 0x49, 0x46, 0x38, 0x37, 0x61], [0x47, 0x49, 0x46, 0x38, 0x39, 0x61], [0x42, 0x4d]]

/-- What follows the last dot of a name, in lower case. No letter outside ASCII has one of the
extensions' letters alone as its lower case. -/
def fileExtension (name : String) : String :=
  String.ofList ((name.toList.reverse.takeWhile (· ≠ '.')).reverse.map Char.toLower)

/-- `_is_image`. -/
def isImage (filename contentType : Option String) (data : List UInt8) : Bool :=
  imageMagic.any (fun magic => magic.isPrefixOf data) ||
    contentType.any (fun type => "image/".toList.isPrefixOf type.toList) ||
    filename.any fun name => name.toList.contains '.' && imageExtensions.contains (fileExtension name)

/-- A prefix without its outer slashes. -/
def stripSlashes (path : String) : String :=
  let cs := path.toList.dropWhile (· = '/')
  String.ofList (cs.reverse.dropWhile (· = '/')).reverse

/-- The prefix of an object. -/
def objectPrefix (path : String) : String :=
  if stripSlashes path = "" then "misc" else stripSlashes path

/-- The content type of an object. -/
def objectType (contentType : Option String) : String :=
  match contentType with
  | none | some "" => "application/octet-stream"
  | some type => type

/-- INSERT of a file. -/
def insertFile (f : FileRecord) : Stmt where
  label := .registry .insertFile
  locks := .fileObjectKey f.objectKey :: (f.clientRef.map Lock.fileClientRef).toList
  check s :=
    if !(fitsChar 64 f.bucket && fitsChar 256 f.objectKey && fitsChar? 256 f.originalName &&
        fitsChar? 64 f.contentType && fitsInt f.size && fitsChar? 64 f.checksum &&
        fitsChar? 64 f.clientRef) then some .data
    else if s.files.any fun g => g.objectKey == f.objectKey then some .integrity
    else if f.clientRef.isSome && s.files.any fun g => g.clientRef == f.clientRef then
      some .integrity
    else none
  apply s := { s with files := s.files ++ [f] }

/-- The file under a `client_ref`; the empty one is none. -/
def fileByRef (clientRef : Option String) (s : Store) : Option FileRecord :=
  clientRef.bind fun ref =>
    if ref = "" then none else s.files.find? fun f => f.clientRef == some ref

/-- `upload_file`. -/
def uploadFile (storage : Storage) (body : FileUpload) : Handler FileResponse := do
  let existing ← .select (fileByRef body.clientRef)
  match existing with
  | some f => return { id := f.id, objectKey := f.objectKey, size := f.size, duplicate := true }
  | none =>
    if maxFileSize < body.data.length then
      Prog.raise (.badRequest "حجم فایل بیش از حد مجاز است (۱۰ مگابایت)")
    else if body.data.isEmpty then Prog.raise (.badRequest "فایل خالی است")
    else if !isImage body.filename body.contentType body.data then
      Prog.raise (.badRequest "فقط فایل تصویری مجاز است")
    else do
      let now ← Prog.getTime
      let uuid ← Prog.newId
      let objectKey := storage.objectKey (objectPrefix body.pathPrefix) body.filename now uuid
      if !storage.putObject objectKey body.data (objectType body.contentType) then
        Prog.raise .storageFailed
      else do
        let id ← Prog.newId
        let checksum := some (storage.sha256 body.data)
        Prog.flush (insertFile
          { id, bucket := storage.bucket, objectKey, originalName := body.filename
            contentType := body.contentType, size := body.data.length, checksum
            clientRef := body.clientRef })
        Prog.commitTx
        return { id, objectKey, size := body.data.length, checksum }

/-! ## Requests of a device -/

/-- The two requests of a pass. -/
inductive FieldRequest where
  | violation (body : ViolationCreate) (user : Option ℕ)
  | upload (body : FileUpload)
  deriving DecidableEq, Repr

inductive FieldAnswer where
  | violation (response : IssueResponse)
  | file (response : FileResponse)
  deriving DecidableEq, Repr

def FieldRequest.handler (cfg : Config) (storage : Storage) : FieldRequest → Handler FieldAnswer
  | violation body user => (createViolation cfg body user).bind fun r => .ret (.violation r)
  | upload body => (uploadFile storage body).bind fun r => .ret (.file r)

/-- An error response: its status, and the message in it. -/
structure HttpError where
  status : ℕ
  message : Option String := none
  deriving DecidableEq, Repr

/-- The statuses of `exceptions.py` and of `HTTPException`; any other exception is a 500. -/
def AppError.status : AppError → ℕ
  | gateNotFound _ | notFound => 404
  | conflict => 409
  | badRequest _ => 400
  | unprocessable _ => 422
  | unauthorized _ => 401
  | forbidden _ => 403
  | _ => 500

/-- The server rejects the content: an unknown type of violation, or a field that is not valid. -/
def HttpError.RejectsContent (e : HttpError) : Prop := e.status = 404 ∨ e.status = 422

instance (e : HttpError) : Decidable e.RejectsContent :=
  inferInstanceAs (Decidable (_ ∨ _))

/-! ## The device -/

inductive PendingStatus where
  | pending
  | error
  deriving DecidableEq, Repr

/-- `PendingViolation`, a row of the table on the device. -/
structure PendingViolation where
  clientRef : String
  plate : String
  typeCode : String
  description : Option String := none
  photoData : Option String := none
  createdAt : String
  tries : ℕ := 0
  status : PendingStatus := .pending
  lastError : Option String := none
  deriving DecidableEq, Repr

/-- The photo of an item; the empty text is none. -/
def PendingViolation.photo? (item : PendingViolation) : Option String :=
  item.photoData.filter fun photo => photo ≠ ""

/-- A photo as it is uploaded. -/
structure Blob where
  data : List UInt8
  type : Option String := none
  deriving DecidableEq, Repr

/-- The form of `uploadPhoto`. -/
def PendingViolation.upload (item : PendingViolation) (blob : Blob) : FileUpload :=
  { data := blob.data, filename := some "photo.jpg", contentType := blob.type
    clientRef := some (item.clientRef ++ ":photo"), pathPrefix := "violations" }

/-- The body that `syncPendingViolations` posts. -/
def PendingViolation.body (item : PendingViolation) (imageFileId : Option String) :
    ViolationCreate :=
  { plateRaw := item.plate, violationTypeCode := item.typeCode, description := item.description
    clientRef := some item.clientRef, imageFileId }

/-- A call that is under way: its number, the request, and whether it is sent for the second
time. -/
structure Call where
  number : ℕ
  request : FieldRequest
  retried : Bool := false
  deriving DecidableEq, Repr

/-- Where a pass stands. -/
inductive Stage where
  /-- It takes the next item. -/
  | ready
  | awaits (call : Call)
  /-- The tokens are refreshed, since the call was answered with a 401. -/
  | refreshes (call : Call) (error : HttpError)
  deriving DecidableEq, Repr

/-- A pass of `syncPendingViolations`: the items it has still to send, the current one first. -/
structure Pass where
  items : List PendingViolation
  stage : Stage := .ready
  deriving DecidableEq, Repr

/-- The device: who uses it, the table, whether there is a refresh token, and the passes that
run. -/
structure FieldDevice where
  user : Option ℕ := none
  items : List PendingViolation := []
  refreshToken : Bool := true
  passes : ℕ → Option Pass := fun _ => none

/-- `where('status').equals('pending')`. -/
def FieldDevice.pendingItems (d : FieldDevice) : List PendingViolation :=
  d.items.filter fun item => item.status = .pending

/-! ## A step of a pass -/

/-- What a pass meets next. -/
inductive PassEvent where
  /-- It goes on with the next item. -/
  | goOn
  | answer (a : FieldAnswer)
  | httpError (e : HttpError)
  /-- No answer: the request or the reply was lost. -/
  | silence
  | refreshed
  | refreshFailed
  deriving DecidableEq, Repr

/-- What becomes of the pass and of the table, and what is sent. -/
structure PassMove where
  pass : Option Pass
  table : List PendingViolation → List PendingViolation := id
  sends : Option FieldRequest := none
  logsOut : Bool := false

/-- `update` of the table. -/
def updateItem (ref : String) (f : PendingViolation → PendingViolation) :
    List PendingViolation → List PendingViolation :=
  updateWhere (fun item => item.clientRef == ref) f

/-- `delete` of the table. -/
def deleteItem (ref : String) (items : List PendingViolation) : List PendingViolation :=
  items.filter fun item => item.clientRef != ref

/-- A request is sent; `n` is the number of the call. -/
def Pass.send (pass : Pass) (n : ℕ) (request : FieldRequest) (retried : Bool) : PassMove where
  pass := some { pass with stage := .awaits { number := n, request, retried } }
  sends := some request

/-- The item is left for a later pass: its photo was not uploaded. -/
def Pass.photoFailed (item : PendingViolation) (rest : List PendingViolation) : PassMove where
  pass := some { items := rest }
  table := updateItem item.clientRef fun row =>
    { row with tries := item.tries + 1, lastError := some "photo upload failed" }

/-- `catch` of `syncPendingViolations`: an answer of any kind marks the item, its absence does
not. -/
def Pass.notStored (item : PendingViolation) (rest : List PendingViolation) :
    Option HttpError → PassMove
  | some e =>
    { pass := some { items := rest }
      table := updateItem item.clientRef fun row =>
        { row with
          status := .error, tries := item.tries + 1
          lastError := some (e.message.getD ("HTTP " ++ toString e.status)) } }
  | none =>
    { pass := some { items := rest }
      table := updateItem item.clientRef fun row => { row with tries := item.tries + 1 } }

/-- The violation is stored. -/
def Pass.stored (item : PendingViolation) (rest : List PendingViolation) : PassMove where
  pass := some { items := rest }
  table := deleteItem item.clientRef

/-- A call ended without success. -/
def Pass.failed (call : Call) (e : Option HttpError) (item : PendingViolation)
    (rest : List PendingViolation) : PassMove :=
  match call.request with
  | .upload _ => Pass.photoFailed item rest
  | .violation _ _ => Pass.notStored item rest e

/-- The next item: its photo, if it has one, or the violation. `blob` reads the photo, which may
fail. -/
def Pass.next (blob : String → Option Blob) (user : Option ℕ) (n : ℕ) (pass : Pass) : PassMove :=
  match pass.items with
  | [] => { pass := none }
  | item :: rest =>
    match item.photo? with
    | none => pass.send n (.violation (item.body none) user) false
    | some photo =>
      match blob photo with
      | some b => pass.send n (.upload (item.upload b)) false
      | none => Pass.photoFailed item rest

/-- An answer to a call. -/
def Pass.answered (user : Option ℕ) (n : ℕ) (pass : Pass) (call : Call) (item : PendingViolation)
    (rest : List PendingViolation) : FieldAnswer → Option PassMove
  | .file r =>
    match call.request with
    | .upload _ => some (pass.send n (.violation (item.body (some (toString r.id))) user) false)
    | .violation _ _ => none
  | .violation _ =>
    match call.request with
    | .upload _ => none
    | .violation _ _ => some (Pass.stored item rest)

/-- One step of a pass, if it can meet the event where it stands. -/
def Pass.on (blob : String → Option Blob) (d : FieldDevice) (n : ℕ) (pass : Pass)
    (event : PassEvent) : Option PassMove :=
  match pass.stage, pass.items, event with
  | .ready, _, .goOn => some (pass.next blob d.user n)
  | .awaits call, item :: rest, .answer a => pass.answered d.user n call item rest a
  | .awaits call, item :: rest, .httpError e =>
    -- the interceptor of `client.ts`
    if e.status = 401 ∧ d.refreshToken = true ∧ call.retried = false then
      some { pass := some { pass with stage := .refreshes call e } }
    else some (Pass.failed call (some e) item rest)
  | .awaits call, item :: rest, .silence => some (Pass.failed call none item rest)
  | .refreshes call _, _, .refreshed => some (pass.send n call.request true)
  | .refreshes call e, item :: rest, .refreshFailed =>
    some { Pass.failed call (some e) item rest with logsOut := true }
  | _, _, _ => none

end ParkingSystem
