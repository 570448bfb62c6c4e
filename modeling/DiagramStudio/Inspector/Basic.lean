import DiagramStudio.Canvas.Step
import DiagramStudio.Inspector.Form
import DiagramStudio.Text.Base64

/-!
# The inspector

The inspector edits the selected element. It keeps nothing of the element; its own are the way in
which certificates are provided, and the certificate files that were picked for the present
selection. Files are forgotten as soon as the selection has changed, even to the same element
again: the inspector compares the epoch of the canvas with the one it saw last.

Where the interface of the editor has another name for something, it stands in parentheses.

* `Uploads.get_put`: a file that is put into a slot is found there, and no other slot changes.
* `Inspector.sync_sync`: an inspector that follows the selection stays as it is.
-/

namespace DiagramStudio

/-- What a certificate file is for. -/
inductive CertSlot where
  /-- The certificate of the server (`ServerCertificate`). -/
  | server
  /-- Its private key (`PrivateKey`). -/
  | key
  /-- The certificate of the authority that signed it (`CaCertificate`). -/
  | authority
deriving Repr, DecidableEq

/-- A certificate file that was picked. -/
structure UploadedFile where
  name : String
  bytes : List UInt8
deriving Repr, DecidableEq, Inhabited

/-- The files that were picked for the present selection (`CertificateUploads`). -/
structure Uploads where
  server : Option UploadedFile := none
  key : Option UploadedFile := none
  authority : Option UploadedFile := none
deriving Repr, DecidableEq, Inhabited

namespace Uploads

/-- The file in a slot (`slot`). -/
def get (uploads : Uploads) : CertSlot → Option UploadedFile
  | .server => uploads.server
  | .key => uploads.key
  | .authority => uploads.authority

/-- Puts a file into a slot (`slot_mut`). -/
def put (uploads : Uploads) (file : UploadedFile) : CertSlot → Uploads
  | .server => { uploads with server := some file }
  | .key => { uploads with key := some file }
  | .authority => { uploads with authority := some file }

theorem get_put (uploads : Uploads) (file : UploadedFile) (slot other : CertSlot) :
    (uploads.put file slot).get other = if other = slot then some file else uploads.get other := by
  cases slot <;> cases other <;> rfl

end Uploads

/-- The inspector. -/
structure Inspector where
  /-- The epoch of the selection that the uploads belong to (`bound_epoch`). -/
  epoch : UInt64 := 0
  /-- How certificates are provided (`cert_mode`). -/
  mode : CertMode := .upload
  uploads : Uploads := {}
deriving Repr, DecidableEq, Inhabited

namespace Inspector

/-- The certificate that generation writes (`GENERATED_CERT`). -/
def generatedCert : String := "generated-cert.crt"

/-- The key that generation writes (`GENERATED_KEY`). -/
def generatedKey : String := "generated-key.key"

/-- Follows the selection of the canvas (`sync`). -/
def sync (inspector : Inspector) (canvas : Canvas) : Inspector :=
  if inspector.epoch = canvas.epoch then inspector
  else { inspector with epoch := canvas.epoch, uploads := {} }

@[simp] theorem epoch_sync (inspector : Inspector) (canvas : Canvas) :
    (inspector.sync canvas).epoch = canvas.epoch := by
  unfold sync
  split
  · assumption
  · rfl

@[simp] theorem sync_sync (inspector : Inspector) (canvas : Canvas) :
    (inspector.sync canvas).sync canvas = inspector.sync canvas := by
  rw [sync, if_pos (epoch_sync inspector canvas)]

/-- What the inspector shows (`view`). -/
def view (inspector : Inspector) (canvas : Canvas) : InspectorView :=
  match canvas.selected with
  | none => .empty
  | some (.node node) => .node node.form
  | some (.edge edge) => .edge (edge.form inspector.mode)

/-- The canvas after an edit of the selected element (`edit`), and whether the edit applies to
it. -/
def applyEdit (canvas : Canvas) (edit : FieldEdit) : Canvas × Bool :=
  match canvas.selected with
  | none => (canvas, false)
  | some (.node node) =>
    match edit.onNode with
    | some (field, patch) =>
      if node.fields.contains field then canvas.updateNode node.id patch else (canvas, false)
    | none => (canvas, false)
  | some (.edge edge) =>
    match edit.onEdge edge.data with
    | some patch => canvas.updateEdge edge.id patch
    | none => (canvas, false)

/-- Whether an edge with TLS is selected (`tls_edge_selected`). -/
def tlsEdge? (canvas : Canvas) : Option Edge :=
  match canvas.selected with
  | some (.edge edge) => if edge.data.tls then some edge else none
  | _ => none

/-- The reference that embeds an image (`upload_custom_icon`). -/
def imageReference (mime : String) (bytes : List UInt8) : String :=
  "data:" ++ mime ++ ";base64," ++ Text.base64 bytes

/-- The canvas after a generated certificate and key were written to the selected edge, and whether
they were (`generate_certificate`). -/
def writeGenerated (canvas : Canvas) : Canvas × Bool :=
  match tlsEdge? canvas with
  | none => (canvas, false)
  | some edge =>
    let (withCert, found) := canvas.updateEdge edge.id { tlsCert := some generatedCert }
    if found then withCert.updateEdge edge.id { tlsKey := some generatedKey } else (withCert, false)

/-- A step of the inspector. -/
inductive Step where
  | sync
  | edit (edit : FieldEdit)
  /-- Gives the selected node an image (`upload_custom_icon`). -/
  | uploadIcon (mime : String) (bytes : List UInt8)
  /-- Chooses how certificates are provided (`set_cert_mode`). -/
  | setMode (mode : CertMode)
  /-- Keeps a certificate file for the selected edge (`upload_certificate`). -/
  | uploadCert (slot : CertSlot) (file : UploadedFile)
  /-- Writes a generated certificate and key to the selected edge (`generate_certificate`). -/
  | generateCert
  | close
  | delete
deriving Repr

/-- The inspector and the canvas after a step, and the answer. -/
def step (inspector : Inspector) (canvas : Canvas) : Step → Inspector × Canvas × Outcome
  | .sync => (inspector.sync canvas, canvas, .nothing)
  | .edit edit =>
    let (edited, done) := applyEdit canvas edit
    (inspector.sync canvas, edited, .accepted done)
  | .uploadIcon mime bytes =>
    let (edited, done) := applyEdit canvas (.customIcon (some (imageReference mime bytes)))
    (inspector.sync canvas, edited, .accepted done)
  | .setMode mode => ({ inspector with mode }, canvas, .nothing)
  | .uploadCert slot file =>
    let synced := inspector.sync canvas
    if synced.mode = .upload && (tlsEdge? canvas).isSome then
      ({ synced with uploads := synced.uploads.put file slot }, canvas, .accepted true)
    else (synced, canvas, .accepted false)
  | .generateCert =>
    let synced := inspector.sync canvas
    if synced.mode = .generate then
      let (written, done) := writeGenerated canvas
      (synced, written, .accepted done)
    else (synced, canvas, .accepted false)
  | .close =>
    let closed := canvas.deselect
    (inspector.sync closed, closed, .nothing)
  | .delete =>
    let (rest, removed) := canvas.deleteSelection
    (inspector.sync rest, rest, .removed removed)

end Inspector

end DiagramStudio
