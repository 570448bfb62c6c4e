import DiagramStudio.Diagram.Tls
import DiagramStudio.Json.Basic

/-!
# Edges

A directed connection of two nodes. Its data say whether and how the connection is encrypted, and
keep the members of the document that are not understood here.

* `EdgeData.extra_patched`: no patch touches the members that are not understood.
-/

namespace DiagramStudio

/-- What an edge tells about its connection. -/
structure EdgeData where
  tls : Bool := false
  tlsVersion : Option TlsVersion := none
  tlsCert : Option String := none
  tlsKey : Option String := none
  /-- The other members of the data, sorted by key. -/
  extra : List (String × Json) := []
deriving Repr, Inhabited

/-- A change of some keys of an edge's data. A key that is `none` is left alone. -/
structure EdgePatch where
  tls : Option Bool := none
  tlsVersion : Option TlsVersion := none
  tlsCert : Option String := none
  tlsKey : Option String := none
deriving Repr, DecidableEq, Inhabited

namespace EdgePatch

/-- Whether the patch names no key. -/
def isEmpty (patch : EdgePatch) : Bool := patch = {}

/-- The patch that takes each key from `later` if that names it, and from `earlier` otherwise. -/
def orElse (later earlier : EdgePatch) : EdgePatch where
  tls := later.tls <|> earlier.tls
  tlsVersion := later.tlsVersion <|> earlier.tlsVersion
  tlsCert := later.tlsCert <|> earlier.tlsCert
  tlsKey := later.tlsKey <|> earlier.tlsKey

end EdgePatch

namespace EdgeData

/-- Whether the data say nothing. -/
def isEmpty (data : EdgeData) : Bool :=
  !data.tls && data.tlsVersion.isNone && data.tlsCert.isNone && data.tlsKey.isNone &&
    data.extra.isEmpty

/-- The version in force (`effective_tls_version`). -/
def effectiveVersion (data : EdgeData) : TlsVersion := data.tlsVersion.getD .auto

/-- Whether a certificate or a key is named (`certificates_configured`). -/
def hasCertificates (data : EdgeData) : Bool :=
  data.tlsCert.any (· ≠ "") || data.tlsKey.any (· ≠ "")

/-- The data with the keys of the patch replaced (`merged`). -/
def patched (data : EdgeData) (patch : EdgePatch) : EdgeData where
  tls := patch.tls.getD data.tls
  tlsVersion := patch.tlsVersion <|> data.tlsVersion
  tlsCert := patch.tlsCert <|> data.tlsCert
  tlsKey := patch.tlsKey <|> data.tlsKey
  extra := data.extra

@[simp] theorem extra_patched (data : EdgeData) (patch : EdgePatch) :
    (data.patched patch).extra = data.extra := rfl

end EdgeData

/-- A connection of two nodes. -/
structure Edge where
  id : String
  source : String
  target : String
  sourceHandle : Option String
  targetHandle : Option String
  /-- The name of the edge's rendering. -/
  type : String
  data : EdgeData
deriving Repr, Inhabited

/-- The rendering of every edge that is drawn on the canvas (`DEFAULT_EDGE_TYPE`). -/
def Edge.drawnType : String := "custom"

/-- Whether the edge begins or ends at that node (`touches`). -/
def Edge.touches (edge : Edge) (node : String) : Bool :=
  edge.source = node || edge.target = node

end DiagramStudio
