import DiagramStudio.Text.Blank

/-!
# TLS versions

The versions that an edge can ask for, their names in documents, and the looser spellings that are
understood as well.
-/

namespace DiagramStudio

/-- A TLS version that an edge asks for. -/
inductive TlsVersion where
  | auto
  | tls12
  | tls13
deriving Repr, DecidableEq, Inhabited

namespace TlsVersion

/-- Every version, in the order in which they are offered. -/
def all : List TlsVersion := [auto, tls12, tls13]

/-- The name of a version in documents (`as_str`). -/
def name : TlsVersion → String
  | auto => "Auto"
  | tls12 => "TLS 1.2"
  | tls13 => "TLS 1.3"

/-- The spellings of a version, without blanks and in lower case. -/
def spellings : TlsVersion → List String
  | auto => ["auto"]
  | tls12 => ["tls1.2", "tlsv1.2", "1.2"]
  | tls13 => ["tls1.3", "tlsv1.3", "1.3"]

/-- A spelling without blanks and in lower case. Only the ASCII letters change. -/
def squeezed (text : String) : String :=
  String.ofList ((text.toList.filter fun c => !Text.isBlank c).map Char.toLower)

/-- The version that a text spells, whatever its case and its blanks (`from_name`). -/
def ofSpelling? (text : String) : Option TlsVersion :=
  all.find? fun version => (spellings version).contains (squeezed text)

/-- The version of exactly that name. -/
def ofName? (text : String) : Option TlsVersion := all.find? fun version => version.name = text

end TlsVersion

end DiagramStudio
