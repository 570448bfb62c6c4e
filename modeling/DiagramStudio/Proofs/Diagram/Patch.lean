import DiagramStudio.Proofs.Inspector.Confinement
import Mathlib.Data.Option.Basic

/-!
# Patches

The data of nodes and of edges are values under a few keys, and members under keys that are not
understood. A patch names some of the keys and has a value for each of these. What is said of patches
does not depend on which keys there are: it follows from the fact that data are patched key by key.

Results:
* `PatchLaws.of_keys`: where data are patched key by key, patches are a monoid that acts on the data,
  the empty patch is what changes nothing, and patches of different keys commute.
* `NodeData.patchLaws`, `EdgeData.patchLaws`: so it is with nodes and with edges.
-/

namespace DiagramStudio

/-! ## Patches of any keys -/

section Laws

variable {δ π κ ε : Type} {ν : κ → Type} {patched : δ → π → δ} {orElse : π → π → π}
  {isEmpty : π → Bool} {value : δ → (key : κ) → ν key} {value? : π → (key : κ) → Option (ν key)}
  {extra : δ → ε}

/-- The laws of patches. `value` is what stands under a key of data, `value?` what a patch has for a
key that it names, and `extra` what is behind no key. -/
structure PatchLaws (patched : δ → π → δ) (orElse : π → π → π) (isEmpty : π → Bool)
    (value : δ → (key : κ) → ν key) (value? : π → (key : κ) → Option (ν key)) (extra : δ → ε) :
    Prop where
  /-- A key that is named gets its value, and one that is not keeps what it had. -/
  named : ∀ data p key, value (patched data p) key = (value? p key).getD (value data key)
  others : ∀ data p, extra (patched data p) = extra data
  /-- Of two patches the later one decides, for the keys that it names. -/
  chosen : ∀ p q key, value? (orElse q p) key = (value? q key).or (value? p key)
  merge : ∀ data p q, patched (patched data p) q = patched data (orElse q p)
  assoc : ∀ p q r, orElse r (orElse q p) = orElse (orElse r q) p
  neutral : ∀ p q, isEmpty p = true → orElse p q = q ∧ orElse q p = q
  empty : ∀ p, isEmpty p = true ↔ ∀ data, patched data p = data
  commute : ∀ data p q, (∀ key, value? p key = none ∨ value? q key = none) →
    patched (patched data p) q = patched (patched data q) p

/-- Where data are patched key by key, patches obey the laws. -/
theorem PatchLaws.of_keys
    (hnamed : ∀ data p key, value (patched data p) key = (value? p key).getD (value data key))
    (hothers : ∀ data p, extra (patched data p) = extra data)
    (hchosen : ∀ p q key, value? (orElse q p) key = (value? q key).or (value? p key))
    (blank : π) (hempty : ∀ p, isEmpty p = true ↔ p = blank)
    (hblank : ∀ key, value? blank key = none)
    (hdata : ∀ a b, (∀ key, value a key = value b key) → extra a = extra b → a = b)
    (hpatch : ∀ p q, (∀ key, value? p key = value? q key) → p = q)
    (hdiffer : ∃ a b, ∀ key, value a key ≠ value b key) :
    PatchLaws patched orElse isEmpty value value? extra := by
  have hnone : ∀ p, isEmpty p = true ↔ ∀ key, value? p key = none := by
    intro p
    rw [hempty]
    constructor
    · rintro rfl
      exact hblank
    · intro hp
      apply hpatch
      intro key
      rw [hp, hblank]
  constructor
  case named => exact hnamed
  case others => exact hothers
  case chosen => exact hchosen
  case merge =>
    intro data p q
    apply hdata
    · intro key
      rw [hnamed, hnamed, hnamed, hchosen]
      cases value? q key <;> rfl
    · rw [hothers, hothers, hothers]
  case assoc =>
    intro p q r
    apply hpatch
    intro key
    rw [hchosen, hchosen, hchosen, hchosen, Option.or_assoc]
  case neutral =>
    intro p q hp
    rw [hnone] at hp
    constructor
    · apply hpatch
      intro key
      rw [hchosen, hp, Option.none_or]
    · apply hpatch
      intro key
      rw [hchosen, hp, Option.or_none]
  case empty =>
    intro p
    rw [hnone]
    constructor
    · intro hp data
      apply hdata
      · intro key
        rw [hnamed, hp, Option.getD_none]
      · exact hothers data p
    · intro hsame key
      obtain ⟨a, b, hab⟩ := hdiffer
      -- A value for the key would be what stands there in both data.
      by_contra hsome
      obtain ⟨new, hnew⟩ := Option.ne_none_iff_exists'.mp hsome
      have hvalue : ∀ data, value data key = new := by
        intro data
        rw [← hsame data, hnamed, hnew, Option.getD_some]
      exact hab key ((hvalue a).trans (hvalue b).symm)
  case commute =>
    intro data p q hapart
    apply hdata
    · intro key
      rw [hnamed, hnamed, hnamed, hnamed]
      rcases hapart key with hp | hq
      · rw [hp, Option.getD_none, Option.getD_none]
      · rw [hq, Option.getD_none, Option.getD_none]
    · rw [hothers, hothers, hothers, hothers]

end Laws

/-! ## Keys that may be absent -/

section Absent

variable {α : Type} (new old : Option α)

theorem orElse_eq_or : (new <|> old) = new.or old := by cases new <;> rfl

/-- A value that is put under a key that may be absent. -/
theorem orElse_eq_getD : (new <|> old) = (new.map some).getD old := by cases new <;> rfl

theorem map_orElse : (new <|> old).map some = (new.map some).or (old.map some) := by
  cases new <;> rfl

end Absent

/-! ## Nodes -/

/-- What can stand under a key of the data of a node. -/
def NodeField.Value : NodeField → Type
  | .label => String
  | .type | .color | .icon | .customIcon | .port | .dbName => Option String

/-- What stands under a key. -/
def NodeData.value (data : NodeData) : (field : NodeField) → field.Value
  | .label => data.label
  | .type => data.category
  | .color => data.color
  | .icon => data.icon
  | .customIcon => data.customIcon
  | .port => data.port
  | .dbName => data.dbName

/-- What a patch has for a key, if it names it. To remove the custom icon is to name it. -/
def NodePatch.value? (patch : NodePatch) : (field : NodeField) → Option field.Value
  | .label => patch.label
  | .type => patch.category.map some
  | .color => patch.color.map some
  | .icon => patch.icon.map some
  | .customIcon => patch.customIcon
  | .port => patch.port.map some
  | .dbName => patch.dbName.map some

namespace NodeData

theorem ext_value {a b : NodeData} (h : ∀ field, a.value field = b.value field)
    (hextra : a.extra = b.extra) : a = b := by
  cases a
  cases b
  rw [NodeData.mk.injEq]
  exact ⟨h .label, h .type, h .color, h .icon, h .customIcon, h .port, h .dbName, hextra⟩

theorem value_patched (data : NodeData) (patch : NodePatch) (field : NodeField) :
    (data.patched patch).value field = (patch.value? field).getD (data.value field) := by
  cases field with
  | label | customIcon => rfl
  | type | color | icon | port | dbName => exact orElse_eq_getD _ _

theorem exists_different : ∃ a b : NodeData, ∀ field, a.value field ≠ b.value field := by
  refine ⟨{}, ⟨"a", some "a", some "a", some "a", some "a", some "a", some "a", []⟩, ?_⟩
  intro field
  cases field <;> simp [value, NodeField.Value]

end NodeData

namespace NodePatch

theorem ext_value? {p q : NodePatch} (h : ∀ field, p.value? field = q.value? field) : p = q := by
  cases p
  cases q
  have hinj := fun α : Type => Option.map_injective (Option.some_injective α)
  rw [NodePatch.mk.injEq]
  exact ⟨h .label, hinj _ (h .type), hinj _ (h .color), hinj _ (h .icon), h .customIcon,
    hinj _ (h .port), hinj _ (h .dbName)⟩

theorem value?_orElse (p q : NodePatch) (field : NodeField) :
    (q.orElse p).value? field = (q.value? field).or (p.value? field) := by
  cases field with
  | label | customIcon => exact orElse_eq_or _ _
  | type | color | icon | port | dbName => exact map_orElse _ _

end NodePatch

/-- Patches of nodes obey the laws. -/
theorem NodeData.patchLaws :
    PatchLaws NodeData.patched NodePatch.orElse NodePatch.isEmpty NodeData.value NodePatch.value?
      NodeData.extra :=
  .of_keys value_patched extra_patched NodePatch.value?_orElse {} (fun _ => decide_eq_true_iff)
    (fun field => by cases field <;> rfl) (fun _ _ => ext_value)
    (fun _ _ => NodePatch.ext_value?) exists_different

/-! ## Edges -/

/-- What can stand under a key of the data of an edge. -/
def EdgeField.Value : EdgeField → Type
  | .tls => Bool
  | .tlsVersion => Option TlsVersion
  | .tlsCert | .tlsKey => Option String

/-- What stands under a key. -/
def EdgeData.value (data : EdgeData) : (field : EdgeField) → field.Value
  | .tls => data.tls
  | .tlsVersion => data.tlsVersion
  | .tlsCert => data.tlsCert
  | .tlsKey => data.tlsKey

/-- What a patch has for a key, if it names it. -/
def EdgePatch.value? (patch : EdgePatch) : (field : EdgeField) → Option field.Value
  | .tls => patch.tls
  | .tlsVersion => patch.tlsVersion.map some
  | .tlsCert => patch.tlsCert.map some
  | .tlsKey => patch.tlsKey.map some

namespace EdgeData

theorem ext_value {a b : EdgeData} (h : ∀ field, a.value field = b.value field)
    (hextra : a.extra = b.extra) : a = b := by
  cases a
  cases b
  rw [EdgeData.mk.injEq]
  exact ⟨h .tls, h .tlsVersion, h .tlsCert, h .tlsKey, hextra⟩

theorem value_patched (data : EdgeData) (patch : EdgePatch) (field : EdgeField) :
    (data.patched patch).value field = (patch.value? field).getD (data.value field) := by
  cases field with
  | tls => rfl
  | tlsVersion | tlsCert | tlsKey => exact orElse_eq_getD _ _

theorem exists_different : ∃ a b : EdgeData, ∀ field, a.value field ≠ b.value field := by
  refine ⟨{}, ⟨true, some .auto, some "a", some "a", []⟩, ?_⟩
  intro field
  cases field <;> simp [value, EdgeField.Value]

end EdgeData

namespace EdgePatch

theorem ext_value? {p q : EdgePatch} (h : ∀ field, p.value? field = q.value? field) : p = q := by
  cases p
  cases q
  have hinj := fun α : Type => Option.map_injective (Option.some_injective α)
  rw [EdgePatch.mk.injEq]
  exact ⟨h .tls, hinj _ (h .tlsVersion), hinj _ (h .tlsCert), hinj _ (h .tlsKey)⟩

theorem value?_orElse (p q : EdgePatch) (field : EdgeField) :
    (q.orElse p).value? field = (q.value? field).or (p.value? field) := by
  cases field with
  | tls => exact orElse_eq_or _ _
  | tlsVersion | tlsCert | tlsKey => exact map_orElse _ _

end EdgePatch

/-- Patches of edges obey the laws. -/
theorem EdgeData.patchLaws :
    PatchLaws EdgeData.patched EdgePatch.orElse EdgePatch.isEmpty EdgeData.value EdgePatch.value?
      EdgeData.extra :=
  .of_keys value_patched extra_patched EdgePatch.value?_orElse {} (fun _ => decide_eq_true_iff)
    (fun field => by cases field <;> rfl) (fun _ _ => ext_value)
    (fun _ _ => EdgePatch.ext_value?) exists_different

end DiagramStudio
