import Mathlib.Data.List.Forall2
import Registrar.Legacy.Store
import Registrar.Proofs.Number.Digits
/-!
# Wrapped and plain exports

`Wraps document wrapped`: some leaves of the document, at any depth, stand in `wrapped` in wrappers of
their kind. A document is `Bare` if none of its objects looks like a wrapper. Normalizing takes the
wrappers off a bare document and does nothing else to it (`normalize_wraps`), so it does not matter
in which way a collection was exported (`wrappers_transparent`).
-/
namespace Registrar

namespace Json

/-- A document without parts. -/
def isLeaf : Json → Bool
  | .array _ | .object _ => false
  | _ => true

theorem sizeOf_lt_of_field {fields : List (String × Json)} {field : String × Json}
    (h : field ∈ fields) : sizeOf field.2 < sizeOf fields := by
  have hlt := List.sizeOf_lt_of_mem h
  obtain ⟨name, value⟩ := field
  simp only [Prod.mk.sizeOf_spec] at hlt ⊢
  omega

/-- What holds of leaves, and of a document if it holds of its parts, holds of every document. -/
@[elab_as_elim]
theorem induction_parts {P : Json → Prop} (leaf : ∀ document, document.isLeaf = true → P document)
    (array : ∀ items, (∀ item ∈ items, P item) → P (.array items))
    (object : ∀ fields, (∀ field ∈ fields, P field.2) → P (.object fields)) : ∀ document, P document
  | .array items => array items fun item _ => induction_parts leaf array object item
  | .object fields => object fields fun field _ => induction_parts leaf array object field.2
  | .null | .bool _ | .int _ | .float _ | .text _ => leaf _ rfl
termination_by document => sizeOf document
decreasing_by
  all_goals simp only [Json.array.sizeOf_spec, Json.object.sizeOf_spec]
  · rename_i hitem
    have hlt := List.sizeOf_lt_of_mem hitem
    omega
  · rename_i hfield
    have hlt := sizeOf_lt_of_field hfield
    omega

end Json

namespace Legacy

/-! ## Bare documents -/

/-- The names of the fields that make an object of one field a wrapper. -/
def wrapperNames : List String := ["$oid", "$date", "$numberInt", "$numberLong", "$numberDouble"]

/-- A document stands in another one, at any depth. -/
inductive Within (part : Json) : Json → Prop
  | whole : Within part part
  | item {item : Json} {items : List Json} (hitem : item ∈ items) (h : Within part item) :
      Within part (.array items)
  | field {name : String} {value : Json} {fields : List (String × Json)}
      (hfield : (name, value) ∈ fields) (h : Within part value) : Within part (.object fields)

/-- No object in the document has the name of a wrapper as its only field. -/
def Bare (document : Json) : Prop :=
  ∀ name value, Within (.object [(name, value)]) document → name ∉ wrapperNames

theorem bare_leaf {document : Json} (hleaf : document.isLeaf = true) : Bare document := by
  intro name value h
  cases h <;> simp [Json.isLeaf] at hleaf

theorem bare_array_iff {items : List Json} : Bare (.array items) ↔ ∀ item ∈ items, Bare item := by
  constructor
  · exact fun h item hitem name value hwithin => h name value (.item hitem hwithin)
  · intro h name value hwithin
    cases hwithin with
    | item hitem hwithin => exact h _ hitem name value hwithin

theorem bare_object_iff {fields : List (String × Json)} : Bare (.object fields) ↔
    (∀ name value, fields = [(name, value)] → name ∉ wrapperNames) ∧
      ∀ field ∈ fields, Bare field.2 := by
  constructor
  · refine fun h => ⟨fun name value hfields => h name value (hfields ▸ .whole), ?_⟩
    exact fun field hfield name value hwithin => h name value (.field hfield hwithin)
  · rintro ⟨hwhole, hfields⟩ name value hwithin
    cases hwithin with
    | whole => exact hwhole name value rfl
    | field hfield hwithin => exact hfields _ hfield name value hwithin

/-- An object that does not look like a wrapper is none. -/
theorem unwrap?_eq_none {fields : List (String × Json)}
    (h : ∀ name value, fields = [(name, value)] → name ∉ wrapperNames) : unwrap? fields = none := by
  unfold unwrap?
  split
  · rename_i name value
    have hname := h name value rfl
    simp only [wrapperNames, List.mem_cons, List.not_mem_nil, or_false, not_or] at hname
    unfold wrapped?
    split <;> simp_all
  · rfl

/-- Normalizing does nothing to a bare document. -/
theorem normalize_bare {document : Json} (h : Bare document) : normalize document = document := by
  induction document using Json.induction_parts with
  | leaf document hleaf => cases document <;> simp_all [normalize, Json.isLeaf]
  | array items ih =>
    have hitems : ∀ item ∈ items, normalize item = item :=
      fun item hitem => ih item hitem (bare_array_iff.1 h item hitem)
    rw [normalize, normalizeItems_eq, List.map_congr_left hitems, List.map_id']
  | object fields ih =>
    obtain ⟨hwhole, hparts⟩ := bare_object_iff.1 h
    have hfields : ∀ field ∈ fields, (field.1, normalize field.2) = field :=
      fun field hfield => by rw [ih field hfield (hparts field hfield)]
    rw [normalize, unwrap?_eq_none hwhole, normalizeFields_eq]
    exact congrArg Json.object ((List.map_congr_left hfields).trans (List.map_id' fields))

/-! ## Wrapped leaves -/

/-- The second document is the first one with some of its leaves in wrappers: a text as an id or a
date, a whole number of 64 bits in decimal, a finite number as any text that is read as it. -/
inductive Wraps : Json → Json → Prop
  | kept (document : Json) : Wraps document document
  | text {name : String} (hname : name = "$oid" ∨ name = "$date") (s : String) :
      Wraps (.text s) (.object [(name, .text s)])
  | int {name : String} (hname : name = "$numberInt" ∨ name = "$numberLong") {n : Int}
      (hlow : -9223372036854775808 ≤ n) (hhigh : n ≤ 9223372036854775807) :
      Wraps (.int n) (.object [(name, .text (Number.shown n))])
  | float {x : Number.Double} {s : String} (hfinite : x.isFinite = true)
      (hread : Number.Double.read? s.toList = some x) :
      Wraps (.float x) (.object [("$numberDouble", .text s)])
  | array {items wrapped : List Json} (h : List.Forall₂ Wraps items wrapped) :
      Wraps (.array items) (.array wrapped)
  | object {fields wrapped : List (String × Json)}
      (hnames : wrapped.map Prod.fst = fields.map Prod.fst)
      (h : List.Forall₂ Wraps (fields.map Prod.snd) (wrapped.map Prod.snd)) :
      Wraps (.object fields) (.object wrapped)

theorem normalize_int {name : String} (hname : name = "$numberInt" ∨ name = "$numberLong") {n : Int}
    (hlow : -9223372036854775808 ≤ n) (hhigh : n ≤ 9223372036854775807) :
    normalize (.object [(name, .text (Number.shown n))]) = .int n := by
  have hwhole : wholeText? (Number.shown n) = some n := by
    rw [wholeText?, Number.shown, String.toList_ofList, Number.readInt64,
      Number.readWithin_decimal hlow hhigh]
    rfl
  rcases hname with rfl | rfl <;> simp [normalize, unwrap?, wrapped?, hwhole]

theorem normalize_float {x : Number.Double} {s : String} (hfinite : x.isFinite = true)
    (hread : Number.Double.read? s.toList = some x) :
    normalize (.object [("$numberDouble", .text s)]) = .float x := by
  simp [normalize, unwrap?, wrapped?, hread, hfinite]

/-- Documents that are normalized one by one. -/
theorem map_normalize {documents wrapped : List Json} (h : List.Forall₂ Wraps documents wrapped)
    (hnormalize : ∀ document ∈ documents, ∀ other, Wraps document other →
      normalize other = document) : wrapped.map normalize = documents := by
  induction h with
  | nil => rfl
  | cons hwraps _ ih =>
    rw [List.map_cons, hnormalize _ List.mem_cons_self _ hwraps,
      ih fun document hdocument => hnormalize document (List.mem_cons_of_mem _ hdocument)]

/-- **Normalizing** takes the wrappers off a bare document. -/
theorem normalize_wraps {document wrapped : Json} (hbare : Bare document)
    (h : Wraps document wrapped) : normalize wrapped = document := by
  induction document using Json.induction_parts generalizing wrapped with
  | leaf document hleaf =>
    cases h with
    | kept => exact normalize_bare hbare
    | text hname s => rcases hname with rfl | rfl <;> rfl
    | int hname hlow hhigh => exact normalize_int hname hlow hhigh
    | float hfinite hread => exact normalize_float hfinite hread
    | array | object => cases hleaf
  | array items ih =>
    cases h with
    | kept => exact normalize_bare hbare
    | array h =>
      rw [normalize, normalizeItems_eq, map_normalize h fun item hitem other hwraps =>
        ih item hitem (bare_array_iff.1 hbare item hitem) hwraps]
  | object fields ih =>
    cases h with
    | kept => exact normalize_bare hbare
    | @object _ wrapped hnames h =>
      obtain ⟨hwhole, hparts⟩ := bare_object_iff.1 hbare
      -- An object keeps its names, so it looks like a wrapper only if it did before.
      have hunwrap : unwrap? wrapped = none := by
        refine unwrap?_eq_none fun name value hwrapped => ?_
        rw [hwrapped, List.map_singleton, eq_comm, List.map_eq_singleton_iff] at hnames
        obtain ⟨⟨_, old⟩, hfields, rfl⟩ := hnames
        exact hwhole _ old hfields
      have hvalues : (wrapped.map Prod.snd).map normalize = fields.map Prod.snd := by
        refine map_normalize h fun value hvalue other hwraps => ?_
        obtain ⟨field, hfield, rfl⟩ := List.mem_map.1 hvalue
        exact ih field hfield (hparts field hfield) hwraps
      rw [normalize, hunwrap, normalizeFields_eq]
      refine congrArg Json.object ?_
      have hfields : fields =
          (wrapped.map Prod.fst).zip ((wrapped.map Prod.snd).map normalize) :=
        List.zip_of_prod hnames.symm hvalues.symm
      rw [hfields]
      refine List.zip_of_prod ?_ ?_ <;> simp [List.map_map, Function.comp_def]

theorem decodeFrom_wraps {α : Type} (collection : String) (decode : Json.Decoder α) (index : Nat)
    {documents wrapped : List Json} (hbare : ∀ document ∈ documents, Bare document)
    (h : List.Forall₂ Wraps documents wrapped) :
    decodeFrom collection decode index wrapped = decodeFrom collection decode index documents := by
  induction h generalizing index with
  | nil => rfl
  | cons hwraps _ ih =>
    have hfirst := hbare _ List.mem_cons_self
    rw [decodeFrom, decodeFrom, normalize_wraps hfirst hwraps, normalize_bare hfirst,
      ih _ fun document hdocument => hbare document (List.mem_cons_of_mem _ hdocument)]

/-- **Wrappers are transparent** at any depth: wrapped and plain documents are normalized to the same
documents, so a wrapped and a plain export of a collection hold the same values, or fail alike. -/
theorem wrappers_transparent :
    (∀ document wrapped, Bare document → Wraps document wrapped → normalize wrapped = document) ∧
    (∀ document, Bare document → normalize document = document) ∧
    ∀ {α : Type} (decode : Json.Decoder α) (collection : String) (plain exported : Store)
      (documents wrapped : List Json), plain.documents collection = .ok documents →
      exported.documents collection = .ok wrapped → (∀ document ∈ documents, Bare document) →
      List.Forall₂ Wraps documents wrapped →
      load exported collection decode = load plain collection decode := by
  refine ⟨fun _ _ => normalize_wraps, fun _ => normalize_bare, ?_⟩
  intro α decode collection plain exported documents wrapped hplain hexported hbare h
  rw [load, load, hplain, hexported]
  exact decodeFrom_wraps collection decode 0 hbare h

/-- Wrappers in an array and in a field, beside an object of one field and a field of one name that is
not alone. -/
theorem wrappers_transparent_of_nested :
    let least : Int := -9223372036854775808
    let x : Number.Double := .finite false 6755399441055744 (-52)
    let document : Json := .object [("$oid", .text "a"),
      ("list", .array [.int least, .object [("score", .float x)], .null])]
    let wrapped : Json := .object [("$oid", .object [("$oid", .text "a")]),
      ("list", .array [.object [("$numberLong", .text "-9223372036854775808")],
        .object [("score", .object [("$numberDouble", .text "+15e-1")])], .null])]
    let plain := Store.ofData [("user", [document])] []
    let exported := Store.ofData [("user", [wrapped])] []
    Bare document ∧ Wraps document wrapped ∧ normalize wrapped = document ∧
      normalize document = document ∧ load exported "user" .ok = load plain "user" .ok := by
  intro least x document wrapped plain exported
  have hleaves : Bare (.text "a") ∧ Bare (.int least) ∧ Bare (.float x) ∧ Bare .null :=
    ⟨bare_leaf rfl, bare_leaf rfl, bare_leaf rfl, bare_leaf rfl⟩
  have hbare : Bare document := by
    simpa [document, bare_object_iff, bare_array_iff, wrapperNames] using hleaves
  have hshown : Number.shown least = "-9223372036854775808" := by decide +kernel
  have hread : Number.Double.read? "+15e-1".toList = some x := by decide +kernel
  have hleast : Wraps (.int least) (.object [("$numberLong", .text "-9223372036854775808")]) :=
    hshown ▸ .int (.inr rfl) (by decide) (by decide)
  have hscore : Wraps (.object [("score", .float x)])
      (.object [("score", .object [("$numberDouble", .text "+15e-1")])]) :=
    .object rfl (.cons (.float rfl hread) .nil)
  have hwraps : Wraps document wrapped :=
    .object rfl (.cons (.text (.inl rfl) "a")
      (.cons (.array (.cons hleast (.cons hscore (.cons (.kept .null) .nil)))) .nil))
  obtain ⟨hwrapped, hplain, hload⟩ := wrappers_transparent
  exact ⟨hbare, hwraps, hwrapped document wrapped hbare hwraps, hplain document hbare,
    hload .ok "user" plain exported [document] [wrapped] rfl rfl (by simpa using hbare)
      (.cons hwraps .nil)⟩

end Legacy

end Registrar
