import Registrar.Proofs.Import.Columns
import Registrar.Proofs.Import.Histories
/-!
# Reviews with something in them

Which documents make a review is decided on the documents, where any rating says something. A rating
becomes a grade only if it is zero or one, so a document may say something without weighing
anything, and its review is a row that holds nothing but nulls. A row has content exactly if its
document weighs something (`hasContent_row_iff`); where all ratings are zero or one that is the same
as saying something (`weighs_iff_of_binary`).
-/
namespace Registrar.Import

open Memory (HasCells Row Transaction Yields orNull)

variable {ids ids' : IdMap}

/-! ## Content -/

/-- The columns of a review that hold what its user says. -/
def contentColumns : List String :=
  ["liked", "course_easy", "course_useful", "course_comment", "prof_clear", "prof_engaging",
    "prof_comment"]

/-- Some column that holds what the user says is not null. -/
def HasContent (row : Row) : Prop :=
  ∃ column ∈ contentColumns, ∃ value, row.lookup column = some value ∧ value.isNull = false

instance : DecidablePred HasContent := fun row =>
  decidable_of_iff
    (∃ column ∈ contentColumns, (row.lookup column).any fun value => !value.isNull)
    (by simp [HasContent, Option.any_eq_true])

/-- A rating that has a grade. -/
def Graded (rating : Option Number.Double) : Prop :=
  ∃ x, rating = some x ∧ (x.isZero = true ∨ x.isOne = true)

namespace LegacyUserCourse

/-- The comments of the document. -/
def comments (doc : LegacyUserCourse) : List (Option String) :=
  [doc.courseReview.comment, doc.profReview.comment]

/-- The ratings of the document. -/
def ratings (doc : LegacyUserCourse) : List (Option Number.Double) :=
  [doc.courseReview.easiness, doc.courseReview.interest, doc.courseReview.usefulness,
    doc.profReview.clarity, doc.profReview.passion]

/-- The document has a comment that is not empty, or a rating that is zero or one. -/
def Weighs (doc : LegacyUserCourse) : Prop :=
  (∃ comment ∈ doc.comments, ∃ s, comment = some s ∧ s ≠ "") ∨ ∃ rating ∈ doc.ratings, Graded rating

/-- Every rating of the document is zero or one. -/
def Binary (doc : LegacyUserCourse) : Prop := ∀ rating ∈ doc.ratings, rating.isSome → Graded rating

theorem says_of_weighs {doc : LegacyUserCourse} (h : doc.Weighs) : doc.Says := by
  rcases h with hcomment | ⟨rating, hrating, x, rfl, -⟩
  · exact Or.inl hcomment
  · exact Or.inr ⟨some x, hrating, rfl⟩

/-- Where every rating has a grade, whatever says something weighs something. -/
theorem weighs_iff_of_binary {doc : LegacyUserCourse} (h : doc.Binary) : doc.Weighs ↔ doc.Says := by
  refine ⟨says_of_weighs, fun hsaid => ?_⟩
  rcases hsaid with hcomment | ⟨rating, hrating, hsome⟩
  · exact Or.inl hcomment
  · exact Or.inr ⟨rating, hrating, h rating hrating hsome⟩

end LegacyUserCourse

theorem Rescaled.isSome_iff {low high : Int} {rating : Option Number.Double} {grade : Option Int}
    (h : Rescaled low high rating grade) : grade.isSome ↔ Graded rating := by
  rw [Option.isSome_iff_exists]
  constructor
  · rintro ⟨n, hn⟩
    obtain ⟨x, hx, ⟨hzero, -⟩ | ⟨hone, -⟩⟩ := (h n).1 hn
    · exact ⟨x, hx, Or.inl hzero⟩
    · exact ⟨x, hx, Or.inr hone⟩
  · rintro ⟨x, hx, hzero | hone⟩
    · exact ⟨low, (h low).2 ⟨x, hx, Or.inl ⟨hzero, rfl⟩⟩⟩
    · exact ⟨high, (h high).2 ⟨x, hx, Or.inr ⟨hone, rfl⟩⟩⟩

theorem Kept.isSome_iff {comment kept : Option String} (h : Kept comment kept) :
    kept.isSome ↔ ∃ s, comment = some s ∧ s ≠ "" := by
  rw [Option.isSome_iff_exists]
  exact exists_congr h

theorem isNull_orNull {α : Type} {kind : Sql.Kind} {make : α → Sql.Value}
    (h : ∀ a, (make a).isNull = false) (o : Option α) :
    (orNull kind make o).isNull = false ↔ o.isSome := by
  cases o with
  | none => simp [orNull, Sql.Value.isNull]
  | some a => simp [orNull, h]

/-- What a review holds under the columns of content. -/
def ReviewRow.contents (review : ReviewRow) : List Sql.Value :=
  [orNull .smallint .smallint review.liked, orNull .smallint .smallint review.courseEasy,
    orNull .smallint .smallint review.courseUseful, orNull .text .text review.courseComment,
    orNull .smallint .smallint review.profClear, orNull .smallint .smallint review.profEngaging,
    orNull .text .text review.profComment]

theorem map_lookup_contentColumns {review : ReviewRow} {row : Row}
    (h : HasCells review.cells row) :
    (contentColumns.map fun column => row.lookup column) = review.contents.map some := by
  simp only [contentColumns, ReviewRow.contents, List.map_cons, List.map_nil, List.cons.injEq,
    and_true]
  exact ⟨h.lookup rfl, h.lookup rfl, h.lookup rfl, h.lookup rfl, h.lookup rfl, h.lookup rfl,
    h.lookup rfl⟩

theorem hasContent_iff_contents {review : ReviewRow} {row : Row} (h : HasCells review.cells row) :
    HasContent row ↔ ∃ value ∈ review.contents, value.isNull = false := by
  have hcells : HasContent row ↔
      ∃ cell ∈ contentColumns.map fun column => row.lookup column,
        ∃ value, cell = some value ∧ value.isNull = false := by
    simp only [HasContent, List.mem_map, exists_exists_and_eq_and]
  rw [hcells, map_lookup_contentColumns h]
  simp only [List.mem_map, exists_exists_and_eq_and, Option.some.injEq, exists_eq_left']

/-- **A review has content exactly if its document weighs something.** -/
theorem hasContent_row_iff {doc : LegacyUserCourse} {review : ReviewRow} {row : Row}
    (hreview : ReviewOf ids doc review) (hrow : HasCells review.cells row) :
    HasContent row ↔ doc.Weighs := by
  rw [hasContent_iff_contents hrow]
  have hgrade : ∀ grade, (orNull .smallint .smallint grade).isNull = false ↔ grade.isSome :=
    isNull_orNull fun _ => rfl
  have htext : ∀ text, (orNull .text .text text).isNull = false ↔ text.isSome :=
    isNull_orNull fun _ => rfl
  obtain ⟨hliked, heasy, huseful, hclear, hengaging⟩ := hreview.ratings
  obtain ⟨hcourse, hprof⟩ := hreview.comments
  simp only [ReviewRow.contents, LegacyUserCourse.Weighs, LegacyUserCourse.comments,
    LegacyUserCourse.ratings, List.exists_mem_cons_iff, hgrade, htext, hliked.isSome_iff,
    heasy.isSome_iff, huseful.isSome_iff, hclear.isSome_iff, hengaging.isSome_iff,
    hcourse.isSome_iff, hprof.isSome_iff, List.not_mem_nil, false_and, exists_false, or_false]
  exact iff_of_eq (by ac_rfl)

/-! ## The stage -/

/-- Which documents make a review, and what there is in the rows that they make. -/
structure Weighed (ids : IdMap) (docs chosen : List LegacyUserCourse) (rows : List Row) : Prop where
  /-- A document that says something takes the place of its course and user, whatever it weighs. -/
  firsts : Firsts LegacyUserCourse.Says (LegacyUserCourse.about ids) docs chosen
  content : List.Forall₂ (fun doc row => HasContent row ↔ doc.Weighs) chosen rows
  all_iff : (∀ row ∈ rows, HasContent row) ↔ ∀ doc ∈ chosen, doc.Weighs
  binary : (∀ doc ∈ docs, doc.Binary) → ∀ row ∈ rows, HasContent row

theorem weighed_of_content {docs chosen : List LegacyUserCourse} {rows : List Row}
    (hfirsts : Firsts LegacyUserCourse.Says (LegacyUserCourse.about ids) docs chosen)
    (hcontent : List.Forall₂ (fun doc row => HasContent row ↔ doc.Weighs) chosen rows) :
    Weighed ids docs chosen rows := by
  have hall : (∀ row ∈ rows, HasContent row) ↔ ∀ doc ∈ chosen, doc.Weighs := by
    constructor
    · intro hrows doc hdoc
      obtain ⟨row, hrow, hiff⟩ := exists_of_forall₂ hcontent hdoc
      exact hiff.1 (hrows row hrow)
    · intro hdocs row hrow
      obtain ⟨doc, hdoc, hiff⟩ := exists_of_forall₂ hcontent.flip hrow
      exact hiff.2 (hdocs doc hdoc)
  refine ⟨hfirsts, hcontent, hall, fun hbinary => hall.2 fun doc hdoc => ?_⟩
  obtain ⟨hsaid, before, hstarts, -⟩ := (hfirsts.mem_iff doc).1 hdoc
  exact (LegacyUserCourse.weighs_iff_of_binary (hbinary doc (mem_of_starts hstarts))).2 hsaid

/-- **The reviews that the stage writes have content** where their documents have a comment or a
rating that is zero or one, and only there. -/
theorem reviews_have_content (now : Time.Instant) {sources : Sources} {tx tx' : Transaction}
    {report : Report} (h : Yields now (importReviews sources) ids tx report ids' tx') :
    ∃ docs chosen rows,
      Legacy.load sources.legacy userCourseCollection LegacyUserCourse.decoder = .ok docs ∧
      (tx'.work.table "review").rows = (tx.work.table "review").rows ++ rows ∧
      report = ⟨.reviews, [⟨"review", rows.length⟩]⟩ ∧
      Weighed ids docs chosen rows := by
  obtain ⟨docs, hload, reviews, hcollect, -, -, rfl, -, rfl⟩ := (yields_importReviews now).1 h
  have hmade := forall₂_of_collectReviews hcollect
  have hrows := Memory.forall₂_hasCells reviewLayout_writes (reviews.map Prod.snd)
    (tx.work.table reviewLayout.table).lastId
  have hcontent := (forall₂_comp hmade (List.forall₂_map_left_iff.1 hrows)).imp
    fun doc row ⟨review, hreview, hrow⟩ => hasContent_row_iff hreview.2 hrow
  refine ⟨docs, _, _, hload, ?_, ?_,
    weighed_of_content (firsts_foldl LegacyUserCourse.Says (LegacyUserCourse.about ids) docs)
      hcontent⟩
  · rw [Memory.table_store_toRows]
    exact Memory.Tables.rows_add _ _ _
  · simp [Sql.Layout.entries]

/-- Documents of one user and one course that tell how interesting the course was. -/
def interests (marks : List (String × Json)) : Sources where
  legacy := Legacy.Store.ofData [(userCourseCollection, marks.map fun (id, mark) =>
    .object [("_id", .text id), ("user_id", .text "ada"), ("course_id", .text "cs135"),
      ("course_review", .object [("interest", mark)]), ("term_id", .text "2018_09")])] []
  batchSize := 1
  secret _ := "code"

/-- The map when the course and the user have been imported. -/
def idsOfInterests : IdMap := ⟨[((.course, .key "cs135"), 10), ((.user, .key "ada"), 20)], []⟩

theorem reviews_have_content_of_interests :
    ∃ report ids' tx' docs chosen rows,
      Yields ⟨0, 0⟩ (importReviews (interests [("r1", .null), ("r2", .int 1)])) idsOfInterests
        (Memory.begin {}) report ids' tx' ∧
      (tx'.work.table "review").rows = rows ∧ rows.length = 1 ∧
      Weighed idsOfInterests docs chosen rows := by
  have hresult : (Memory.perform ⟨0, 0⟩
      (importReviews (interests [("r1", .null), ("r2", .int 1)])) idsOfInterests
      (Memory.begin {})).1 = .ok ⟨.reviews, [⟨"review", 1⟩]⟩ := by
    decide +kernel
  obtain ⟨ids', tx', hyields⟩ : ∃ ids' tx', Yields ⟨0, 0⟩
      (importReviews (interests [("r1", .null), ("r2", .int 1)])) idsOfInterests (Memory.begin {})
      ⟨.reviews, [⟨"review", 1⟩]⟩ ids' tx' := ⟨_, _, Prod.ext hresult rfl⟩
  obtain ⟨docs, chosen, rows, -, hrows, hreport, hweighed⟩ := reviews_have_content ⟨0, 0⟩ hyields
  refine ⟨_, _, _, docs, chosen, rows, hyields, hrows, ?_, hweighed⟩
  exact (congrArg Report.rows hreport).symm

/-- A rating between the grades makes a review of nulls, and takes the place of the next one. -/
theorem half_interest_is_an_empty_review :
    ∃ report ids' tx' row,
      Yields ⟨0, 0⟩
        (importReviews (interests [("r1", .float (.ofRatio false 1 2)), ("r2", .int 1)]))
        idsOfInterests (Memory.begin {}) report ids' tx' ∧
      (tx'.work.table "review").rows = [row] ∧ ¬HasContent row ∧
      ids'.get? .review (.key "r1") = some 1 ∧ ids'.get? .review (.key "r2") = none := by
  let performed := Memory.perform ⟨0, 0⟩
    (importReviews (interests [("r1", .float (.ofRatio false 1 2)), ("r2", .int 1)]))
    idsOfInterests (Memory.begin {})
  have hresult : performed.1 = .ok ⟨.reviews, [⟨"review", 1⟩]⟩ := by decide +kernel
  have hrows : (performed.2.2.work.table "review").rows.length = 1 ∧
      ∀ row ∈ (performed.2.2.work.table "review").rows, ¬HasContent row := by
    decide +kernel
  have hids : performed.2.1.get? .review (.key "r1") = some 1 ∧
      performed.2.1.get? .review (.key "r2") = none := by
    decide +kernel
  obtain ⟨row, hrow⟩ := List.length_eq_one_iff.1 hrows.1
  exact ⟨_, _, _, row, Prod.ext hresult rfl, hrow,
    hrows.2 row (hrow ▸ List.mem_singleton_self row), hids⟩

end Registrar.Import
