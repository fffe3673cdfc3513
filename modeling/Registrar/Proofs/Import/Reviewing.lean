import Registrar.Proofs.Import.Guarding
import Registrar.Proofs.Import.Places
import Registrar.Proofs.Time.Order
/-!
# Which reviews are imported

A user has one review of a course, made from the first document of the two that says something
(`Selected`). Documents that say nothing make no review and take nobody's place. The rows stand in
the order of the documents that they are made from, and afterwards the identifier map leads from
each of these documents, and from no other, to its own row (`Stored`).
-/
namespace Registrar.Import

open Memory (HasCells Row Transaction)
open Time (Instant)

variable {ids : IdMap}

/-! ## What a review holds -/

namespace LegacyUserCourse

/-- The document has a comment that is not empty, or a rating. -/
def Says (doc : LegacyUserCourse) : Prop :=
  (∃ comment ∈ [doc.courseReview.comment, doc.profReview.comment], ∃ s, comment = some s ∧ s ≠ "") ∨
    ∃ rating ∈ [doc.courseReview.easiness, doc.courseReview.interest, doc.courseReview.usefulness,
      doc.profReview.clarity, doc.profReview.passion], rating.isSome

theorem nonEmpty_eq_none_iff {text : Option String} :
    nonEmpty text = none ↔ ¬∃ s, text = some s ∧ s ≠ "" := by
  cases text <;> simp [nonEmpty]

theorem says_iff {doc : LegacyUserCourse} : doc.Says ↔ doc.isEmpty = false := by
  rw [← not_iff_not, Bool.not_eq_false]
  simp only [Says, isEmpty, Bool.and_eq_true, Option.isNone_iff_eq_none, nonEmpty_eq_none_iff,
    List.exists_mem_cons_iff, List.not_mem_nil, false_and, exists_false, or_false, not_or,
    Option.isSome_iff_ne_none, not_not]
  tauto

instance : DecidablePred Says := fun _ => decidable_of_iff _ says_iff.symm

/-- The rows of the course and of the user. -/
def about (ids : IdMap) (doc : LegacyUserCourse) : Option Int × Option Int :=
  (ids.get? .course (.key doc.courseId), ids.get? .user (.key doc.userId))

/-- The document has the date. -/
def Dated (doc : LegacyUserCourse) (date : Instant) : Prop :=
  some date ∈ [doc.courseReview.commentDate, doc.courseReview.ratingDate,
    doc.profReview.commentDate, doc.profReview.ratingDate]

theorem mem_dates_iff {doc : LegacyUserCourse} {date : Instant} :
    date ∈ doc.dates ↔ doc.Dated date := by
  simp [dates, Dated]

end LegacyUserCourse

/-- The grade of a rating: the low one for zero, the high one for one, and none for anything else. -/
def Rescaled (low high : Int) (rating : Option Number.Double) (grade : Option Int) : Prop :=
  ∀ n, grade = some n ↔
    ∃ x, rating = some x ∧ (x.isZero = true ∧ n = low ∨ x.isOne = true ∧ n = high)

/-- The comment that is kept: one that is not empty. -/
def Kept (comment kept : Option String) : Prop := ∀ s, kept = some s ↔ comment = some s ∧ s ≠ ""

/-- What the row of a review of a document holds. -/
structure ReviewOf (ids : IdMap) (doc : LegacyUserCourse) (row : ReviewRow) : Prop where
  course : ids.get? .course (.key doc.courseId) = some row.course
  user : ids.get? .user (.key doc.userId) = some row.user
  prof_iff : ∀ prof, row.prof = some prof ↔
    ∃ key, doc.profId = some key ∧ key ≠ "" ∧ ids.get? .prof (.key key) = some prof
  /-- Every rating has its own column. -/
  ratings : Rescaled 0 1 doc.courseReview.interest row.liked ∧
    Rescaled 1 4 doc.courseReview.easiness row.courseEasy ∧
    Rescaled 1 4 doc.courseReview.usefulness row.courseUseful ∧
    Rescaled 1 4 doc.profReview.clarity row.profClear ∧
    Rescaled 1 4 doc.profReview.passion row.profEngaging
  liked : row.liked ∈ [none, some 0, some 1]
  grades : ∀ grade ∈ [row.courseEasy, row.courseUseful, row.profClear, row.profEngaging],
    grade ∈ [none, some 1, some 4]
  comments : Kept doc.courseReview.comment row.courseComment ∧
    Kept doc.profReview.comment row.profComment
  isPublic_iff : row.isPublic = true ↔ doc.courseReview.privacy = 2
  /-- Without dates the review has none either. -/
  dateless : (∀ date, ¬doc.Dated date) → row.createdAt = none ∧ row.updatedAt = none
  /-- With dates the review has the least and the greatest. -/
  dated : (∃ date, doc.Dated date) → ∃ first last, row.createdAt = some first ∧
    row.updatedAt = some last ∧ doc.Dated first ∧ doc.Dated last ∧ first.NoLater last ∧
    ∀ date, doc.Dated date → first.NoLater date ∧ date.NoLater last

theorem rescaled_rescale (low high : Int) (rating : Option Number.Double) :
    Rescaled low high rating (rescale low high rating) := by
  intro n
  cases rating with
  | none => simp [rescale]
  | some x =>
    have hapart : x.isZero = true → x.isOne = false := fun hzero => by
      have hone : Number.Double.ofNat false 1 = .finite false 4503599627370496 (-52) := by
        decide +kernel
      cases x <;> simp_all [Number.Double.isZero, Number.Double.isOne]
    simp only [rescale, Option.some.injEq, exists_eq_left']
    by_cases hzero : x.isZero = true
    · simp [hzero, hapart hzero, eq_comm]
    · by_cases hone : x.isOne = true <;> simp [hzero, hone, eq_comm]

/-- A grade is missing, the low one or the high one. -/
theorem Rescaled.mem {low high : Int} {rating : Option Number.Double} {grade : Option Int}
    (h : Rescaled low high rating grade) : grade ∈ [none, some low, some high] := by
  cases grade with
  | none => simp
  | some n =>
    obtain ⟨x, -, ⟨-, rfl⟩ | ⟨-, rfl⟩⟩ := (h n).1 rfl
    · simp
    · simp

theorem kept_nonEmpty (comment : Option String) : Kept comment (nonEmpty comment) := by
  simp [Kept, nonEmpty, Option.filter_eq_some_iff]

theorem reviewOf_row {doc : LegacyUserCourse} {course user : Int}
    (hcourse : ids.get? .course (.key doc.courseId) = some course)
    (huser : ids.get? .user (.key doc.userId) = some user) :
    ReviewOf ids doc (doc.row ids course user) where
  course := hcourse
  user := huser
  prof_iff prof := by
    simp only [LegacyUserCourse.row, nonEmpty, Option.bind_eq_some_iff, Option.filter_eq_some_iff,
      decide_eq_true_eq, and_assoc]
  ratings := ⟨rescaled_rescale 0 1 _, rescaled_rescale 1 4 _, rescaled_rescale 1 4 _,
    rescaled_rescale 1 4 _, rescaled_rescale 1 4 _⟩
  liked := (rescaled_rescale 0 1 _).mem
  grades := by
    rw [List.forall_mem_cons, List.forall_mem_cons, List.forall_mem_cons,
      List.forall_mem_singleton]
    exact ⟨(rescaled_rescale 1 4 _).mem, (rescaled_rescale 1 4 _).mem,
      (rescaled_rescale 1 4 _).mem, (rescaled_rescale 1 4 _).mem⟩
  comments := ⟨kept_nonEmpty _, kept_nonEmpty _⟩
  isPublic_iff := decide_eq_true_iff
  dateless hnone := by
    have hdates : doc.dates = [] :=
      List.eq_nil_iff_forall_not_mem.2 fun date hdate =>
        hnone date (LegacyUserCourse.mem_dates_iff.1 hdate)
    exact ⟨Instant.earliest?_eq_none_iff.2 hdates, Instant.latest?_eq_none_iff.2 hdates⟩
  dated := by
    rintro ⟨date, hdate⟩
    have hdates : doc.dates ≠ [] := List.ne_nil_of_mem (LegacyUserCourse.mem_dates_iff.2 hdate)
    obtain ⟨first, hfirst⟩ := Option.ne_none_iff_exists'.1
      (mt Instant.earliest?_eq_none_iff.1 hdates)
    obtain ⟨last, hlast⟩ := Option.ne_none_iff_exists'.1 (mt Instant.latest?_eq_none_iff.1 hdates)
    obtain ⟨hmem, hleast⟩ := Instant.earliest?_spec hfirst
    obtain ⟨hmem', hgreatest⟩ := Instant.latest?_spec hlast
    simp only [LegacyUserCourse.mem_dates_iff] at hmem hleast hmem' hgreatest
    exact ⟨first, last, hfirst, hlast, hmem, hmem', hleast last hmem',
      fun date hdate => ⟨hleast date hdate, hgreatest date hdate⟩⟩

/-! ## Which documents make a review -/

/-- The review is made from the document and named for it. -/
def Reviews (ids : IdMap) (doc : LegacyUserCourse) (review : String × ReviewRow) : Prop :=
  review.1 = doc.id ∧ ReviewOf ids doc review.2

/-- Documents and their reviews are about the same. -/
theorem map_about {chosen : List LegacyUserCourse} {reviews : List (String × ReviewRow)}
    (h : List.Forall₂ (Reviews ids) chosen reviews) :
    chosen.map (LegacyUserCourse.about ids) =
      reviews.map fun review => (some review.2.course, some review.2.user) := by
  refine map_eq_map_iff_forall₂.2 (h.imp fun doc review hreview => ?_)
  rw [LegacyUserCourse.about, hreview.2.course, hreview.2.user]

theorem map_names {chosen : List LegacyUserCourse} {reviews : List (String × ReviewRow)}
    (h : List.Forall₂ (Reviews ids) chosen reviews) :
    (reviews.map fun review => LegacyId.key review.1) = chosen.map fun doc => .key doc.id := by
  refine (map_eq_map_iff_forall₂.2 (h.imp fun doc review hreview => ?_)).symm
  rw [hreview.1]

/-- One more document makes a review if it says something and there is none yet. -/
theorem collectReviews_cons {doc : LegacyUserCourse} {course user : Int}
    (hcourse : ids.get? .course (.key doc.courseId) = some course)
    (huser : ids.get? .user (.key doc.userId) = some user)
    (before : List (String × ReviewRow)) (rest : List LegacyUserCourse) :
    collectReviews ids before (doc :: rest) =
      if doc.isEmpty = true ∨ (course, user) ∈ before.map fun review => review.2.about then
        collectReviews ids before rest
      else collectReviews ids (before ++ [(doc.id, doc.row ids course user)]) rest := by
  rw [collectReviews, IdMap.require_eq_ok_iff.2 hcourse, IdMap.require_eq_ok_iff.2 huser]
  refine if_congr ?_ rfl rfl
  simp [ReviewRow.about]

/-- The reviews that are collected are those of the documents that come first and say something. -/
theorem collectReviews_eq {docs : List LegacyUserCourse}
    (hcourses : ∀ doc ∈ docs, ∃ course, ids.get? .course (.key doc.courseId) = some course)
    (husers : ∀ doc ∈ docs, ∃ user, ids.get? .user (.key doc.userId) = some user)
    {chosen : List LegacyUserCourse} {before : List (String × ReviewRow)}
    (hbefore : List.Forall₂ (Reviews ids) chosen before) :
    ∃ after, collectReviews ids before docs = .ok after ∧ List.Forall₂ (Reviews ids)
      (docs.foldl (addFirst LegacyUserCourse.Says (LegacyUserCourse.about ids)) chosen) after := by
  induction docs generalizing chosen before with
  | nil => exact ⟨before, rfl, hbefore⟩
  | cons doc rest ih =>
    obtain ⟨course, hcourse⟩ := hcourses doc List.mem_cons_self
    obtain ⟨user, huser⟩ := husers doc List.mem_cons_self
    have hrest := @ih (fun doc hdoc => hcourses doc (List.mem_cons_of_mem _ hdoc))
      (fun doc hdoc => husers doc (List.mem_cons_of_mem _ hdoc))
    have hthere : (course, user) ∈ (before.map fun review => review.2.about) ↔
        doc.about ids ∈ chosen.map (LegacyUserCourse.about ids) := by
      rw [LegacyUserCourse.about, hcourse, huser, map_about hbefore]
      simp [ReviewRow.about]
    have hskip : (doc.isEmpty = true ∨ (course, user) ∈ before.map fun review => review.2.about) ↔
        ¬(doc.Says ∧ doc.about ids ∉ chosen.map (LegacyUserCourse.about ids)) := by
      rw [LegacyUserCourse.says_iff, not_and_not_right, hthere, ← Bool.not_eq_true,
        or_iff_not_imp_left]
    rw [collectReviews_cons hcourse huser, List.foldl_cons, ← ite_eq_addFirst hskip]
    split
    · exact hrest hbefore
    · exact hrest (List.rel_append hbefore (.cons ⟨rfl, reviewOf_row hcourse huser⟩ .nil))

/-- The documents that make a review, and the reviews that they make. -/
structure Selected (ids : IdMap) (docs chosen : List LegacyUserCourse) (reviews : List ReviewRow) :
    Prop where
  firsts : Firsts LegacyUserCourse.Says (LegacyUserCourse.about ids) docs chosen
  rows : List.Forall₂ (ReviewOf ids) chosen reviews
  /-- A course and a user have one review. -/
  once : (reviews.map ReviewRow.about).Nodup
  /-- They have one if some document of theirs says something. -/
  about_iff : ∀ course user, (course, user) ∈ reviews.map ReviewRow.about ↔
    ∃ doc ∈ docs, doc.Says ∧ doc.about ids = (some course, some user)

theorem selected_of_firsts {docs chosen : List LegacyUserCourse}
    {reviews : List (String × ReviewRow)}
    (hfirsts : Firsts LegacyUserCourse.Says (LegacyUserCourse.about ids) docs chosen)
    (hreviews : List.Forall₂ (Reviews ids) chosen reviews) :
    Selected ids docs chosen (reviews.map Prod.snd) := by
  have habout : chosen.map (LegacyUserCourse.about ids) =
      ((reviews.map Prod.snd).map ReviewRow.about).map (Prod.map some some) := by
    rw [map_about hreviews, List.map_map, List.map_map]
    rfl
  refine ⟨hfirsts, List.forall₂_map_right_iff.2 (hreviews.imp fun _ _ h => h.2), ?_, ?_⟩
  · have hnodup := hfirsts.nodup
    rw [habout] at hnodup
    exact hnodup.of_map _
  · intro course user
    rw [← hfirsts.mem_keys_iff, habout, List.mem_map (f := Prod.map some some)]
    constructor
    · exact fun hmem => ⟨(course, user), hmem, rfl⟩
    · rintro ⟨pair, hmem, hpair⟩
      cases hpair
      exact hmem

/-! ## The stage -/

/-- The rows have the cells of the reviews, in order, and the map leads from the document of each one
to its row, and from no other document to a review. -/
structure Stored (ids' : IdMap) (chosen : List LegacyUserCourse) (reviews : List ReviewRow)
    (rows : List Row) : Prop where
  cells : List.Forall₂ (fun review => HasCells review.cells) reviews rows
  own : List.Forall₂ (fun doc => ids'.LeadsTo .review (.key doc.id)) chosen rows
  only : ∀ id row, ids'.get? .review id = some row → ∃ doc ∈ chosen, id = .key doc.id

theorem stored_named {chosen : List LegacyUserCourse} {reviews : List ReviewRow}
    (hfresh : ids.Fresh .review (chosen.map fun doc => .key doc.id))
    (hnone : ∀ id, ids.get? .review id = none) (hlength : reviews.length = chosen.length)
    (lastId : Nat) :
    Stored (ids.named .review (chosen.map fun doc => .key doc.id) lastId) chosen reviews
      (Memory.numbered lastId (reviewLayout.entries reviews)) where
  cells := Memory.forall₂_hasCells reviewLayout_writes reviews lastId
  own := IdMap.forall₂_leadsTo reviewLayout_wellShaped hfresh hlength lastId
  only id row hget := by
    rcases (IdMap.get?_named_iff hfresh _ _ _).1 hget with hold | ⟨i, hi, -⟩
    · cases (hnone id).symm.trans hold
    · obtain ⟨doc, hdoc, rfl⟩ := List.mem_map.1 (List.mem_of_getElem? hi)
      exact ⟨doc, hdoc, rfl⟩

theorem fresh_of_firsts {docs chosen : List LegacyUserCourse}
    (hfirsts : Firsts LegacyUserCourse.Says (LegacyUserCourse.about ids) docs chosen)
    (hdistinct : (docs.map LegacyUserCourse.id).Nodup)
    (hnone : ∀ id, ids.get? .review id = none) :
    ids.Fresh .review (chosen.map fun doc => .key doc.id) where
  nodup := by
    refine hfirsts.nodup.of_map.map_on fun doc hdoc other hother hid => ?_
    have hmem : ∀ doc ∈ chosen, doc ∈ docs := fun doc hdoc => by
      obtain ⟨-, before, hstarts, -⟩ := (hfirsts.mem_iff doc).1 hdoc
      exact mem_of_starts hstarts
    exact List.inj_on_of_nodup_map hdistinct (hmem doc hdoc) (hmem other hother)
      (LegacyId.key.inj hid)
  unregistered name _ := hnone name

/-- **A user has one review of a course**, made from the first document that says something, if all
courses and users are known and no review is: the stage writes these reviews in order, unless the
table refuses them, and the map leads to them from their own documents. -/
theorem reviews_imported (now : Time.Instant) {sources : Sources} {docs : List LegacyUserCourse}
    (hload : Legacy.load sources.legacy userCourseCollection LegacyUserCourse.decoder = .ok docs)
    (hdistinct : (docs.map LegacyUserCourse.id).Nodup)
    (hcourses : ∀ doc ∈ docs, ∃ course, ids.get? .course (.key doc.courseId) = some course)
    (husers : ∀ doc ∈ docs, ∃ user, ids.get? .user (.key doc.userId) = some user)
    (hnone : ∀ id, ids.get? .review id = none) :
    ∃ chosen reviews, Selected ids docs chosen reviews ∧
      ∀ tx : Transaction, (reviews ≠ [] → "review" ∉ tx.work.failing) → ∃ ids' tx' rows,
        Memory.perform now (importReviews sources) ids tx =
          (.ok ⟨.reviews, [⟨"review", reviews.length⟩]⟩, ids', tx') ∧
        (tx'.work.table "review").rows = (tx.work.table "review").rows ++ rows ∧
        Stored ids' chosen reviews rows ∧
        ∀ name ≠ "review", tx'.work.table name = tx.work.table name := by
  obtain ⟨reviews, hok, hreviews⟩ := collectReviews_eq hcourses husers .nil
  have hfirsts := firsts_foldl LegacyUserCourse.Says (LegacyUserCourse.about ids) docs
  refine ⟨_, _, selected_of_firsts hfirsts hreviews, fun tx hwritable => ?_⟩
  have hopen : ¬Refused reviewLayout (reviews.map Prod.snd) tx := fun h => hwritable h.1 h.2
  have hfresh := fresh_of_firsts hfirsts hdistinct hnone
  have hnames := map_names hreviews
  refine ⟨_, _, Memory.numbered (tx.work.table "review").lastId
      (reviewLayout.entries (reviews.map Prod.snd)), (yields_importReviews now).2 ⟨docs, hload, reviews, hok, hopen, hnames ▸ hfresh,
      by rw [List.length_map], rfl, rfl⟩, ?_, ?_, fun name hname => ?_⟩
  · rw [Memory.table_store_toRows]
    exact Memory.Tables.rows_add _ _ _
  · rw [hnames]
    exact stored_named hfresh hnone (by rw [List.length_map, hreviews.length_eq]) _
  · rw [Memory.table_store_toRows]
    exact if_neg hname

/-- Of the documents of one user and one course the first says nothing and the others something, the
second with ratings, dates and a professor; another user has one of the same course. -/
def secondThoughts : List LegacyUserCourse :=
  [remark "r1" "ada" "cs135" (some ""),
    { remark "r2" "ada" "cs135" (some "Fun.") with
      courseReview := {
        comment := some "Fun."
        easiness := some (.ofInt 0)
        interest := some (.ofInt 1)
        usefulness := some (.ofInt 3)
        privacy := 2
        commentDate := some ⟨1500000000, 0⟩ }
      profId := some "eve"
      profReview := { clarity := some (.ofInt 1), ratingDate := some ⟨1400000000, 0⟩ } },
    remark "r3" "ada" "cs135" (some "Dull."), remark "r4" "bob" "cs135" (some "Long.")]

/-- A store that holds them. -/
def secondThoughtsStore : Sources where
  legacy := Legacy.Store.ofData [(userCourseCollection, [
    .object [("_id", .text "r1"), ("user_id", .text "ada"), ("course_id", .text "cs135"),
      ("course_review", .object [("comment", .text "")]), ("term_id", .text "2017_09")],
    .object [("_id", .text "r2"), ("user_id", .text "ada"), ("course_id", .text "cs135"),
      ("course_review", .object [("comment", .text "Fun."), ("easiness", .int 0),
        ("interest", .int 1), ("usefulness", .int 3), ("privacy", .int 2),
        ("comment_date", .text "2017-07-14T02:40:00Z")]),
      ("professor_id", .text "eve"), ("professor_review", .object [("clarity", .int 1),
        ("rating_change_date", .text "2014-05-13T16:53:20Z")]),
      ("term_id", .text "2017_09")],
    .object [("_id", .text "r3"), ("user_id", .text "ada"), ("course_id", .text "cs135"),
      ("course_review", .object [("comment", .text "Dull.")]), ("term_id", .text "2017_09")],
    .object [("_id", .text "r4"), ("user_id", .text "bob"), ("course_id", .text "cs135"),
      ("course_review", .object [("comment", .text "Long.")]), ("term_id", .text "2017_09")]])] []
  batchSize := 1
  secret _ := "code"

theorem reviews_imported_of_secondThoughts :
    let ids : IdMap := ⟨[((.course, .key "cs135"), 7), ((.user, .key "ada"), 11),
      ((.user, .key "bob"), 12), ((.prof, .key "eve"), 5)], []⟩
    let performed :=
      Memory.perform ⟨0, 0⟩ (importReviews secondThoughtsStore) ids (Memory.begin {})
    let rows := (performed.2.2.work.table "review").rows
    Legacy.load secondThoughtsStore.legacy userCourseCollection LegacyUserCourse.decoder =
      .ok secondThoughts ∧
    performed.1 = .ok ⟨.reviews, [⟨"review", 2⟩]⟩ ∧
    rows =
      [[("course_id", .bigint 7), ("user_id", .bigint 11), ("prof_id", .bigint 5),
          ("liked", .smallint 1), ("course_easy", .smallint 1), ("course_useful", .null .smallint),
          ("course_comment", .text "Fun."), ("prof_clear", .smallint 4),
          ("prof_engaging", .null .smallint), ("prof_comment", .null .text),
          ("public", .bool true), ("created_at", .timestamp ⟨1400000000, 0⟩),
          ("updated_at", .timestamp ⟨1500000000, 0⟩), ("id", .bigint 1)],
        [("course_id", .bigint 7), ("user_id", .bigint 12), ("prof_id", .null .bigint),
          ("liked", .null .smallint), ("course_easy", .null .smallint),
          ("course_useful", .null .smallint), ("course_comment", .text "Long."),
          ("prof_clear", .null .smallint), ("prof_engaging", .null .smallint),
          ("prof_comment", .null .text), ("public", .bool false),
          ("created_at", .null .timestamp), ("updated_at", .null .timestamp),
          ("id", .bigint 2)]] ∧
    performed.2.1.get? .review (.key "r2") = some 1 ∧
    performed.2.1.get? .review (.key "r4") = some 2 ∧
    ∃ chosen reviews, Selected ids secondThoughts chosen reviews ∧
      Stored performed.2.1 chosen reviews rows := by
  intro ids performed rows
  have hload : Legacy.load secondThoughtsStore.legacy userCourseCollection
      LegacyUserCourse.decoder = .ok secondThoughts := rfl
  have hcourses : ∀ doc ∈ secondThoughts, ∃ course,
      ids.get? .course (.key doc.courseId) = some course := by
    simpa [secondThoughts, remark] using ⟨7, rfl⟩
  have husers : ∀ doc ∈ secondThoughts, ∃ user, ids.get? .user (.key doc.userId) = some user := by
    simpa [secondThoughts, remark] using ⟨⟨11, rfl⟩, ⟨12, rfl⟩⟩
  have hnone : ∀ id, ids.get? .review id = none := fun id =>
    List.lookup_eq_none_iff.2 (by simp [ids])
  obtain ⟨chosen, reviews, hselected, hwritten⟩ :=
    reviews_imported ⟨0, 0⟩ hload (by decide) hcourses husers hnone
  obtain ⟨ids', tx', new, hperform, hrows, hstored, -⟩ :=
    hwritten (Memory.begin {}) fun _ => List.not_mem_nil
  have hids : performed.2.1 = ids' := congrArg (fun outcome => outcome.2.1) hperform
  have hafter : performed.2.2 = tx' := congrArg (fun outcome => outcome.2.2) hperform
  have hall : rows = new := by
    simp only [rows, hafter]
    exact hrows
  refine ⟨hload, by decide +kernel, by decide +kernel, by decide +kernel, by decide +kernel,
    chosen, reviews, hselected, ?_⟩
  rwa [hids, hall]

end Registrar.Import
