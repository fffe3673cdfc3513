import Registrar.Import.Stage
import Registrar.Import.Term
/-!
# Reviews and the history of courses

One collection holds, for a user and a course, a review of the course and its professor, when the
course was taken, and how many found the review helpful. Reviews are imported first, one for each
course and user; votes, saved courses and taken courses follow, since votes refer to reviews.
-/
namespace Registrar.Import

open Json (Decoder Schema)

/-! ## Documents -/

/-- What a user says of a course (`review::LegacyCourseReview`). -/
structure LegacyCourseReview where
  comment : Option String := none
  easiness : Option Number.Double := none
  interest : Option Number.Double := none
  usefulness : Option Number.Double := none
  privacy : Int := 0
  votes : Nat := 0
  commentDate : Option Time.Instant := none
  ratingDate : Option Time.Instant := none
  deriving Repr

/-- A field that may be missing from an object and from an array. -/
def lenient {α : Type} (name : String) (decode : Decoder α) : Schema (Option α) :=
  Schema.withDefault name (Decoder.option decode) none

def LegacyCourseReview.decoder : Decoder LegacyCourseReview :=
  Schema.decoder "LegacyCourseReview" <| LegacyCourseReview.mk
    <$> lenient "comment" Decoder.text
    <*> lenient "easiness" Decoder.double
    <*> lenient "interest" Decoder.double
    <*> lenient "usefulness" Decoder.double
    <*> Schema.withDefault "privacy" Decoder.int32 0
    <*> Schema.withDefault "num_voted_helpful" Decoder.nat32 0
    <*> lenient "comment_date" Decoder.instant
    <*> lenient "rating_change_date" Decoder.instant

/-- What a user says of a professor (`review::LegacyProfReview`). -/
structure LegacyProfReview where
  comment : Option String := none
  clarity : Option Number.Double := none
  passion : Option Number.Double := none
  commentDate : Option Time.Instant := none
  ratingDate : Option Time.Instant := none
  deriving Repr

def LegacyProfReview.decoder : Decoder LegacyProfReview :=
  Schema.decoder "LegacyProfReview" <| LegacyProfReview.mk
    <$> lenient "comment" Decoder.text
    <*> lenient "clarity" Decoder.double
    <*> lenient "passion" Decoder.double
    <*> lenient "comment_date" Decoder.instant
    <*> lenient "rating_change_date" Decoder.instant

/-- What the legacy store holds of a user and a course (`review::LegacyUserCourse`). -/
structure LegacyUserCourse where
  id : String
  userId : String
  courseId : String
  courseReview : LegacyCourseReview
  profId : Option String
  profReview : LegacyProfReview
  termId : String
  level : Option String
  deriving Repr

def LegacyUserCourse.decoder : Decoder LegacyUserCourse :=
  Schema.decoder "LegacyUserCourse" <| LegacyUserCourse.mk
    <$> Schema.required "_id" Decoder.text
    <*> Schema.required "user_id" Decoder.text
    <*> Schema.required "course_id" Decoder.text
    <*> Schema.withDefault "course_review" LegacyCourseReview.decoder {}
    <*> Schema.optional "professor_id" Decoder.text
    <*> Schema.withDefault "professor_review" LegacyProfReview.decoder {}
    <*> Schema.required "term_id" Decoder.text
    <*> Schema.optional "program_year_id" Decoder.text

/-- The collection of users and courses (`review::COLLECTION`). -/
def userCourseCollection : String := "user_course"

/-! ## Reviews -/

/-- A text that says something (`review::non_empty`). -/
def nonEmpty (text : Option String) : Option String := text.filter fun s => s ≠ ""

/-- Whether a document says nothing of the course or its professor
(`LegacyUserCourse::is_empty`). -/
def LegacyUserCourse.isEmpty (doc : LegacyUserCourse) : Bool :=
  let course := doc.courseReview
  let prof := doc.profReview
  (nonEmpty course.comment).isNone && course.easiness.isNone && course.interest.isNone
    && course.usefulness.isNone && (nonEmpty prof.comment).isNone && prof.clarity.isNone
    && prof.passion.isNone

/-- A legacy rating, which is zero or one, in the grades of the warehouse (`review::rescale`). -/
def rescale (low high : Int) : Option Number.Double → Option Int
  | none => none
  | some x => if x.isZero then some low else if x.isOne then some high else none

/-- A row of a review (`review::ReviewRow`). -/
structure ReviewRow where
  course : Int
  user : Int
  prof : Option Int
  liked : Option Int
  courseEasy : Option Int
  courseUseful : Option Int
  courseComment : Option String
  profClear : Option Int
  profEngaging : Option Int
  profComment : Option String
  isPublic : Bool
  createdAt : Option Time.Instant
  updatedAt : Option Time.Instant
  deriving DecidableEq, Repr

def reviewLayout : Sql.Layout ReviewRow where
  table := "review"
  columns := ["course_id", "user_id", "prof_id", "liked", "course_easy", "course_useful",
    "course_comment", "prof_clear", "prof_engaging", "prof_comment", "public", "created_at",
    "updated_at"]
  values row :=
    [.bigint row.course, .bigint row.user, .ofOption .bigint .bigint row.prof,
      .ofOption .smallint .smallint row.liked, .ofOption .smallint .smallint row.courseEasy,
      .ofOption .smallint .smallint row.courseUseful, .ofOption .text .text row.courseComment,
      .ofOption .smallint .smallint row.profClear, .ofOption .smallint .smallint row.profEngaging,
      .ofOption .text .text row.profComment, .bool row.isPublic,
      .ofOption .timestamp .timestamp row.createdAt, .ofOption .timestamp .timestamp row.updatedAt]

/-- The privacy of a review that everybody may read (`review::PUBLIC_PRIVACY`). -/
def publicPrivacy : Int := 2

/-- The dates of a document. -/
def LegacyUserCourse.dates (doc : LegacyUserCourse) : List Time.Instant :=
  [doc.courseReview.commentDate, doc.courseReview.ratingDate, doc.profReview.commentDate,
    doc.profReview.ratingDate].filterMap fun date => date

/-- The row of a review of a course by a user (`review::convert_review`). -/
def LegacyUserCourse.row (ids : IdMap) (course user : Int) (doc : LegacyUserCourse) : ReviewRow where
  course := course
  user := user
  prof := (nonEmpty doc.profId).bind fun prof => ids.get? .prof (.key prof)
  liked := rescale 0 1 doc.courseReview.interest
  courseEasy := rescale 1 4 doc.courseReview.easiness
  courseUseful := rescale 1 4 doc.courseReview.usefulness
  courseComment := nonEmpty doc.courseReview.comment
  profClear := rescale 1 4 doc.profReview.clarity
  profEngaging := rescale 1 4 doc.profReview.passion
  profComment := nonEmpty doc.profReview.comment
  isPublic := doc.courseReview.privacy = publicPrivacy
  createdAt := Time.Instant.earliest? doc.dates
  updatedAt := Time.Instant.latest? doc.dates

/-- The reviews of some documents, each with the name of its document, added to those before. A
course and a user have one review, the first that says something. -/
def collectReviews (ids : IdMap) (before : List (String × ReviewRow)) :
    List LegacyUserCourse → Except Failure (List (String × ReviewRow))
  | [] => .ok before
  | doc :: rest => do
    let course ← ids.require .course (.key doc.courseId) "review"
    let user ← ids.require .user (.key doc.userId) "review"
    if doc.isEmpty || before.any fun (_, row) => row.course == course && row.user == user then
      collectReviews ids before rest
    else collectReviews ids (before ++ [(doc.id, doc.row ids course user)]) rest

/-- Imports the reviews (`ReviewStage::run`). -/
def importReviews (sources : Sources) : Work Report := do
  let docs ← Task.lift
    (Legacy.load sources.legacy userCourseCollection LegacyUserCourse.decoder)
  let reviews ← Task.lift (collectReviews (← Task.get) [] docs)
  let reviewIds ← Work.insert sources.batchSize reviewLayout (reviews.map Prod.snd)
  Work.registerAll .review ((reviews.map fun (id, _) => .key id).zip reviewIds)
  return ⟨.reviews, [⟨"review", reviewIds.length⟩]⟩

/-! ## Histories -/

/-- A vote for a review (`review::UpvoteRow`); who gave it is not known. -/
structure UpvoteRow where
  review : Int
  deriving DecidableEq, Repr

/-- A course that a user has saved for later (`review::ShortlistRow`). -/
structure ShortlistRow where
  course : Int
  user : Int
  deriving DecidableEq, Repr

/-- A course that a user has taken (`review::TakenRow`). -/
structure TakenRow where
  course : Int
  user : Int
  term : Int
  level : Option String
  deriving DecidableEq, Repr

def upvoteLayout : Sql.Layout UpvoteRow where
  table := "course_review_upvote"
  columns := ["review_id", "user_id"]
  values row := [.bigint row.review, .null .bigint]

def shortlistLayout : Sql.Layout ShortlistRow where
  table := "user_shortlist"
  columns := ["course_id", "user_id"]
  values row := [.bigint row.course, .bigint row.user]

def takenLayout : Sql.Layout TakenRow where
  table := "user_course_taken"
  columns := ["course_id", "user_id", "term_id", "level"]
  values row :=
    [.bigint row.course, .bigint row.user, .integer row.term, .ofOption .text .text row.level]

/-- Votes, saved courses and taken courses, in order. -/
structure History where
  upvotes : List UpvoteRow := []
  shortlist : List ShortlistRow := []
  taken : List TakenRow := []
  deriving DecidableEq, Repr

namespace History

/-- As many votes as the document of a review counts. -/
def vote (ids : IdMap) (doc : LegacyUserCourse) (history : History) : History :=
  match ids.get? .review (.key doc.id) with
  | some review =>
    { history with
      upvotes := history.upvotes ++ List.replicate doc.courseReview.votes ⟨review⟩ }
  | none => history

/-- A saved course, once for each user. -/
def save (course user : Int) (history : History) : History :=
  if (⟨course, user⟩ : ShortlistRow) ∈ history.shortlist then history
  else { history with shortlist := history.shortlist ++ [⟨course, user⟩] }

/-- A taken course, once for each user and term. -/
def take (course user term : Int) (level : Option String) (history : History) : History :=
  if history.taken.any fun row => row.course == course && row.user == user && row.term == term then
    history
  else { history with taken := history.taken ++ [⟨course, user, term, level⟩] }

end History

/-- The history of some documents, added to what was before. -/
def collectHistory (ids : IdMap) (before : History) :
    List LegacyUserCourse → Except Failure History
  | [] => .ok before
  | doc :: rest => do
    let course ← ids.require .course (.key doc.courseId) "user_course"
    let user ← ids.require .user (.key doc.userId) "user_course"
    let voted := before.vote ids doc
    if doc.termId = Term.shortlist then collectHistory ids (voted.save course user) rest
    else
      let term ← Term.require userCourseCollection doc.termId
      collectHistory ids (voted.take course user term doc.level) rest

/-- Imports votes, saved courses and taken courses (`LegacyReviewStage::run`). -/
def importHistories (sources : Sources) : Work Report := do
  let docs ← Task.lift
    (Legacy.load sources.legacy userCourseCollection LegacyUserCourse.decoder)
  let history ← Task.lift (collectHistory (← Task.get) {} docs)
  let upvotes ← Work.copy sources.batchSize upvoteLayout history.upvotes
  let shortlist ← Work.copy sources.batchSize shortlistLayout history.shortlist
  let taken ← Work.copy sources.batchSize takenLayout history.taken
  return ⟨.histories, [⟨"course_review_upvote", upvotes⟩, ⟨"user_shortlist", shortlist⟩,
    ⟨"user_course_taken", taken⟩]⟩

end Registrar.Import
