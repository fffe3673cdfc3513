import Registrar.Proofs.Import.Reviewing
/-!
# What becomes of votes, saved courses and taken courses

Two stages read the documents of users and courses. The first one makes reviews of some of them, and
the second one gives each review as many votes as its document counts and nobody else any (`Voted`).
It learns only from the identifier map which documents became reviews. A course that is saved for
later has one row for each user (`SavedOnce`), and a course that is taken one for each user and term,
with the level of the first document (`TakenOnce`).
-/
namespace Registrar.Import

open Memory (HasCells Row State numbered)

variable {ids ids' : IdMap} {docs : List LegacyUserCourse}

/-! ## What documents tell -/

namespace LegacyUserCourse

/-- The course is saved for later. -/
def Saves (doc : LegacyUserCourse) : Prop := doc.termId = Term.shortlist

/-- The rows of the course and of the user, and the number of the term. -/
def aboutTerm (ids : IdMap) (doc : LegacyUserCourse) : (Option Int × Option Int) × Option Int :=
  (doc.about ids, Term.number? doc.termId)

/-- The votes for the review of the document, if it became one. -/
def votes (ids : IdMap) (doc : LegacyUserCourse) : List UpvoteRow :=
  match ids.get? .review (.key doc.id) with
  | some review => List.replicate doc.courseReview.votes ⟨review⟩
  | none => []

end LegacyUserCourse

/-- The document saves the course of the record. -/
def SavedBy (ids : IdMap) (doc : LegacyUserCourse) (record : ShortlistRow) : Prop :=
  doc.about ids = (some record.course, some record.user)

/-- The document takes the course of the record, at its level. -/
structure TakenBy (ids : IdMap) (doc : LegacyUserCourse) (record : TakenRow) : Prop where
  about : doc.about ids = (some record.course, some record.user)
  term : Term.number? doc.termId = some record.term
  level : doc.level = record.level

theorem mem_iff_of_savedBy {saving : List LegacyUserCourse} {records : List ShortlistRow}
    (h : List.Forall₂ (SavedBy ids) saving records) {course user : Int} :
    ⟨course, user⟩ ∈ records ↔ (some course, some user) ∈ saving.map (LegacyUserCourse.about ids) := by
  rw [map_eq_map_iff_forall₂.2 h, List.mem_map]
  constructor
  · exact fun hmem => ⟨_, hmem, rfl⟩
  · rintro ⟨record, hmem, hrecord⟩
    cases hrecord
    exact hmem

theorem mem_iff_of_takenBy {taking : List LegacyUserCourse} {records : List TakenRow}
    (h : List.Forall₂ (TakenBy ids) taking records) {course user term : Int} :
    (∃ level, ⟨course, user, term, level⟩ ∈ records) ↔
      ((some course, some user), some term) ∈ taking.map (LegacyUserCourse.aboutTerm ids) := by
  have hkeys : taking.map (LegacyUserCourse.aboutTerm ids) = records.map fun record =>
      ((some record.course, some record.user), some record.term) :=
    map_eq_map_iff_forall₂.2 (h.imp fun _ _ hby => Prod.ext hby.about hby.term)
  rw [hkeys, List.mem_map]
  constructor
  · rintro ⟨level, hmem⟩
    exact ⟨_, hmem, rfl⟩
  · rintro ⟨record, hmem, hrecord⟩
    cases hrecord
    exact ⟨record.level, hmem⟩

/-- What the documents tell comes to the history. -/
structure Tells (ids : IdMap) (docs : List LegacyUserCourse) (history : History) : Prop where
  upvotes : history.upvotes = docs.flatMap (LegacyUserCourse.votes ids)
  shortlist : ∃ saving, Firsts LegacyUserCourse.Saves (LegacyUserCourse.about ids) docs saving ∧
    List.Forall₂ (SavedBy ids) saving history.shortlist
  taken : ∃ taking,
    Firsts (fun doc => ¬doc.Saves) (LegacyUserCourse.aboutTerm ids) docs taking ∧
    List.Forall₂ (TakenBy ids) taking history.taken

namespace History

variable {history : History} {doc : LegacyUserCourse} {course user term : Int}
  {level : Option String}

@[simp] theorem upvotes_vote :
    (history.vote ids doc).upvotes = history.upvotes ++ doc.votes ids := by
  unfold vote LegacyUserCourse.votes
  cases ids.get? .review (.key doc.id) <;> simp

@[simp] theorem shortlist_vote : (history.vote ids doc).shortlist = history.shortlist := by
  unfold vote
  cases ids.get? .review (.key doc.id) <;> rfl

@[simp] theorem taken_vote : (history.vote ids doc).taken = history.taken := by
  unfold vote
  cases ids.get? .review (.key doc.id) <;> rfl

@[simp] theorem upvotes_save : (history.save course user).upvotes = history.upvotes := by
  unfold save
  split <;> rfl

@[simp] theorem taken_save : (history.save course user).taken = history.taken := by
  unfold save
  split <;> rfl

@[simp] theorem upvotes_take : (history.take course user term level).upvotes = history.upvotes := by
  unfold take
  split <;> rfl

@[simp] theorem shortlist_take :
    (history.take course user term level).shortlist = history.shortlist := by
  unfold take
  split <;> rfl

end History

namespace Tells

variable {history : History} {doc : LegacyUserCourse} {course user : Int}

theorem nil : Tells ids [] {} :=
  ⟨rfl, ⟨[], Firsts.nil, .nil⟩, ⟨[], Firsts.nil, .nil⟩⟩

/-- One more document whose course is saved for later. -/
theorem save (h : Tells ids docs history) (hsaves : doc.Saves)
    (habout : doc.about ids = (some course, some user)) :
    Tells ids (docs ++ [doc]) ((history.vote ids doc).save course user) where
  upvotes := by
    simp [h.upvotes]
  shortlist := by
    obtain ⟨saving, hfirsts, hsaved⟩ := h.shortlist
    have hthere : (⟨course, user⟩ : ShortlistRow) ∈ history.shortlist ↔
        doc.about ids ∈ saving.map (LegacyUserCourse.about ids) := by
      rw [habout]
      exact mem_iff_of_savedBy hsaved
    unfold History.save
    rw [History.shortlist_vote]
    split
    · rename_i hold
      refine ⟨saving, hfirsts.skip fun hnew => ?_, by rwa [History.shortlist_vote]⟩
      exact hfirsts.notMem_keys_iff.2 hnew.2 (hthere.1 hold)
    · rename_i hnew
      refine ⟨saving ++ [doc], hfirsts.add hsaves (hfirsts.notMem_keys_iff.1 ?_), ?_⟩
      · exact fun hold => hnew (hthere.2 hold)
      · exact List.rel_append hsaved (.cons habout .nil)
  taken := by
    obtain ⟨taking, hfirsts, htaken⟩ := h.taken
    rw [History.taken_save, History.taken_vote]
    exact ⟨taking, hfirsts.skip fun hnew => hnew.1 hsaves, htaken⟩

/-- One more document whose course is taken. -/
theorem take (h : Tells ids docs history) (hterm : ¬doc.Saves)
    (habout : doc.about ids = (some course, some user)) {term : Int}
    (hnumber : Term.number? doc.termId = some term) :
    Tells ids (docs ++ [doc]) ((history.vote ids doc).take course user term doc.level) where
  upvotes := by
    simp [h.upvotes]
  shortlist := by
    obtain ⟨saving, hfirsts, hsaved⟩ := h.shortlist
    rw [History.shortlist_take, History.shortlist_vote]
    exact ⟨saving, hfirsts.skip fun hnew => hterm hnew.1, hsaved⟩
  taken := by
    obtain ⟨taking, hfirsts, htaken⟩ := h.taken
    have hdoc : doc.aboutTerm ids = ((some course, some user), some term) :=
      Prod.ext habout hnumber
    have hthere : (history.taken.any fun row =>
        row.course == course && row.user == user && row.term == term) = true ↔
        doc.aboutTerm ids ∈ taking.map (LegacyUserCourse.aboutTerm ids) := by
      rw [hdoc, ← mem_iff_of_takenBy htaken]
      simp only [List.any_eq_true, Bool.and_eq_true, beq_iff_eq]
      constructor
      · rintro ⟨⟨course, user, term, level⟩, hmem, ⟨rfl, rfl⟩, rfl⟩
        exact ⟨level, hmem⟩
      · rintro ⟨level, hmem⟩
        exact ⟨_, hmem, ⟨rfl, rfl⟩, rfl⟩
    unfold History.take
    rw [History.taken_vote]
    split
    · rename_i hold
      refine ⟨taking, hfirsts.skip fun hnew => ?_, by rwa [History.taken_vote]⟩
      exact hfirsts.notMem_keys_iff.2 hnew.2 (hthere.1 hold)
    · rename_i hnew
      refine ⟨taking ++ [doc], hfirsts.add hterm (hfirsts.notMem_keys_iff.1 ?_), ?_⟩
      · exact fun hold => hnew (hthere.2 hold)
      · exact List.rel_append htaken (.cons ⟨habout, hnumber, rfl⟩ .nil)

/-- All the documents, one after another. -/
theorem run (h : Tells ids docs history) {rest : List LegacyUserCourse} {after : History}
    (hcollect : collectHistory ids history rest = .ok after) : Tells ids (docs ++ rest) after := by
  induction rest generalizing docs history with
  | nil =>
    cases hcollect
    simpa using h
  | cons doc rest ih =>
    simp only [collectHistory, bind_eq_ok_iff, IdMap.require_eq_ok_iff] at hcollect
    obtain ⟨course, hcourse, user, huser, hcollect⟩ := hcollect
    have habout : doc.about ids = (some course, some user) := Prod.ext hcourse huser
    rw [← List.singleton_append, ← List.append_assoc]
    split at hcollect
    · exact ih (h.save ‹_› habout) hcollect
    · rename_i hterm
      obtain ⟨term, hnumber, hcollect⟩ := bind_eq_ok_iff.1 hcollect
      exact ih (h.take hterm habout (Term.require_eq_ok_iff.1 hnumber)) hcollect

end Tells

/-! ## What tables hold -/

/-- The row is that of the review of the document, and the map leads there. -/
def IsReview (ids ids' : IdMap) (doc : LegacyUserCourse) (row : Row) : Prop :=
  (∃ review, ReviewOf ids doc review ∧ HasCells review.cells row) ∧
    ids'.LeadsTo .review (.key doc.id) row

/-- The rows are the votes for the review of the document, as many as it counts. -/
def AreVotes (ids' : IdMap) (doc : LegacyUserCourse) (piece : List Row) : Prop :=
  ∃ id, ids'.get? .review (.key doc.id) = some id ∧
    piece.length = doc.courseReview.votes ∧ ∀ vote ∈ piece, HasCells (UpvoteRow.cells ⟨id⟩) vote

/-- The chosen documents have reviews, the reviews have the votes that their documents count, and
nothing else has any. -/
structure Voted (ids ids' : IdMap) (docs chosen : List LegacyUserCourse)
    (reviews upvotes : List Row) : Prop where
  firsts : Firsts LegacyUserCourse.Says (LegacyUserCourse.about ids) docs chosen
  own_row : List.Forall₂ (IsReview ids ids') chosen reviews
  own_votes : ∃ pieces, upvotes = pieces.flatten ∧ List.Forall₂ (AreVotes ids') chosen pieces
  counted : List.Forall₂ (fun doc row =>
    upvotes.countP (fun vote => vote.lookup "review_id" = row.lookup "id") =
      doc.courseReview.votes) chosen reviews

/-- The row is that of the course that the document saves. -/
def IsSaved (ids : IdMap) (doc : LegacyUserCourse) (row : Row) : Prop :=
  ∃ record, SavedBy ids doc record ∧ HasCells record.cells row

/-- The row is that of the course that the document takes. -/
def IsTaken (ids : IdMap) (doc : LegacyUserCourse) (row : Row) : Prop :=
  ∃ record, TakenBy ids doc record ∧ HasCells record.cells row

/-- A course and a user have a row exactly if some document saves the course for later. -/
structure SavedOnce (ids : IdMap) (docs : List LegacyUserCourse) (shortlist : List Row) : Prop where
  made : ∃ saving, Firsts LegacyUserCourse.Saves (LegacyUserCourse.about ids) docs saving ∧
    List.Forall₂ (IsSaved ids) saving shortlist
  about_iff : ∀ course user,
    (∃ row ∈ shortlist, HasCells (ShortlistRow.cells ⟨course, user⟩) row) ↔
      ∃ doc ∈ docs, doc.Saves ∧ doc.about ids = (some course, some user)

/-- A course, a user and a term have a row exactly if some document takes the course. -/
structure TakenOnce (ids : IdMap) (docs : List LegacyUserCourse) (taken : List Row) : Prop where
  made : ∃ taking, Firsts (fun doc => ¬doc.Saves) (LegacyUserCourse.aboutTerm ids) docs taking ∧
    List.Forall₂ (IsTaken ids) taking taken
  about_iff : ∀ course user term,
    (∃ level, ∃ row ∈ taken, HasCells (TakenRow.cells ⟨course, user, term, level⟩) row) ↔
      ∃ doc ∈ docs, ¬doc.Saves ∧ doc.about ids = (some course, some user) ∧
        Term.number? doc.termId = some term

theorem ShortlistRow.eq_of_cells {record other : ShortlistRow} (h : record.cells = other.cells) :
    record = other := by
  cases record
  cases other
  simpa [ShortlistRow.cells] using h

theorem TakenRow.eq_of_cells {record other : TakenRow} (h : record.cells = other.cells) :
    record = other := by
  obtain ⟨course, user, term, level⟩ := record
  obtain ⟨course', user', term', level'⟩ := other
  cases level <;> cases level' <;> simp_all [TakenRow.cells, Memory.orNull]

namespace Tells

variable {history : History}

theorem savedOnce (h : Tells ids' docs history)
    (habout : LegacyUserCourse.about ids' = LegacyUserCourse.about ids) {shortlist : List Row}
    (hrows : List.Forall₂ (fun record => HasCells record.cells) history.shortlist shortlist) :
    SavedOnce ids docs shortlist := by
  obtain ⟨saving, hfirsts, hsaved⟩ := h.shortlist
  rw [habout] at hfirsts
  have hsaved : List.Forall₂ (SavedBy ids) saving history.shortlist :=
    hsaved.imp fun doc _ hby => (congrFun habout doc).symm.trans hby
  refine ⟨⟨saving, hfirsts, forall₂_comp hsaved hrows⟩, fun course user => ?_⟩
  rw [Memory.exists_hasCells_iff ShortlistRow.eq_of_cells hrows, mem_iff_of_savedBy hsaved,
    hfirsts.mem_keys_iff]

theorem takenOnce (h : Tells ids' docs history)
    (habout : LegacyUserCourse.about ids' = LegacyUserCourse.about ids) {taken : List Row}
    (hrows : List.Forall₂ (fun record => HasCells record.cells) history.taken taken) :
    TakenOnce ids docs taken := by
  obtain ⟨taking, hfirsts, htaken⟩ := h.taken
  have hkeys : LegacyUserCourse.aboutTerm ids' = LegacyUserCourse.aboutTerm ids := by
    funext doc
    rw [LegacyUserCourse.aboutTerm, LegacyUserCourse.aboutTerm, habout]
  rw [hkeys] at hfirsts
  have htaken : List.Forall₂ (TakenBy ids) taking history.taken :=
    htaken.imp fun doc _ hby => ⟨(congrFun habout doc).symm.trans hby.about, hby.term, hby.level⟩
  refine ⟨⟨taking, hfirsts, forall₂_comp htaken hrows⟩, fun course user term => ?_⟩
  simp only [Memory.exists_hasCells_iff TakenRow.eq_of_cells hrows]
  rw [mem_iff_of_takenBy htaken, hfirsts.mem_keys_iff]
  refine exists_congr fun doc => and_congr_right fun _ => and_congr_right fun _ => ?_
  rw [LegacyUserCourse.aboutTerm, Prod.mk.injEq]

end Tells

/-! ## Votes -/

/-- Naming reviews changes nothing about courses and users. -/
theorem about_named (names : List LegacyId) (lastId : Nat) :
    LegacyUserCourse.about (ids.named .review names lastId) = LegacyUserCourse.about ids := by
  funext doc
  simp only [LegacyUserCourse.about, IdMap.get?_named_of_ne (show Entity.course ≠ .review by decide),
    IdMap.get?_named_of_ne (show Entity.user ≠ .review by decide)]

variable {chosen : List LegacyUserCourse} {records : List ReviewRow}

theorem own_reviews (hreviews : List.Forall₂ (ReviewOf ids) chosen records)
    (hfresh : ids.Fresh .review (chosen.map fun doc => .key doc.id)) (lastId : Nat) :
    List.Forall₂ (IsReview ids (ids.named .review (chosen.map fun doc => .key doc.id) lastId)) chosen
      (numbered lastId (reviewLayout.entries records)) := by
  have hrows := Memory.forall₂_hasCells reviewLayout_writes records lastId
  have hleads := IdMap.forall₂_leadsTo reviewLayout_wellShaped hfresh hreviews.length_eq.symm lastId
  exact (forall₂_comp hreviews hrows).mp (fun _ _ hmade hleads => ⟨hmade, hleads⟩) hleads

/-- Documents that did not become a review have no votes. -/
theorem flatMap_votes (hsublist : chosen.Sublist docs)
    (hdistinct : (docs.map LegacyUserCourse.id).Nodup)
    (hnone : ∀ doc ∈ docs, ids.get? .review (.key doc.id) = none)
    (hfresh : ids.Fresh .review (chosen.map fun doc => .key doc.id)) {lastId : Nat}
    (hids : ids' = ids.named .review (chosen.map fun doc => .key doc.id) lastId) :
    docs.flatMap (LegacyUserCourse.votes ids') = chosen.flatMap (LegacyUserCourse.votes ids') := by
  refine flatMap_eq_of_sublist hsublist hdistinct fun doc hdoc hother => ?_
  unfold LegacyUserCourse.votes
  split
  · rename_i review hreview
    rw [hids] at hreview
    rcases (IdMap.get?_named_iff hfresh _ _ _).1 hreview with hold | ⟨i, hi, -⟩
    · cases (hnone doc hdoc).symm.trans hold
    · obtain ⟨other, hmem, hid⟩ := List.mem_map.1 (List.mem_of_getElem? hi)
      exact absurd (List.mem_map.2 ⟨other, hmem, LegacyId.key.inj hid⟩) hother
  · rfl

/-- The votes are cut where the reviews end. -/
theorem own_votes (hknown : ∀ doc ∈ chosen, ∃ id, ids'.get? .review (.key doc.id) = some id)
    {upvotes : List UpvoteRow} (hupvotes : upvotes = chosen.flatMap (LegacyUserCourse.votes ids'))
    (lastId : Nat) :
    ∃ pieces, numbered lastId (upvoteLayout.entries upvotes) = pieces.flatten ∧
      List.Forall₂ (AreVotes ids') chosen pieces := by
  have hrows := Memory.forall₂_hasCells upvoteLayout_writes upvotes lastId
  subst hupvotes
  rw [List.flatMap_def] at hrows
  obtain ⟨pieces, hpieces, hstand⟩ := exists_pieces hrows
  refine ⟨pieces, hpieces, ?_⟩
  refine ((List.forall₂_and_left _ _).2 ⟨hknown, List.forall₂_map_left_iff.1 hstand⟩).imp ?_
  rintro doc piece ⟨⟨id, hid⟩, hpiece⟩
  have hvotes : doc.votes ids' = List.replicate doc.courseReview.votes ⟨id⟩ := by
    simp [LegacyUserCourse.votes, hid]
  rw [hvotes] at hpiece
  refine ⟨id, hid, by simpa using hpiece.length_eq.symm, fun vote hvote => ?_⟩
  obtain ⟨record, hrecord, hrow⟩ := exists_of_forall₂ hpiece.flip hvote
  rwa [(List.mem_replicate.1 hrecord).2] at hrow

/-- A review has as many votes as its document counts. -/
theorem countP_votes (happart : (chosen.map fun doc => ids'.get? .review (.key doc.id)).Nodup)
    {reviews : List Row} {pieces : List (List Row)}
    (hvotes : List.Forall₂ (AreVotes ids') chosen pieces)
    (hreviews : List.Forall₂ (fun doc row => ids'.LeadsTo .review (.key doc.id) row) chosen reviews) :
    List.Forall₂ (fun doc row =>
      pieces.flatten.countP (fun vote => vote.lookup "review_id" = row.lookup "id") =
        doc.courseReview.votes) chosen reviews := by
  let owns (doc : LegacyUserCourse) (vote : Row) : Bool :=
    vote.lookup "review_id" = (ids'.get? .review (.key doc.id)).map Sql.Value.bigint
  have howned : List.Forall₂ (fun doc piece => piece.length = doc.courseReview.votes ∧
      ∀ vote ∈ piece, owns doc vote) chosen pieces := by
    refine hvotes.imp ?_
    rintro doc piece ⟨id, hid, hlength, hpiece⟩
    refine ⟨hlength, fun vote hvote => decide_eq_true ?_⟩
    rw [hid]
    exact (hpiece vote hvote).lookup rfl
  have hnobody : chosen.Pairwise fun doc other => ∀ vote, owns doc vote → ¬owns other vote := by
    refine (List.pairwise_map.1 happart).imp fun hne vote hvote hvote' => hne ?_
    refine Option.map_injective (fun _ _ => Sql.Value.bigint.inj) ?_
    exact (of_decide_eq_true hvote).symm.trans (of_decide_eq_true hvote')
  have hcount := countP_flatten howned hnobody
  refine ((List.forall₂_and_left _ _).2 ⟨hcount, hreviews⟩).imp ?_
  rintro doc row ⟨hcount, id, hrow, hid⟩
  rw [← hcount, hrow]
  simp [owns, hid]

/-- What the first stage makes of the documents and the second one adds to it. -/
theorem voted_of_firsts
    (hfirsts : Firsts LegacyUserCourse.Says (LegacyUserCourse.about ids) docs chosen)
    (hreviews : List.Forall₂ (ReviewOf ids) chosen records)
    (hfresh : ids.Fresh .review (chosen.map fun doc => .key doc.id)) {lastId : Nat}
    (hids : ids' = ids.named .review (chosen.map fun doc => .key doc.id) lastId)
    {upvotes : List UpvoteRow} (hupvotes : upvotes = chosen.flatMap (LegacyUserCourse.votes ids'))
    (last : Nat) :
    Voted ids ids' docs chosen (numbered lastId (reviewLayout.entries records))
      (numbered last (upvoteLayout.entries upvotes)) := by
  have hown := own_reviews hreviews hfresh lastId
  rw [← hids] at hown
  have hnames : chosen.map (fun doc => ids'.get? .review (.key doc.id)) =
      (Memory.idsAfter lastId chosen.length).map some := by
    rw [hids]
    exact map_eq_map_iff_forall₂.2 (IdMap.forall₂_named hfresh lastId)
  have happart : (chosen.map fun doc => ids'.get? .review (.key doc.id)).Nodup := by
    rw [hnames]
    exact (nodup_idsAfter lastId chosen.length).map fun _ _ => Option.some.inj
  have hknown : ∀ doc ∈ chosen, ∃ id, ids'.get? .review (.key doc.id) = some id := by
    intro doc hdoc
    obtain ⟨row, -, -, id, -, hid⟩ := exists_of_forall₂ hown hdoc
    exact ⟨id, hid⟩
  obtain ⟨pieces, hpieces, hvotes⟩ := own_votes hknown hupvotes last
  refine ⟨hfirsts, hown, ⟨pieces, hpieces, hvotes⟩, ?_⟩
  rw [hpieces]
  exact countP_votes happart hvotes (hown.imp fun _ _ h => h.2)

/-! ## Both stages -/

/-- Where reviews are collected, they are those of the documents that come first. -/
theorem forall₂_of_collectReviews {reviews : List (String × ReviewRow)}
    (h : collectReviews ids [] docs = .ok reviews) :
    List.Forall₂ (Reviews ids)
      (docs.foldl (addFirst LegacyUserCourse.Says (LegacyUserCourse.about ids)) []) reviews := by
  have hpasses := (checked_reviews docs []).passes h
  have hchecks : ∀ doc ∈ docs, ∀ check ∈ doc.reviewChecks, check.Passes ids :=
    fun doc hdoc check hcheck => hpasses check (List.mem_flatMap.2 ⟨doc, hdoc, hcheck⟩)
  obtain ⟨reviews', hok, hmade⟩ := collectReviews_eq
    (fun doc hdoc => hchecks doc hdoc _ List.mem_cons_self)
    (fun doc hdoc => hchecks doc hdoc _ (List.mem_cons_of_mem _ List.mem_cons_self)) .nil
  rwa [Except.ok.inj (h.symm.trans hok)]

/-- **The history of courses** is derived without loss or repetition, if the documents have names of
their own and none of them is known as a review before. -/
theorem histories_derived {now now' : Time.Instant} {mode mode' : Warehouse.Mode}
    {sources : Sources} {start between after : State} {reviewed report : Report} {ids'' : IdMap}
    (hload : Legacy.load sources.legacy userCourseCollection LegacyUserCourse.decoder = .ok docs)
    (hdistinct : (docs.map LegacyUserCourse.id).Nodup)
    (hnone : ∀ doc ∈ docs, ids.get? .review (.key doc.id) = none)
    (hreviews : (Memory.warehouse now).transact mode (importReviews sources) ids start =
      (.ok reviewed, ids', between))
    (hhistories : (Memory.warehouse now').transact mode' (importHistories sources) ids' between =
      (.ok report, ids'', after)) :
    ∃ chosen reviews upvotes shortlist taken,
      (after.table "review").rows = (start.table "review").rows ++ reviews ∧
      (after.table "course_review_upvote").rows =
        (start.table "course_review_upvote").rows ++ upvotes ∧
      (after.table "user_shortlist").rows = (start.table "user_shortlist").rows ++ shortlist ∧
      (after.table "user_course_taken").rows = (start.table "user_course_taken").rows ++ taken ∧
      Voted ids ids' docs chosen reviews upvotes ∧ SavedOnce ids docs shortlist ∧
      TakenOnce ids docs taken := by
  obtain ⟨tx, hyields, hbetween⟩ := Memory.yields_of_transact now hreviews
  obtain ⟨_, hload', reviews, hcollect, -, hfresh, -, hids, rfl⟩ :=
    (yields_importReviews now).1 hyields
  obtain rfl := Except.ok.inj (hload.symm.trans hload')
  obtain ⟨tx', hyields', hafter⟩ := Memory.yields_of_transact now' hhistories
  obtain ⟨_, hload', history, hhistory, -, -, -, -, -, rfl⟩ :=
    (yields_importHistories now').1 hyields'
  obtain rfl := Except.ok.inj (hload.symm.trans hload')
  have hbetween : between.table = Memory.Tables.add start.table "review"
      (reviewLayout.entries (reviews.map Prod.snd)) :=
    hbetween.trans (Memory.table_store_toRows _ _ _)
  have hafter : after.table = ((Memory.Tables.add between.table "course_review_upvote"
      (upvoteLayout.entries history.upvotes)).add "user_shortlist"
      (shortlistLayout.entries history.shortlist)).add "user_course_taken"
      (takenLayout.entries history.taken) := by
    rw [hafter, Memory.table_store_toRows, Memory.table_store_toRows, Memory.table_store_toRows]
    rfl
  have hmade := forall₂_of_collectReviews hcollect
  rw [map_names hmade] at hfresh hids
  have hids : ids' = ids.named .review _ (start.table "review").lastId := hids
  have htells : Tells ids' docs history := by simpa using Tells.nil.run hhistory
  have habout : LegacyUserCourse.about ids' = LegacyUserCourse.about ids := by
    rw [hids]
    exact about_named _ _
  have hvotes := htells.upvotes
  rw [flatMap_votes (by simpa using foldl_addFirst_sublist [] docs) hdistinct hnone hfresh hids]
    at hvotes
  have hrecords := List.forall₂_map_right_iff.2 (hmade.imp fun _ _ h => h.2)
  refine ⟨_, _, _, _, _, ?_, ?_, ?_, ?_,
    voted_of_firsts (firsts_foldl _ _ docs) hrecords hfresh hids hvotes
      (start.table "course_review_upvote").lastId,
    htells.savedOnce habout (Memory.forall₂_hasCells shortlistLayout_writes _
      (start.table "user_shortlist").lastId),
    htells.takenOnce habout (Memory.forall₂_hasCells takenLayout_writes _
      (start.table "user_course_taken").lastId)⟩
  all_goals simp only [hafter, hbetween, Memory.Tables.rows_add, Memory.Tables.add_of_ne, ne_eq,
    String.reduceEq, not_false_eq_true]

/-- A document of a user and a course, with what is said of the course and how many found it
helpful. -/
def visit (id user comment : String) (votes : Nat) (term level : String) : LegacyUserCourse where
  id := id
  userId := user
  courseId := "cs135"
  courseReview := { comment := some comment, votes }
  profId := none
  profReview := {}
  termId := term
  level := some level

/-- A first visit that says nothing, a second one that is only planned, a third one in the term of
the first, and two plans of another user. -/
def visits : List LegacyUserCourse :=
  [visit "r1" "ada" "" 5 "2017_09" "1A", visit "r2" "ada" "Fun." 2 "9999_99" "1A",
    visit "r3" "ada" "Dull." 3 "2017_09" "2A", visit "r4" "bob" "Long." 1 "9999_99" "1B",
    visit "r5" "bob" "" 4 "9999_99" "1B"]

/-- A store that holds the visits. -/
def visitStore : Sources where
  legacy := Legacy.Store.ofData [(userCourseCollection, visits.map fun doc =>
    .object [("_id", .text doc.id), ("user_id", .text doc.userId),
      ("course_id", .text doc.courseId),
      ("course_review", .object [("comment", .text (doc.courseReview.comment.getD "")),
        ("num_voted_helpful", .int doc.courseReview.votes)]),
      ("term_id", .text doc.termId), ("program_year_id", .text (doc.level.getD ""))])] []
  batchSize := 1
  secret _ := "code"

theorem histories_derived_of_visits :
    let ids : IdMap :=
      ⟨[((.course, .key "cs135"), 7), ((.user, .key "ada"), 11), ((.user, .key "bob"), 12)], []⟩
    let first := (Memory.warehouse ⟨0, 0⟩).transact .readWrite (importReviews visitStore) ids {}
    let second := (Memory.warehouse ⟨0, 0⟩).transact .readWrite (importHistories visitStore)
      first.2.1 first.2.2
    let rows := fun name => (second.2.2.table name).rows
    first.1 = .ok ⟨.reviews, [⟨"review", 2⟩]⟩ ∧
    second.1 = .ok ⟨.histories,
      [⟨"course_review_upvote", 3⟩, ⟨"user_shortlist", 2⟩, ⟨"user_course_taken", 1⟩]⟩ ∧
    ((rows "review").map fun row => (row.lookup "id", row.lookup "course_comment")) =
      [(some (.bigint 1), some (.text "Fun.")), (some (.bigint 2), some (.text "Long."))] ∧
    rows "course_review_upvote" =
      [[("review_id", .bigint 1), ("user_id", .null .bigint), ("id", .bigint 1)],
        [("review_id", .bigint 1), ("user_id", .null .bigint), ("id", .bigint 2)],
        [("review_id", .bigint 2), ("user_id", .null .bigint), ("id", .bigint 3)]] ∧
    rows "user_shortlist" =
      [[("course_id", .bigint 7), ("user_id", .bigint 11), ("id", .bigint 1)],
        [("course_id", .bigint 7), ("user_id", .bigint 12), ("id", .bigint 2)]] ∧
    rows "user_course_taken" =
      [[("course_id", .bigint 7), ("user_id", .bigint 11), ("term_id", .integer 1179),
        ("level", .text "1A"), ("id", .bigint 1)]] ∧
    (∃ chosen, Voted ids first.2.1 visits chosen (rows "review") (rows "course_review_upvote")) ∧
    SavedOnce ids visits (rows "user_shortlist") ∧
    TakenOnce ids visits (rows "user_course_taken") := by
  intro ids first second rows
  have hfirst : first.1 = .ok ⟨.reviews, [⟨"review", 2⟩]⟩ := by decide +kernel
  have hsecond : second.1 = .ok ⟨.histories,
      [⟨"course_review_upvote", 3⟩, ⟨"user_shortlist", 2⟩, ⟨"user_course_taken", 1⟩]⟩ := by
    decide +kernel
  have hload : Legacy.load visitStore.legacy userCourseCollection LegacyUserCourse.decoder =
      .ok visits := rfl
  have hnone : ∀ doc ∈ visits, ids.get? .review (.key doc.id) = none := fun doc _ =>
    List.lookup_eq_none_iff.2 (by simp [ids])
  have hreviewed : first = (.ok ⟨.reviews, [⟨"review", 2⟩]⟩, first.2.1, first.2.2) := by
    rw [← hfirst]
  have hfollowed : second = (.ok ⟨.histories, [⟨"course_review_upvote", 3⟩, ⟨"user_shortlist", 2⟩,
      ⟨"user_course_taken", 1⟩]⟩, second.2.1, second.2.2) := by
    rw [← hsecond]
  obtain ⟨chosen, reviews, upvotes, shortlist, taken, hreviews, hupvotes, hshortlist, htaken, hvoted,
    hsaved, htakenOnce⟩ := histories_derived hload (by decide) hnone hreviewed hfollowed
  have hall : rows "review" = reviews := hreviews
  have hallVotes : rows "course_review_upvote" = upvotes := hupvotes
  have hallSaved : rows "user_shortlist" = shortlist := hshortlist
  have hallTaken : rows "user_course_taken" = taken := htaken
  refine ⟨hfirst, hsecond, by decide +kernel, by decide +kernel, by decide +kernel,
    by decide +kernel, ⟨chosen, ?_⟩, ?_, ?_⟩
  · rwa [hall, hallVotes]
  · rwa [hallSaved]
  · rwa [hallTaken]

end Registrar.Import
