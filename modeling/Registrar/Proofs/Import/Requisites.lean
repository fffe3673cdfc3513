import Mathlib.Data.List.Forall2
import Registrar.Proofs.Import.CourseCodes
import Registrar.Proofs.Import.Firsts
import Registrar.Proofs.Import.Places
/-!
# Edges between courses

The edges that are written are exactly the ones that the texts name: an edge joins two courses if a
text of the one contains a code of the other, and it is written once, in the order in which the
texts are read (`Drawn`). All courses share one list of edges, so where two of them share a row, it
is the first of them that decides whether an edge is a corequisite (`two_courses_share_an_edge`).
-/
namespace Registrar.Import

open Memory (HasCells Transaction)

variable {ids : IdMap} {courses : List LegacyCourse}

/-! ## What texts name -/

/-- The rows of the known courses whose codes a text contains, in the order of the codes. -/
def Mentions (ids : IdMap) (text : Option String) (rows : List Int) : Prop :=
  ∃ codes, Matches (text.getD "").toList codes ∧
    rows = codes.filterMap fun code => ids.get? .course (.key (Text.lower (String.ofList code)))

/-- A text contains a code of the course with the row. -/
def Names (ids : IdMap) (text : Option String) (row : Int) : Prop :=
  ∃ rows, Mentions ids text rows ∧ row ∈ rows

theorem mentions_iff {text : Option String} {rows : List Int} :
    Mentions ids text rows ↔ rows = namedCourses ids text := by
  simp only [Mentions, matches_iff, exists_eq_left]
  cases text with
  | none => rfl
  | some words => simp [namedCourses, courseCodes, List.filterMap_map]

theorem names_iff {text : Option String} {row : Int} :
    Names ids text row ↔ row ∈ namedCourses ids text := by
  simp only [Names, mentions_iff, exists_eq_left]

namespace LegacyCourse

/-- The edges to what a course requires and to what it takes along, in the order of its texts. -/
def Requires (ids : IdMap) (course : LegacyCourse) (edges : List Prerequisite) : Prop :=
  ∃ id before along, ids.get? .course (.key course.id) = some id ∧
    Mentions ids course.prereqs before ∧ Mentions ids course.coreqs along ∧
    edges = before.map (fun row => ⟨id, row, false⟩) ++ along.map fun row => ⟨id, row, true⟩

/-- The edges to what a course excludes, in the order of its text. -/
def Excludes (ids : IdMap) (course : LegacyCourse) (edges : List Antirequisite) : Prop :=
  ∃ id against, ids.get? .course (.key course.id) = some id ∧
    Mentions ids course.antireqs against ∧ edges = against.map fun row => ⟨id, row⟩

/-- The course has the first row, and its requisites name the course with the second. -/
def AsksFor (ids : IdMap) (ends : Int × Int) (course : LegacyCourse) : Prop :=
  ids.get? .course (.key course.id) = some ends.1 ∧
    (Names ids course.prereqs ends.2 ∨ Names ids course.coreqs ends.2)

/-- The course has the first row, and its antirequisites name the course with the second. -/
def RulesOut (ids : IdMap) (ends : Int × Int) (course : LegacyCourse) : Prop :=
  ids.get? .course (.key course.id) = some ends.1 ∧ Names ids course.antireqs ends.2

theorem Requires.mem_ends_iff {course : LegacyCourse} {edges : List Prerequisite}
    (h : course.Requires ids edges) (ends : Int × Int) :
    ends ∈ edges.map Prerequisite.ends ↔ course.AsksFor ids ends := by
  obtain ⟨id, before, along, hid, hbefore, halong, rfl⟩ := h
  obtain ⟨c, r⟩ := ends
  simp only [AsksFor, hid, names_iff, mentions_iff.1 hbefore, mentions_iff.1 halong,
    List.map_append, List.map_map, List.mem_append, List.mem_map, Function.comp_apply,
    Prerequisite.ends, Prod.mk.injEq, Option.some.injEq]
  constructor
  · rintro (⟨row, hrow, rfl, rfl⟩ | ⟨row, hrow, rfl, rfl⟩)
    · exact ⟨rfl, Or.inl hrow⟩
    · exact ⟨rfl, Or.inr hrow⟩
  · rintro ⟨rfl, hrow | hrow⟩
    · exact Or.inl ⟨r, hrow, rfl, rfl⟩
    · exact Or.inr ⟨r, hrow, rfl, rfl⟩

theorem Excludes.mem_ends_iff {course : LegacyCourse} {edges : List Antirequisite}
    (h : course.Excludes ids edges) (ends : Int × Int) :
    ends ∈ edges.map Antirequisite.ends ↔ course.RulesOut ids ends := by
  obtain ⟨id, against, hid, hagainst, rfl⟩ := h
  obtain ⟨c, r⟩ := ends
  simp only [RulesOut, hid, names_iff, mentions_iff.1 hagainst, List.map_map, List.mem_map,
    Function.comp_apply, Antirequisite.ends, Prod.mk.injEq, Option.some.injEq]
  constructor
  · rintro ⟨row, hrow, rfl, rfl⟩
    exact ⟨rfl, hrow⟩
  · rintro ⟨rfl, hrow⟩
    exact ⟨r, hrow, rfl, rfl⟩

end LegacyCourse

/-! ## Edges one by one -/

/-- An edge leads from one course to another one. -/
def Joins {α : Type} (ends : α → Int × Int) (edge : α) : Prop := (ends edge).1 ≠ (ends edge).2

instance {α : Type} (ends : α → Int × Int) : DecidablePred (Joins ends) := fun edge =>
  inferInstanceAs (Decidable ((ends edge).1 ≠ (ends edge).2))

theorem addPrerequisite_eq :
    addPrerequisite = addFirst (Joins Prerequisite.ends) Prerequisite.ends := by
  funext edges edge
  have hthere : (edges.any fun other =>
      other.course == edge.course && other.prerequisite == edge.prerequisite) = true ↔
      edge.ends ∈ edges.map Prerequisite.ends := by
    simp [Prerequisite.ends]
  refine ite_eq_addFirst ?_
  rw [hthere, not_and_not_right, or_iff_not_imp_left]
  exact imp_congr_left ne_comm

theorem addAntirequisite_eq :
    addAntirequisite = addFirst (Joins Antirequisite.ends) Antirequisite.ends := by
  funext edges edge
  have hthere : edge ∈ edges ↔ edge.ends ∈ edges.map Antirequisite.ends := by
    refine ⟨List.mem_map_of_mem, fun hmem => ?_⟩
    obtain ⟨⟨course, antirequisite⟩, hother, hends⟩ := List.mem_map.1 hmem
    obtain ⟨rfl, rfl⟩ := Prod.mk.inj hends
    exact hother
  refine ite_eq_addFirst ?_
  rw [hthere, not_and_not_right, or_iff_not_imp_left]
  exact imp_congr_left ne_comm

/-- Courses that are known have edges, and the edges that are collected come from theirs. -/
theorem requisites_eq (hknown : ∀ course ∈ courses, ∃ id,
      ids.get? .course (.key course.id) = some id)
    (edges : List Prerequisite × List Antirequisite) :
    ∃ wanted unwanted, List.Forall₂ (LegacyCourse.Requires ids) courses wanted ∧
      List.Forall₂ (LegacyCourse.Excludes ids) courses unwanted ∧
      requisites ids courses edges =
        .ok (wanted.flatten.foldl addPrerequisite edges.1,
          unwanted.flatten.foldl addAntirequisite edges.2) := by
  induction courses generalizing edges with
  | nil => exact ⟨[], [], .nil, .nil, rfl⟩
  | cons course rest ih =>
    obtain ⟨id, hid⟩ := hknown course List.mem_cons_self
    obtain ⟨required, excluded⟩ := edges
    obtain ⟨wanted, unwanted, hwanted, hunwanted, hrest⟩ :=
      ih (fun other hother => hknown other (List.mem_cons_of_mem _ hother)) _
    refine ⟨_ :: wanted, _ :: unwanted,
      .cons ⟨id, _, _, hid, mentions_iff.2 rfl, mentions_iff.2 rfl, rfl⟩ hwanted,
      .cons ⟨id, _, hid, mentions_iff.2 rfl, rfl⟩ hunwanted, ?_⟩
    rw [requisites, IdMap.require_eq_ok_iff.2 hid]
    simp only [List.flatten_cons, List.foldl_append]
    exact hrest

/-! ## Places in lists of lists -/

/-- What stands behind a part of two lists stands behind a part of one of them. -/
theorem starts_append_cases {α : Type} {before left right : List α} {item : α}
    (h : before ++ [item] <+: left ++ right) :
    before ++ [item] <+: left ∨ ∃ rest, before = left ++ rest ∧ rest ++ [item] <+: right := by
  rcases List.prefix_or_prefix_of_prefix h (List.prefix_append left right) with hleft | hleft
  · exact Or.inl hleft
  · rcases List.prefix_concat_iff.1 hleft with rfl | ⟨rest, rfl⟩
    · exact Or.inl List.prefix_rfl
    · rw [List.append_assoc, List.prefix_append_right_inj] at h
      exact Or.inr ⟨rest, rfl, h⟩

/-- An item of the lists that some courses have belongs to one of the courses. -/
theorem exists_course_of_starts {α : Type} {Has : LegacyCourse → List α → Prop}
    {lists : List (List α)} (hlists : List.Forall₂ Has courses lists) {before : List α} {item : α}
    (h : before ++ [item] <+: lists.flatten) :
    ∃ others course earlier list here, others ++ [course] <+: courses ∧
      List.Forall₂ Has others earlier ∧ Has course list ∧ here ++ [item] <+: list ∧
      before = earlier.flatten ++ here := by
  induction hlists generalizing before with
  | nil => simp at h
  | @cons course list rest lists hcourse hrest ih =>
    rw [List.flatten_cons] at h
    rcases starts_append_cases h with hhere | ⟨later, rfl, hlater⟩
    · exact ⟨[], course, [], list, before, by simp, .nil, hcourse, hhere, rfl⟩
    · obtain ⟨others, other, earlier, list', here, hothers, hearlier, hother, hhere, rfl⟩ :=
        ih hlater
      exact ⟨course :: others, other, list :: earlier, list', here,
        List.cons_prefix_cons.2 ⟨rfl, hothers⟩, .cons hcourse hearlier, hother, hhere, by simp⟩

/-! ## The edges that are written -/

/-- What the texts of some courses come to. -/
structure Drawn (ids : IdMap) (courses : List LegacyCourse) (required : List Prerequisite)
    (excluded : List Antirequisite) : Prop where
  /-- Course after course, text after text and code after code, each edge once. -/
  wanted : ∃ wanted, List.Forall₂ (LegacyCourse.Requires ids) courses wanted ∧
    Firsts (Joins Prerequisite.ends) Prerequisite.ends wanted.flatten required
  required_iff : ∀ c r, (c, r) ∈ required.map Prerequisite.ends ↔
    c ≠ r ∧ ∃ course ∈ courses, course.AsksFor ids (c, r)
  /-- The first course that asks for an edge decides whether it is a corequisite. -/
  corequisite : ∀ edge ∈ required, ∃ others course, others ++ [course] <+: courses ∧
    course.AsksFor ids edge.ends ∧ (∀ other ∈ others, ¬other.AsksFor ids edge.ends) ∧
    (edge.isCorequisite = true ↔ ¬Names ids course.prereqs edge.prerequisite)
  /-- Where every course has a row of its own, it decides on all of its edges. -/
  corequisite_iff : (courses.map fun course => ids.get? .course (.key course.id)).Nodup →
    ∀ edge ∈ required, ∀ course ∈ courses, ids.get? .course (.key course.id) = some edge.course →
      (edge.isCorequisite = true ↔ ¬Names ids course.prereqs edge.prerequisite)
  unwanted : ∃ unwanted, List.Forall₂ (LegacyCourse.Excludes ids) courses unwanted ∧
    Firsts (Joins Antirequisite.ends) Antirequisite.ends unwanted.flatten excluded
  excluded_iff : ∀ c r, (c, r) ∈ excluded.map Antirequisite.ends ↔
    c ≠ r ∧ ∃ course ∈ courses, course.RulesOut ids (c, r)

section

variable {α : Type} {ends : α → Int × Int} {Has : LegacyCourse → List α → Prop}
  {Joined : Int × Int → LegacyCourse → Prop}
  (hnames : ∀ course edges, Has course edges → ∀ pair, pair ∈ edges.map ends ↔ Joined pair course)
  {lists : List (List α)} (hlists : List.Forall₂ Has courses lists)

include hnames hlists

/-- The edges of courses join what the courses name. -/
theorem mem_flatten_ends_iff (pair : Int × Int) :
    pair ∈ lists.flatten.map ends ↔ ∃ course ∈ courses, Joined pair course := by
  induction hlists with
  | nil => simp
  | @cons course list rest lists hcourse hrest ih =>
    simp only [List.flatten_cons, List.map_append, List.mem_append, List.exists_mem_cons_iff,
      hnames course list hcourse, ih]

theorem mem_ends_iff_of_firsts {edges : List α}
    (h : Firsts (Joins ends) ends lists.flatten edges) (c r : Int) :
    (c, r) ∈ edges.map ends ↔ c ≠ r ∧ ∃ course ∈ courses, Joined (c, r) course := by
  rw [← mem_flatten_ends_iff hnames hlists, h.mem_keys_iff, List.mem_map]
  constructor
  · rintro ⟨edge, hedge, hjoins, hends⟩
    rw [Joins, hends] at hjoins
    exact ⟨hjoins, edge, hedge, hends⟩
  · rintro ⟨hne, edge, hedge, hends⟩
    refine ⟨edge, hedge, ?_, hends⟩
    rwa [Joins, hends]

end

/-- An edge is a corequisite if the course names the other one first among what it takes along. -/
theorem LegacyCourse.Requires.corequisite_iff {course : LegacyCourse}
    {edges before : List Prerequisite} {edge : Prerequisite} (h : course.Requires ids edges)
    (hstarts : before ++ [edge] <+: edges)
    (hfirst : edge.ends ∉ before.map Prerequisite.ends) :
    edge.isCorequisite = true ↔ ¬Names ids course.prereqs edge.prerequisite := by
  obtain ⟨id, required, along, hid, hrequired, halong, rfl⟩ := h
  rw [names_iff, ← mentions_iff.1 hrequired]
  rcases starts_append_cases hstarts with hrequire | ⟨rest, rfl, halong⟩
  · obtain ⟨row, hrow, rfl⟩ := List.mem_map.1 (mem_of_starts hrequire)
    simpa using hrow
  · obtain ⟨row, hrow, rfl⟩ := List.mem_map.1 (mem_of_starts halong)
    simp only [true_iff]
    intro hmem
    refine hfirst (List.mem_map.2 ⟨⟨id, row, false⟩, List.mem_append_left _ ?_, rfl⟩)
    exact List.mem_map.2 ⟨row, hmem, rfl⟩

theorem exists_corequisite {wanted : List (List Prerequisite)} {required : List Prerequisite}
    (hwanted : List.Forall₂ (LegacyCourse.Requires ids) courses wanted)
    (h : Firsts (Joins Prerequisite.ends) Prerequisite.ends wanted.flatten required)
    {edge : Prerequisite} (hedge : edge ∈ required) :
    ∃ others course, others ++ [course] <+: courses ∧ course.AsksFor ids edge.ends ∧
      (∀ other ∈ others, ¬other.AsksFor ids edge.ends) ∧
      (edge.isCorequisite = true ↔ ¬Names ids course.prereqs edge.prerequisite) := by
  obtain ⟨hjoins, before, hstarts, hlacks⟩ := (h.mem_iff edge).1 hedge
  have hfirst : edge.ends ∉ before.map Prerequisite.ends := by
    intro hmem
    obtain ⟨other, hother, hends⟩ := List.mem_map.1 hmem
    refine hlacks other hother ?_ hends
    rwa [Joins, hends]
  obtain ⟨others, course, earlier, list, here, hothers, hearlier, hcourse, hhere, rfl⟩ :=
    exists_course_of_starts hwanted hstarts
  rw [List.map_append, List.mem_append, not_or] at hfirst
  refine ⟨others, course, hothers, ?_, ?_, hcourse.corequisite_iff hhere hfirst.2⟩
  · exact (hcourse.mem_ends_iff edge.ends).1 (List.mem_map_of_mem (mem_of_starts hhere))
  · intro other hother hasks
    exact hfirst.1 ((mem_flatten_ends_iff (fun _ _ h => h.mem_ends_iff) hearlier _).2
      ⟨other, hother, hasks⟩)

theorem drawn_requisites (hknown : ∀ course ∈ courses, ∃ id,
      ids.get? .course (.key course.id) = some id) :
    ∃ required excluded, requisites ids courses ([], []) = .ok (required, excluded) ∧
      Drawn ids courses required excluded := by
  obtain ⟨wanted, unwanted, hwanted, hunwanted, hok⟩ := requisites_eq hknown ([], [])
  rw [addPrerequisite_eq, addAntirequisite_eq] at hok
  have hrequired := firsts_foldl (Joins Prerequisite.ends) Prerequisite.ends wanted.flatten
  have hexcluded := firsts_foldl (Joins Antirequisite.ends) Antirequisite.ends unwanted.flatten
  refine ⟨_, _, hok, ⟨wanted, hwanted, hrequired⟩, ?_, ?_, ?_, ⟨unwanted, hunwanted, hexcluded⟩, ?_⟩
  · exact mem_ends_iff_of_firsts (fun _ _ h => h.mem_ends_iff) hwanted hrequired
  · exact fun edge => exists_corequisite hwanted hrequired
  · intro hdistinct edge hedge course hcourse hid
    obtain ⟨others, first, hstarts, hasks, -, hiff⟩ := exists_corequisite hwanted hrequired hedge
    have hsame := List.inj_on_of_nodup_map hdistinct hcourse (mem_of_starts hstarts)
      (hid.trans hasks.1.symm)
    rwa [hsame]
  · exact mem_ends_iff_of_firsts (fun _ _ h => h.mem_ends_iff) hunwanted hexcluded

/-- **The edges that are written** are the ones that the texts name, if every course is known: those
to required courses first and those to excluded ones then, unless a table refuses them. -/
theorem edges_named (now : Time.Instant) {sources : Sources}
    (hload : Legacy.load sources.legacy courseCollection LegacyCourse.decoder = .ok courses)
    (hknown : ∀ course ∈ courses, ∃ id, ids.get? .course (.key course.id) = some id) :
    ∃ required excluded, Drawn ids courses required excluded ∧
      ∀ tx : Transaction, (required ≠ [] → "course_prerequisite" ∉ tx.work.failing) →
        (excluded ≠ [] → "course_antirequisite" ∉ tx.work.failing) →
        ∃ tx' edges exclusions,
          Memory.perform now (importRequisites sources) ids tx =
            (.ok ⟨.requisites, [⟨"course_prerequisite", required.length⟩,
              ⟨"course_antirequisite", excluded.length⟩]⟩, ids, tx') ∧
          (tx'.work.table "course_prerequisite").rows =
            (tx.work.table "course_prerequisite").rows ++ edges ∧
          List.Forall₂ (fun edge => HasCells edge.cells) required edges ∧
          (tx'.work.table "course_antirequisite").rows =
            (tx.work.table "course_antirequisite").rows ++ exclusions ∧
          List.Forall₂ (fun edge => HasCells edge.cells) excluded exclusions ∧
          ∀ name, name ≠ "course_prerequisite" → name ≠ "course_antirequisite" →
            tx'.work.table name = tx.work.table name := by
  obtain ⟨required, excluded, hok, hdrawn⟩ := drawn_requisites hknown
  refine ⟨required, excluded, hdrawn, fun tx hrequired hexcluded => ?_⟩
  have hopen : ¬Refused prerequisiteLayout required tx := fun h => hrequired h.1 h.2
  have hopen' :
      ¬Refused antirequisiteLayout excluded (tx.store (prerequisiteLayout.toRows required)) := by
    rw [Refused, Transaction.failing_store]
    exact fun h => hexcluded h.1 h.2
  refine ⟨_, _, _, (yields_importRequisites now).2
      ⟨courses, hload, _, hok, hopen, hopen', rfl, rfl, rfl⟩, ?_,
    Memory.forall₂_hasCells prerequisiteLayout_writes required
      (tx.work.table "course_prerequisite").lastId, ?_,
    Memory.forall₂_hasCells antirequisiteLayout_writes excluded
      (tx.work.table "course_antirequisite").lastId, fun name hname hname' => ?_⟩
  all_goals rw [Memory.table_store_toRows, Memory.table_store_toRows]
  · rw [Memory.Tables.add_of_ne _ (show "course_prerequisite" ≠ antirequisiteLayout.table by decide)]
    exact Memory.Tables.rows_add _ _ _
  · exact Memory.Tables.rows_add _ _ _
  · rw [Memory.Tables.add_of_ne _ (show name ≠ antirequisiteLayout.table from hname'),
      Memory.Tables.add_of_ne _ (show name ≠ prerequisiteLayout.table from hname)]

/-- A course with what it requires, takes along and excludes. -/
def bareCourse (id prereqs coreqs antireqs : String) : LegacyCourse :=
  ⟨id, "", none, some prereqs, some coreqs, some antireqs⟩

/-- A store that holds some bare courses. -/
def bareCourses (courses : List LegacyCourse) : Sources where
  legacy := Legacy.Store.ofData [(courseCollection, courses.map fun course =>
    .object [("_id", .text course.id), ("prereqs", .text (course.prereqs.getD "")),
      ("coreqs", .text (course.coreqs.getD "")), ("antireqs", .text (course.antireqs.getD ""))])] []
  batchSize := 1
  secret _ := "code"

/-- The map in which some courses have rows. -/
def courseRows (rows : List (String × Int)) : IdMap where
  entries := rows.map fun (key, row) => ((.course, .key key), row)

/-- Three courses of which the second names the first in every text, the third among what it takes
along, and itself among what it excludes. -/
def introductions : List LegacyCourse :=
  [bareCourse "cs135" "" "" "",
    bareCourse "cs136" "One of CS135, CS145; or CS115" "CS135 and MATH135" "CS136 or CS135",
    bareCourse "math135" "" "" ""]

theorem edges_named_of_introductions :
    let ids := courseRows [("cs135", 1), ("cs136", 2), ("math135", 3)]
    let performed :=
      Memory.perform ⟨0, 0⟩ (importRequisites (bareCourses introductions)) ids (Memory.begin {})
    let rows := fun name => (performed.2.2.work.table name).rows
    Legacy.load (bareCourses introductions).legacy courseCollection LegacyCourse.decoder =
      .ok introductions ∧
    (∀ course ∈ introductions, ∃ id, ids.get? .course (.key course.id) = some id) ∧
    performed.1 =
      .ok ⟨.requisites, [⟨"course_prerequisite", 2⟩, ⟨"course_antirequisite", 1⟩]⟩ ∧
    rows "course_prerequisite" =
      [[("course_id", .bigint 2), ("prerequisite_id", .bigint 1), ("is_corequisite", .bool false),
          ("id", .bigint 1)],
        [("course_id", .bigint 2), ("prerequisite_id", .bigint 3), ("is_corequisite", .bool true),
          ("id", .bigint 2)]] ∧
    rows "course_antirequisite" =
      [[("course_id", .bigint 2), ("antirequisite_id", .bigint 1), ("id", .bigint 1)]] ∧
    ∃ required excluded, Drawn ids introductions required excluded ∧
      List.Forall₂ (fun edge => HasCells edge.cells) required (rows "course_prerequisite") ∧
      List.Forall₂ (fun edge => HasCells edge.cells) excluded (rows "course_antirequisite") := by
  intro ids performed rows
  have hload : Legacy.load (bareCourses introductions).legacy courseCollection
      LegacyCourse.decoder = .ok introductions := rfl
  have hknown : ∀ course ∈ introductions, ∃ id,
      ids.get? .course (.key course.id) = some id := by
    simpa [introductions] using ⟨⟨1, rfl⟩, ⟨2, rfl⟩, ⟨3, rfl⟩⟩
  obtain ⟨required, excluded, hdrawn, hwritten⟩ := edges_named ⟨0, 0⟩ hload hknown
  obtain ⟨tx', edges, exclusions, hperform, hedges, hrequired, hexclusions, hexcluded, -⟩ :=
    hwritten (Memory.begin {}) (fun _ => List.not_mem_nil) fun _ => List.not_mem_nil
  have hafter : performed.2.2 = tx' := congrArg (fun outcome => outcome.2.2) hperform
  have hall : rows "course_prerequisite" = edges := by
    simp only [rows, hafter]
    exact hedges
  have hallExcluded : rows "course_antirequisite" = exclusions := by
    simp only [rows, hafter]
    exact hexclusions
  refine ⟨hload, hknown, by decide +kernel, by decide +kernel, by decide +kernel, required,
    excluded, hdrawn, ?_, ?_⟩
  · rwa [hall]
  · rwa [hallExcluded]

/-- Two courses that may share a row: the first takes along what the second requires. -/
def overlapping : List LegacyCourse :=
  [bareCourse "cs1" "" "AB123" "", bareCourse "cs2" "AB123" "" "", bareCourse "ab123" "" "" ""]

/-- Where two courses share a row, they have one edge to another course, and it is a corequisite
even though one of them requires that course before it. -/
theorem two_courses_share_an_edge :
    let ids := courseRows [("cs1", 1), ("cs2", 1), ("ab123", 2)]
    Legacy.load (bareCourses overlapping).legacy courseCollection LegacyCourse.decoder =
      .ok overlapping ∧
    (∀ course ∈ overlapping, ∃ id, ids.get? .course (.key course.id) = some id) ∧
    (∃ course ∈ overlapping, ids.get? .course (.key course.id) = some 1 ∧
      Names ids course.prereqs 2) ∧
    ((Memory.perform ⟨0, 0⟩ (importRequisites (bareCourses overlapping)) ids
        (Memory.begin {})).2.2.work.table "course_prerequisite").rows =
      [[("course_id", .bigint 1), ("prerequisite_id", .bigint 2), ("is_corequisite", .bool true),
        ("id", .bigint 1)]] := by
  intro ids
  refine ⟨rfl, ?_, ?_, by decide +kernel⟩
  · simpa [overlapping] using ⟨⟨1, rfl⟩, ⟨1, rfl⟩, ⟨2, rfl⟩⟩
  · exact ⟨bareCourse "cs2" "AB123" "" "", by simp [overlapping], rfl,
      names_iff.2 (by decide +kernel)⟩

end Registrar.Import
