import Registrar.Proofs.Import.Provenance
/-!
# Runs leave consistent tables

The identifier map and the tables are `Sound` together if every document that the map knows leads to
its row and every row of a dependent table accounts for what it cites. Writing records that are
sourced keeps this (`Sound.copy`), and so does naming new rows for documents that they are made from
(`Sound.named`). Every stage is made of these steps (`sound_work`), a stage that fails leaves no
trace, and so a run over empty tables leaves consistent ones, however it ends (`consistent_run`).
-/
namespace Registrar.Memory

variable {ρ : Type} {layout : Sql.Layout ρ} {tables tables' : Tables}

/-! ## Tables that grow -/

theorem Tables.grows_add (tables : Tables) (name : String) (entries : List Entry) :
    tables.Grows (tables.add name entries) := by
  intro other row hrow
  unfold Tables.add
  split
  · exact List.mem_append_left _ hrow
  · exact hrow

theorem isRowOf_of_mem_numbered {lastId : Nat} {records : List ρ} {row : Row}
    (h : row ∈ numbered lastId (layout.entries records)) :
    ∃ record ∈ records, IsRowOf layout record row := by
  obtain ⟨i, hi⟩ := List.mem_iff_getElem?.1 h
  rw [getElem?_numbered_entries] at hi
  obtain ⟨record, hrecord, hrow⟩ := Option.map_eq_some_iff.1 hi
  exact ⟨record, List.mem_of_getElem? hrecord, _, hrow.symm⟩

/-- A row of a table with more records is an old row or one of the records. -/
theorem Tables.mem_add {records : List ρ} {name : String} {row : Row}
    (h : row ∈ (tables.add layout.table (layout.entries records) name).rows) :
    row ∈ (tables name).rows ∨
      name = layout.table ∧ ∃ record ∈ records, IsRowOf layout record row := by
  unfold Tables.add at h
  split at h
  · rename_i hname
    rcases List.mem_append.1 h with hold | hnew
    · exact Or.inl hold
    · exact Or.inr ⟨hname, isRowOf_of_mem_numbered hnew⟩
  · exact Or.inl h

theorem Tables.Numbered.add (h : tables.Numbered) (hshape : layout.WellShaped) (records : List ρ) :
    (tables.add layout.table (layout.entries records)).Numbered := by
  intro name
  obtain ⟨hlast, hids⟩ := h name
  unfold Tables.add
  split
  · refine ⟨by simp [Table.extend, hlast], fun i row hrow => ?_⟩
    simp only [Table.extend] at hrow
    by_cases hi : i < (tables name).rows.length
    · rw [List.getElem?_append_left hi] at hrow
      exact hids i row hrow
    · rw [List.getElem?_append_right (by omega), getElem?_numbered_entries] at hrow
      obtain ⟨record, -, rfl⟩ := Option.map_eq_some_iff.1 hrow
      rw [lookup_id_row hshape.withoutId]
      have hplace : (tables name).lastId + (i - (tables name).rows.length) + 1 = i + 1 := by omega
      rw [hplace]
      rfl
  · exact ⟨hlast, hids⟩

/-- The row of a record that was written has the id that the record was given. -/
theorem Tables.exists_row_add (tables : Tables) (hshape : layout.WellShaped) {records : List ρ}
    {i : Nat} {record : ρ} (hrecord : records[i]? = some record) :
    ∃ row ∈ (tables.add layout.table (layout.entries records) layout.table).rows,
      row.lookup "id" = some (.bigint ((tables layout.table).lastId + i + 1 : Nat)) ∧
        IsRowOf layout record row := by
  refine ⟨row layout.columns (layout.values record) ((tables layout.table).lastId + i + 1), ?_,
    lookup_id_row hshape.withoutId _ _, _, rfl⟩
  rw [Tables.add, if_pos rfl]
  refine List.mem_append_right _ (List.mem_of_getElem? (i := i) ?_)
  rw [getElem?_numbered_entries, hrecord]
  rfl

end Registrar.Memory

namespace Registrar.Import

open Memory (IsRowOf Row Tables Transaction Yields idsAfter orNull)

variable {sources : Sources} {ids ids' : IdMap} {tables tables' : Tables} {ρ : Type}
  {layout : Sql.Layout ρ}

theorem Leads.mono (hgrows : tables.Grows tables') {c : Citation} (h : Leads sources tables c) :
    Leads sources tables' c := by
  obtain ⟨row, hrow, hrest⟩ := h
  exact ⟨row, hgrows _ row hrow, hrest⟩

theorem Dependent.Accounts.mono (hgrows : tables.Grows tables') {d : Dependent} {row : Row}
    (h : d.Accounts sources tables row) : d.Accounts sources tables' row := by
  obtain ⟨record, citations, hrow, hcites, hleads⟩ := h
  exact ⟨record, citations, hrow, hcites, fun c hc => (hleads c hc).mono hgrows⟩

theorem tables_dependents (sources : Sources) :
    (dependents sources).map (fun d => d.table) =
      ["course_section", "section_meeting", "course_prerequisite", "course_antirequisite",
        "secret.user_email", "secret.user_fb", "review", "course_review_upvote", "user_shortlist",
        "user_course_taken", "user_schedule"] := rfl

/-- A table is dependent in one way only. -/
theorem eq_of_table_eq {d d' : Dependent} (hd : d ∈ dependents sources)
    (hd' : d' ∈ dependents sources) (h : d.table = d'.table) : d = d' := by
  have hnodup : ((dependents sources).map fun d => d.table).Nodup := by
    rw [tables_dependents]
    decide
  exact List.inj_on_of_nodup_map hnodup hd hd' h

/-! ## The invariant -/

/-- The map and the tables fit: documents lead to their rows, and rows to what they cite. -/
structure Sound (sources : Sources) (ids : IdMap) (tables : Tables) : Prop where
  numbered : tables.Numbered
  linked : ∀ c : Citation, c.Registered ids → Leads sources tables c
  right : ∀ d ∈ dependents sources, ∀ row ∈ (tables d.table).rows,
    d.Accounts sources tables row

namespace Sound

/-- Nothing refers to anything where there is nothing. -/
theorem empty (hempty : ∀ name, tables name = {}) : Sound sources {} tables where
  numbered name := by simp [hempty name]
  linked c hc := by simp [Citation.Registered] at hc
  right d _ row hrow := by simp [hempty] at hrow

/-- Rows of a table that is not dependent need nothing. -/
theorem write (h : Sound sources ids tables) (hshape : layout.WellShaped)
    (hplain : layout.table ∉ (dependents sources).map fun d => d.table) (records : List ρ) :
    Sound sources ids (tables.add layout.table (layout.entries records)) where
  numbered := h.numbered.add hshape records
  linked c hc := (h.linked c hc).mono (tables.grows_add _ _)
  right d hd row hrow := by
    rcases Tables.mem_add hrow with hold | ⟨htable, -⟩
    · exact (h.right d hd row hold).mono (tables.grows_add _ _)
    · exact absurd (List.mem_map.2 ⟨d, hd, htable⟩) hplain

/-- Rows of a dependent table need a source. -/
theorem copy (h : Sound sources ids tables) {d : Dependent} (hd : d ∈ dependents sources)
    {layout : Sql.Layout d.Record} (hwrites : layout.Writes d.table d.cells)
    {records : List d.Record} (hsourced : ∀ record ∈ records, Sourced ids d.Cites record) :
    Sound sources ids (tables.add layout.table (layout.entries records)) where
  numbered := h.numbered.add hwrites.shape records
  linked c hc := (h.linked c hc).mono (tables.grows_add _ _)
  right d' hd' row hrow := by
    rcases Tables.mem_add hrow with hold | ⟨htable, record, hrecord, hisRow⟩
    · exact (h.right d' hd' row hold).mono (tables.grows_add _ _)
    · -- what a new row cites was there before it
      obtain rfl := eq_of_table_eq hd' hd (htable.trans hwrites.table_eq)
      obtain ⟨citations, hcites, hregistered⟩ := hsourced record hrecord
      refine ⟨record, citations, hwrites.hasCells hisRow, hcites, fun c hc => ?_⟩
      exact (h.linked c (hregistered c hc)).mono (tables.grows_add _ _)

/-- The map may know more documents that lead to their rows. -/
theorem register (h : Sound sources ids tables)
    (hnew : ∀ c : Citation, c.Registered ids' → c.Registered ids ∨ Leads sources tables c) :
    Sound sources ids' tables where
  numbered := h.numbered
  linked c hc := (hnew c hc).elim (h.linked c) id
  right := h.right

end Sound

/-- Documents lead to the rows of the records that are made from them. -/
theorem leads_add {ι : Type} {entity : Entity} (htable : entity.table = layout.table)
    (hshape : layout.WellShaped) (record : ι → ρ) {item : ι} {items : List ι} {name : LegacyId}
    (hbecame : ∀ row, IsRowOf layout (record item) row → Became sources entity name row) {id : Int}
    (hmem : (item, id) ∈ items.zip (idsAfter (tables layout.table).lastId items.length)) :
    Leads sources (tables.add layout.table (layout.entries (items.map record)))
      ⟨entity, name, id⟩ := by
  obtain ⟨i, hi⟩ := List.mem_iff_getElem?.1 hmem
  obtain ⟨hitem, hid⟩ := List.getElem?_zip_eq_some.1 hi
  have hrecord : (items.map record)[i]? = some (record item) := by
    rw [List.getElem?_map, hitem]
    rfl
  obtain ⟨row, hrow, hlookup, hisRow⟩ := Tables.exists_row_add tables hshape hrecord
  refine ⟨row, by rwa [htable], ?_, hbecame row hisRow⟩
  have hplace : id = ((tables layout.table).lastId + i + 1 : Nat) :=
    Memory.eq_of_getElem?_idsAfter hid
  rw [hlookup, hplace]

namespace Sound

/-- New rows may be named for documents that they are made from. -/
theorem named {ι : Type} (entity : Entity) (htable : entity.table = layout.table)
    (hshape : layout.WellShaped) {items : List ι} {record : ι → ρ} {records : List ρ}
    (hrecords : items.map record = records) (name : ι → LegacyId)
    (hbecame : ∀ item ∈ items, ∀ row, IsRowOf layout (record item) row →
      Became sources entity (name item) row)
    (h : Sound sources ids (tables.add layout.table (layout.entries records))) :
    Sound sources (ids.named entity (items.map name) (tables layout.table).lastId)
      (tables.add layout.table (layout.entries records)) := by
  subst hrecords
  refine h.register fun c hc => ?_
  rcases List.mem_append.1 hc with hold | hnew
  · exact Or.inl hold
  · obtain ⟨⟨newName, id⟩, hmem, hcell⟩ := List.mem_map.1 hnew
    rw [List.length_map, List.zip_map_left] at hmem
    obtain ⟨⟨item, id'⟩, hitem, hpair⟩ := List.mem_map.1 hmem
    cases hpair
    obtain ⟨entity', name', row'⟩ := c
    cases hcell
    exact Or.inr (leads_add htable hshape record
      (hbecame item (List.of_mem_zip hitem).1) hitem)

end Sound

/-! ## Stages -/

theorem lookup_of_isRowOf (hshape : layout.WellShaped) {record : ρ} {row : Row}
    (h : IsRowOf layout record row) {column : String} {value : Sql.Value}
    (hcell : (layout.columns.zip (layout.values record)).lookup column = some value) :
    row.lookup column = some value := by
  obtain ⟨id, rfl⟩ := h
  exact Memory.lookup_row hshape.distinct hcell id

variable {now : Time.Instant} {tx tx' : Transaction} {report : Report}

theorem sound_importCourses (h : Sound sources ids tx.work.table)
    (hyields : Yields now (importCourses sources) ids tx report ids' tx') :
    Sound sources ids' tx'.work.table := by
  obtain ⟨courses, hload, -, -, -, rfl, rfl⟩ := (yields_importCourses now).1 hyields
  rw [Memory.table_store_toRows]
  refine Sound.named .course rfl courseLayout_wellShaped (List.map_id courses) _ ?_
    (h.write courseLayout_wellShaped (by rw [tables_dependents]; decide) courses)
  intro course _ row hrow
  exact lookup_of_isRowOf courseLayout_wellShaped hrow rfl

theorem sound_importRequisites (h : Sound sources ids tx.work.table)
    (hyields : Yields now (importRequisites sources) ids tx report ids' tx') :
    Sound sources ids' tx'.work.table := by
  obtain ⟨courses, hload, edges, hedges, -, -, -, rfl, rfl⟩ :=
    (yields_importRequisites now).1 hyields
  have hsourced : EdgesSourced sources ids' edges :=
    sourced_requisites (fun course hcourse => ⟨courses, hload, hcourse⟩) ⟨by simp, by simp⟩ hedges
  have hrequired := h.copy (d := Prerequisite.dependent sources) (by simp [dependents])
    prerequisiteLayout_writes hsourced.required
  have hexcluded := hrequired.copy (d := Antirequisite.dependent sources) (by simp [dependents])
    antirequisiteLayout_writes hsourced.excluded
  rwa [Memory.table_store_toRows, Memory.table_store_toRows]

theorem sound_importRenames (h : Sound sources ids tx.work.table)
    (hyields : Yields now (importRenames sources) ids tx report ids' tx') :
    Sound sources ids' tx'.work.table := by
  obtain ⟨records, -, renames, -, -, -, rfl, rfl⟩ := (yields_importRenames now).1 hyields
  rw [Memory.table_store_toRows]
  refine (h.write renameLayout_wellShaped ?_ renames).register fun c hc => Or.inl hc
  rw [tables_dependents]
  decide

theorem registered_claim {row : Int} {names : List String} {c : Citation}
    (h : c.Registered (ids.claim row names)) :
    c.Registered ids ∨ ∃ name ∈ names, c = ⟨.prof, .key name, row⟩ := by
  induction names generalizing ids with
  | nil => exact Or.inl h
  | cons name rest ih =>
    rcases ih h with hold | ⟨other, hother, hc⟩
    · split at hold
      · rcases List.mem_append.1 hold with hold | hnew
        · exact Or.inl hold
        · refine Or.inr ⟨name, List.mem_cons_self, ?_⟩
          obtain ⟨entity, id, row'⟩ := c
          cases List.mem_singleton.1 hnew
          rfl
      · exact Or.inl hold
    · exact Or.inr ⟨other, List.mem_cons_of_mem _ hother, hc⟩

theorem registered_claimGroups {groups : List (ProfGroup × Int)} {c : Citation}
    (h : c.Registered (ids.claimGroups groups)) :
    c.Registered ids ∨
      ∃ group ∈ groups, ∃ name ∈ group.1.legacyIds, c = ⟨.prof, .key name, group.2⟩ := by
  induction groups generalizing ids with
  | nil => exact Or.inl h
  | cons group rest ih =>
    rcases ih h with hold | ⟨other, hother, hc⟩
    · rcases registered_claim hold with hold | hname
      · exact Or.inl hold
      · exact Or.inr ⟨group, List.mem_cons_self, hname⟩
    · exact Or.inr ⟨other, List.mem_cons_of_mem _ hother, hc⟩

theorem sound_importProfs (h : Sound sources ids tx.work.table)
    (hyields : Yields now (importProfs sources) ids tx report ids' tx') :
    Sound sources ids' tx'.work.table := by
  obtain ⟨profs, hload, -, -, rfl, rfl⟩ := (yields_importProfs now).1 hyields
  rw [Memory.table_store_toRows]
  have hwritten := h.write profLayout_wellShaped (by rw [tables_dependents]; decide)
    (groupProfs ids profs)
  refine hwritten.register fun c hc => ?_
  rcases registered_claimGroups hc with hold | ⟨⟨group, row⟩, hgroup, name, hname, rfl⟩
  · exact Or.inl hold
  · refine Or.inr ?_
    rw [← List.map_id (groupProfs ids profs)]
    refine leads_add rfl profLayout_wellShaped id (fun row hrow => ?_) hgroup
    exact ⟨profs, hload, ids, group, (List.of_mem_zip hgroup).1, hname,
      profLayout_writes.hasCells hrow⟩

theorem sound_importSections (h : Sound sources ids tx.work.table)
    (hyields : Yields now (importSections sources) ids tx report ids' tx') :
    Sound sources ids' tx'.work.table := by
  obtain ⟨sections, hload, rows, hrows, -, -, -, -, rfl, rfl⟩ :=
    (yields_importSections now).1 hyields
  have hdocs : ∀ s ∈ sections, IsDocument sources sectionCollection LegacySection.decoder s :=
    fun s hs => ⟨sections, hload, hs⟩
  -- the sections are written and named before their meetings cite them
  have hwritten := h.copy (d := SectionRow.dependent sources) (by simp [dependents])
    sectionLayout_writes (sourced_sections hdocs hrows)
  have hnamed := hwritten.named .courseSection rfl sectionLayout_wellShaped (List.map_id rows)
    SectionRow.legacyId fun row _ cells hcells =>
      ⟨lookup_of_isRowOf sectionLayout_wellShaped hcells rfl,
        lookup_of_isRowOf sectionLayout_wellShaped hcells rfl⟩
  have hmeetings := hnamed.copy (d := MeetingRow.dependent sources) (by simp [dependents])
    meetingLayout_writes (sourced_meetings tx.work.termDates hdocs hrows _)
  rwa [Memory.table_store_toRows, Memory.table_store_toRows]

theorem sound_importUsers (h : Sound sources ids tx.work.table)
    (hyields : Yields now (importUsers sources) ids tx report ids' tx') :
    Sound sources ids' tx'.work.table := by
  obtain ⟨users, hload, -, -, -, -, -, rfl, rfl⟩ := (yields_importUsers now).1 hyields
  have hdocs : ∀ user ∈ users, IsDocument sources userCollection LegacyUser.decoder user :=
    fun user huser => ⟨users, hload, huser⟩
  have hwritten := h.write userLayout_wellShaped (by rw [tables_dependents]; decide)
    (usersWithSecrets sources users)
  -- the stage names users, the rows are of users with secrets
  have hnames : (usersWithSecrets sources users).map (fun user => LegacyId.key user.1.id) =
      users.map fun user => .key user.id := by
    have hfst : (usersWithSecrets sources users).map Prod.fst = users :=
      List.map_fst_zip (by simp)
    conv_rhs => rw [← hfst, List.map_map]
    rfl
  have hnamed := hwritten.named .user rfl userLayout_wellShaped
    (List.map_id (usersWithSecrets sources users)) (fun user => .key user.1.id)
    fun user huser row hrow =>
      ⟨users, hload, user, huser, rfl, userLayout_writes.hasCells hrow⟩
  rw [hnames] at hnamed
  have hpasswords := hnamed.copy (d := PasswordRow.dependent sources) (by simp [dependents])
    passwordLayout_writes (sourced_passwords hdocs _)
  have haccounts := hpasswords.copy (d := FacebookRow.dependent sources) (by simp [dependents])
    facebookLayout_writes (sourced_accounts hdocs _)
  rwa [Memory.table_store_toRows, Memory.table_store_toRows, Memory.table_store_toRows]

theorem sound_importReviews (h : Sound sources ids tx.work.table)
    (hyields : Yields now (importReviews sources) ids tx report ids' tx') :
    Sound sources ids' tx'.work.table := by
  obtain ⟨docs, hload, reviews, hreviews, -, -, -, rfl, rfl⟩ :=
    (yields_importReviews now).1 hyields
  have hsourced := sourced_reviews (fun doc hdoc => ⟨docs, hload, hdoc⟩) (by simp) hreviews
  have hrows : ∀ row ∈ reviews.map Prod.snd, Sourced ids (ReviewRow.Cites sources) row := by
    intro row hrow
    obtain ⟨review, hreview, rfl⟩ := List.mem_map.1 hrow
    exact (hsourced review hreview).row
  have hwritten := h.copy (d := ReviewRow.dependent sources) (by simp [dependents])
    reviewLayout_writes hrows
  rw [Memory.table_store_toRows]
  refine Sound.named .review rfl reviewLayout_wellShaped rfl _ ?_ hwritten
  intro review hreview row hrow
  obtain ⟨doc, hdoc, hid, known, course, user, hreviewRow⟩ := (hsourced review hreview).doc
  exact ⟨doc, hdoc, hid, known, course, user, hreviewRow ▸ reviewLayout_writes.hasCells hrow⟩

theorem sound_importHistories (h : Sound sources ids tx.work.table)
    (hyields : Yields now (importHistories sources) ids tx report ids' tx') :
    Sound sources ids' tx'.work.table := by
  obtain ⟨docs, hload, history, hhistory, -, -, -, -, rfl, rfl⟩ :=
    (yields_importHistories now).1 hyields
  have hsourced : HistorySourced sources ids' history :=
    sourced_history (fun doc hdoc => ⟨docs, hload, hdoc⟩) ⟨by simp, by simp, by simp⟩ hhistory
  have hvoted := h.copy (d := UpvoteRow.dependent sources) (by simp [dependents])
    upvoteLayout_writes hsourced.upvotes
  have hsaved := hvoted.copy (d := ShortlistRow.dependent sources) (by simp [dependents])
    shortlistLayout_writes hsourced.shortlist
  have htaken := hsaved.copy (d := TakenRow.dependent sources) (by simp [dependents])
    takenLayout_writes hsourced.taken
  rwa [Memory.table_store_toRows, Memory.table_store_toRows, Memory.table_store_toRows]

theorem sound_importSchedules (h : Sound sources ids tx.work.table)
    (hyields : Yields now (importSchedules sources) ids tx report ids' tx') :
    Sound sources ids' tx'.work.table := by
  obtain ⟨items, hload, rows, hrows, -, -, rfl, rfl⟩ := (yields_importSchedules now).1 hyields
  have hsourced := sourced_schedule (fun item hitem => ⟨items, hload, hitem⟩) (by simp) hrows
  rw [Memory.table_store_toRows]
  exact h.copy (d := ScheduleRow.dependent sources) (by simp [dependents])
    scheduleLayout_writes hsourced

/-- **Every stage** keeps the map and the tables sound. -/
theorem sound_work (kind : StageKind) (h : Sound sources ids tx.work.table)
    (hyields : Yields now (kind.work sources) ids tx report ids' tx') :
    Sound sources ids' tx'.work.table := by
  cases kind with
  | courses => exact sound_importCourses h hyields
  | requisites => exact sound_importRequisites h hyields
  | profRenames => exact sound_importRenames h hyields
  | profs => exact sound_importProfs h hyields
  | sections => exact sound_importSections h hyields
  | users => exact sound_importUsers h hyields
  | reviews => exact sound_importReviews h hyields
  | histories => exact sound_importHistories h hyields
  | schedules => exact sound_importSchedules h hyields

/-! ## Runs -/

open Memory (State)

theorem sound_runFrom (now : Time.Instant) (kinds : List StageKind) {w : State}
    (h : Sound sources ids w.table) :
    ∃ ids', Sound sources ids'
      (runFrom (Memory.warehouse now) ids w (kinds.map (StageKind.stage sources))).2.table := by
  induction kinds generalizing ids w with
  | nil => exact ⟨ids, h⟩
  | cons kind rest ih =>
    simp only [List.map_cons, runFrom]
    rcases Memory.transact_cases now .readWrite (kind.stage sources).work ids w with
      ⟨cause, ids', hfail⟩ | ⟨report, ids', tx', hyields, hok, htables⟩
    · -- the map of a stage that failed is lost with the run
      rw [hfail]
      exact ⟨ids, h⟩
    · rw [hok]
      have hsound : Sound sources ids' (Memory.publish tx' w).table := by
        rw [htables]
        exact sound_work kind h hyields
      obtain ⟨last, hlast⟩ := ih hsound
      refine ⟨last, ?_⟩
      rcases hrest : runFrom (Memory.warehouse now) ids' (Memory.publish tx' w)
        (rest.map (StageKind.stage sources)) with ⟨cause | reports, after⟩
      all_goals
        rw [hrest] at hlast
        simp only [hrest]
        exact hlast

/-! ## Columns -/

/-- The column of a dependent table holds a row that the record cites, or nothing if it may. -/
structure Reference.CitedBy (r : Reference) (d : Dependent) : Prop where
  table : r.table = d.table
  cell : ∀ record citations, d.Cites record citations →
    (r.optional ∧ (d.cells record).lookup r.column = some (.null .bigint)) ∨
    ∃ id name, (d.cells record).lookup r.column = some (.bigint id) ∧
      (⟨r.target, name, id⟩ : Citation) ∈ citations

theorem Reference.CitedBy.holds {r : Reference} {d : Dependent} (h : r.CitedBy d)
    (hright : ∀ row ∈ (tables d.table).rows, d.Accounts sources tables row) :
    r.Holds tables := by
  intro row hrow
  rw [h.table] at hrow
  obtain ⟨record, citations, hcells, hcites, hleads⟩ := hright row hrow
  rcases h.cell record citations hcites with ⟨hoptional, hnull⟩ | ⟨id, name, hid, hcitation⟩
  · exact Or.inl ⟨hoptional, hcells.lookup hnull⟩
  · obtain ⟨other, hother, hotherId, -⟩ := hleads _ hcitation
    exact Or.inr ⟨id, hcells.lookup hid, other, hother, hotherId⟩

/-- A column for professors holds nothing, or a row that is cited. -/
theorem prof_cell {profId : Option String} {prof : Option Int} {find : String → Option Int}
    (h : prof = profId.bind find) :
    orNull .bigint .bigint prof = .null .bigint ∨
    ∃ id name, orNull .bigint .bigint prof = .bigint id ∧
      (⟨.prof, name, id⟩ : Citation) ∈ profCitation profId prof := by
  subst h
  cases profId with
  | none => exact Or.inl rfl
  | some key =>
    simp only [Option.bind_some]
    cases find key with
    | none => exact Or.inl rfl
    | some row => exact Or.inr ⟨row, .key key, rfl, List.mem_cons_self⟩

/-- A column that always holds a row that the record cites. -/
theorem exists_citedBy_of_required {d : Dependent} (hd : d ∈ dependents sources) {column : String}
    {target : Entity} (id : d.Record → Int)
    (hcell : ∀ record, (d.cells record).lookup column = some (.bigint (id record)))
    (hcites : ∀ record citations, d.Cites record citations →
      ∃ name, (⟨target, name, id record⟩ : Citation) ∈ citations) :
    ∃ d' ∈ dependents sources, Reference.CitedBy ⟨d.table, column, target, false⟩ d' := by
  refine ⟨d, hd, rfl, fun record citations h => Or.inr ?_⟩
  obtain ⟨name, hname⟩ := hcites record citations h
  exact ⟨id record, name, hcell record, hname⟩

/-- **Every reference** is the column of a dependent table, and what it holds is cited. -/
theorem exists_citedBy (sources : Sources) {r : Reference} (hr : r ∈ references) :
    ∃ d ∈ dependents sources, r.CitedBy d := by
  simp only [references, List.mem_cons, List.not_mem_nil, or_false] at hr
  rcases hr with rfl | rfl | rfl | rfl | rfl | rfl | rfl | rfl | rfl | rfl | rfl | rfl | rfl | rfl |
    rfl | rfl | rfl | rfl | rfl
  · refine exists_citedBy_of_required (d := SectionRow.dependent sources) (by simp [dependents])
      SectionRow.course (fun _ => rfl) ?_
    rintro record _ ⟨doc, -, -, rfl⟩
    exact ⟨_, .head _⟩
  · refine exists_citedBy_of_required (d := Prerequisite.dependent sources) (by simp [dependents])
      Prerequisite.course (fun _ => rfl) ?_
    rintro record _ ⟨doc, -, text, -, codes, -, code, -, rfl⟩
    exact ⟨_, .head _⟩
  · refine exists_citedBy_of_required (d := Prerequisite.dependent sources) (by simp [dependents])
      Prerequisite.prerequisite (fun _ => rfl) ?_
    rintro record _ ⟨doc, -, text, -, codes, -, code, -, rfl⟩
    exact ⟨_, .tail _ (.head _)⟩
  · refine exists_citedBy_of_required (d := Antirequisite.dependent sources) (by simp [dependents])
      Antirequisite.course (fun _ => rfl) ?_
    rintro record _ ⟨doc, -, text, -, codes, -, code, -, rfl⟩
    exact ⟨_, .head _⟩
  · refine exists_citedBy_of_required (d := Antirequisite.dependent sources) (by simp [dependents])
      Antirequisite.antirequisite (fun _ => rfl) ?_
    rintro record _ ⟨doc, -, text, -, codes, -, code, -, rfl⟩
    exact ⟨_, .tail _ (.head _)⟩
  · refine exists_citedBy_of_required (d := ReviewRow.dependent sources) (by simp [dependents])
      ReviewRow.course (fun _ => rfl) ?_
    rintro record _ ⟨doc, -, -, rfl⟩
    exact ⟨_, .head _⟩
  · refine exists_citedBy_of_required (d := ShortlistRow.dependent sources) (by simp [dependents])
      ShortlistRow.course (fun _ => rfl) ?_
    rintro record _ ⟨doc, -, -, rfl⟩
    exact ⟨_, .head _⟩
  · refine exists_citedBy_of_required (d := TakenRow.dependent sources) (by simp [dependents])
      TakenRow.course (fun _ => rfl) ?_
    rintro record _ ⟨doc, -, -, -, -, rfl⟩
    exact ⟨_, .head _⟩
  · refine exists_citedBy_of_required (d := MeetingRow.dependent sources) (by simp [dependents])
      MeetingRow.sectionId (fun _ => rfl) ?_
    rintro record _ ⟨doc, -, meeting, -, -, classNumber, term, -, -, rfl⟩
    exact ⟨_, .head _⟩
  · refine exists_citedBy_of_required (d := ScheduleRow.dependent sources) (by simp [dependents])
      ScheduleRow.sectionId (fun _ => rfl) ?_
    rintro record _ ⟨doc, -, classNumber, term, -, -, rfl⟩
    exact ⟨_, .tail _ (.head _)⟩
  · refine exists_citedBy_of_required (d := ReviewRow.dependent sources) (by simp [dependents])
      ReviewRow.user (fun _ => rfl) ?_
    rintro record _ ⟨doc, -, -, rfl⟩
    exact ⟨_, .tail _ (.head _)⟩
  · refine exists_citedBy_of_required (d := ShortlistRow.dependent sources) (by simp [dependents])
      ShortlistRow.user (fun _ => rfl) ?_
    rintro record _ ⟨doc, -, -, rfl⟩
    exact ⟨_, .tail _ (.head _)⟩
  · refine exists_citedBy_of_required (d := TakenRow.dependent sources) (by simp [dependents])
      TakenRow.user (fun _ => rfl) ?_
    rintro record _ ⟨doc, -, -, -, -, rfl⟩
    exact ⟨_, .tail _ (.head _)⟩
  · refine exists_citedBy_of_required (d := ScheduleRow.dependent sources) (by simp [dependents])
      ScheduleRow.user (fun _ => rfl) ?_
    rintro record _ ⟨doc, -, classNumber, term, -, -, rfl⟩
    exact ⟨_, .head _⟩
  · refine exists_citedBy_of_required (d := PasswordRow.dependent sources) (by simp [dependents])
      PasswordRow.user (fun _ => rfl) ?_
    rintro record _ ⟨doc, -, -, rfl⟩
    exact ⟨_, .head _⟩
  · refine exists_citedBy_of_required (d := FacebookRow.dependent sources) (by simp [dependents])
      FacebookRow.user (fun _ => rfl) ?_
    rintro record _ ⟨doc, -, -, rfl⟩
    exact ⟨_, .head _⟩
  · refine exists_citedBy_of_required (d := UpvoteRow.dependent sources) (by simp [dependents])
      UpvoteRow.review (fun _ => rfl) ?_
    rintro record _ ⟨doc, -, -, rfl⟩
    exact ⟨_, .head _⟩
  · refine ⟨ReviewRow.dependent sources, by simp [dependents], rfl, ?_⟩
    rintro record _ ⟨doc, -, ⟨known, hrow⟩, rfl⟩
    rcases prof_cell (congrArg ReviewRow.prof hrow) with hnull | ⟨id, name, hid, hcitation⟩
    · exact Or.inl ⟨rfl, congrArg some hnull⟩
    · exact Or.inr ⟨id, name, congrArg some hid, .tail _ (.tail _ hcitation)⟩
  · refine ⟨MeetingRow.dependent sources, by simp [dependents], rfl, ?_⟩
    rintro record _ ⟨doc, -, meeting, -, ⟨known, frame, hrow⟩, classNumber, term, -, -, rfl⟩
    rcases prof_cell (congrArg MeetingRow.prof hrow) with hnull | ⟨id, name, hid, hcitation⟩
    · exact Or.inl ⟨rfl, congrArg some hnull⟩
    · exact Or.inr ⟨id, name, congrArg some hid, .tail _ hcitation⟩

/-- A sound map and its tables are consistent. -/
theorem Sound.consistent (h : Sound sources ids tables) : Consistent sources tables where
  numbered := h.numbered
  references r hr := by
    obtain ⟨d, hd, hcited⟩ := exists_citedBy sources hr
    exact hcited.holds (h.right d hd)
  right := h.right

/-- **Runs leave consistent tables**: whatever the legacy data, the stages, the size of the batches
and the tables that refuse to be written, and whether the run succeeds or fails. -/
theorem consistent_run (now : Time.Instant) (sources : Sources) (kinds : List StageKind)
    (start : State) (hempty : ∀ name, start.table name = {}) :
    Consistent sources
      (run (Memory.warehouse now) (kinds.map (StageKind.stage sources)) start).2.table := by
  obtain ⟨ids, hsound⟩ := sound_runFrom now kinds (Sound.empty hempty)
  exact hsound.consistent

/-- A store from which every table gets a row. -/
def oneOfEach : Sources where
  legacy := Legacy.Store.ofData
    [("course", [.object [("_id", .text "cs115")],
        .object [("_id", .text "cs135"), ("prereqs", .text "CS115"), ("antireqs", .text "CS116")],
        .object [("_id", .text "cs116")]]),
      ("professor", [.object [("_id", .text "grace")], .object [("_id", .text "alan")]]),
      ("section", [
        .object [("course_id", .text "cs135"), ("class_num", .int 4021), ("term_id", .text "2017_09"),
          ("meetings", .array [.object [("prof_id", .text "alan")], .object []])],
        .object [("course_id", .text "cs116"), ("class_num", .int 4022),
          ("term_id", .text "2017_09")]]),
      ("user", [.object [("_id", .text "dan")],
        .object [("_id", .text "ada"), ("email", .text "ada@uwaterloo.ca"),
          ("password", .text (String.ofList (List.replicate 60 'a')))],
        .object [("_id", .text "eve"), ("fbid", .text "42")]]),
      ("user_course", [
        .object [("_id", .text "r1"), ("course_id", .text "cs116"), ("user_id", .text "ada"),
          ("professor_id", .text "grace"), ("term_id", .text "2017_09"),
          ("course_review", .object [("comment", .text "Fun."), ("num_voted_helpful", .int 1)])],
        .object [("_id", .text "r2"), ("course_id", .text "cs135"), ("user_id", .text "eve"),
          ("term_id", .text "9999_99")]]),
      ("user_schedule_item", [.object [("user_id", .text "eve"), ("class_num", .int 4022),
        ("term_id", .text "2017_09")]])]
    [("prof_mapping.csv", [["grace", "Grace", "hopper", "Grace Hopper", ""]])]
  batchSize := 1
  secret _ := "code"

theorem consistent_run_of_oneOfEach :
    let after := (run (Memory.warehouse ⟨0, 0⟩) (StageKind.all.map (StageKind.stage oneOfEach)) {}).2
    ([("course", "code"), ("prof", "code"), ("course_section", "class_number")].map fun c =>
        (after.table c.1).rows.map fun row => (row.lookup "id", row.lookup c.2)) =
      [[(some (.bigint 1), some (.text "cs115")), (some (.bigint 2), some (.text "cs135")),
          (some (.bigint 3), some (.text "cs116"))],
        [(some (.bigint 1), some (.text "hopper")), (some (.bigint 2), some (.text "alan"))],
        [(some (.bigint 1), some (.integer 4021)), (some (.bigint 2), some (.integer 4022))]] ∧
    (references.map fun r =>
        (r.table, r.column, (after.table r.table).rows.map fun row => row.lookup r.column)) =
      [("course_section", "course_id", [some (.bigint 2), some (.bigint 3)]),
        ("course_prerequisite", "course_id", [some (.bigint 2)]),
        ("course_prerequisite", "prerequisite_id", [some (.bigint 1)]),
        ("course_antirequisite", "course_id", [some (.bigint 2)]),
        ("course_antirequisite", "antirequisite_id", [some (.bigint 3)]),
        ("review", "course_id", [some (.bigint 3)]),
        ("user_shortlist", "course_id", [some (.bigint 2)]),
        ("user_course_taken", "course_id", [some (.bigint 3)]),
        ("section_meeting", "section_id", [some (.bigint 1), some (.bigint 1)]),
        ("user_schedule", "section_id", [some (.bigint 2)]),
        ("review", "user_id", [some (.bigint 2)]),
        ("user_shortlist", "user_id", [some (.bigint 3)]),
        ("user_course_taken", "user_id", [some (.bigint 2)]),
        ("user_schedule", "user_id", [some (.bigint 3)]),
        ("secret.user_email", "user_id", [some (.bigint 2)]),
        ("secret.user_fb", "user_id", [some (.bigint 3)]),
        ("course_review_upvote", "review_id", [some (.bigint 1)]),
        ("review", "prof_id", [some (.bigint 1)]),
        ("section_meeting", "prof_id", [some (.bigint 2), some (.null .bigint)])] ∧
    Consistent oneOfEach after.table :=
  ⟨by decide +kernel, by decide +kernel,
    consistent_run ⟨0, 0⟩ oneOfEach StageKind.all {} fun _ => rfl⟩

end Registrar.Import
