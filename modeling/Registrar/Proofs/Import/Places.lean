import Mathlib.Data.List.Forall2
import Registrar.Proofs.Import.Consistency
/-!
# Where new rows stand

Records that are written become rows behind those that there were, each at the place of its record
(`Memory.forall₂_hasCells`) and with the id that follows from the place. A document that is named for
a new row leads to the row at its own place (`IdMap.forall₂_leadsTo`), so documents, records and rows
never get out of step.
-/
namespace Registrar

variable {α β γ δ : Type}

/-! ## Lists side by side -/

theorem forall₂_comp {R : α → β → Prop} {S : β → γ → Prop} {as : List α} {bs : List β} {cs : List γ}
    (h : List.Forall₂ R as bs) (h' : List.Forall₂ S bs cs) :
    List.Forall₂ (fun a c => ∃ b, R a b ∧ S b c) as cs := by
  induction h generalizing cs with
  | nil =>
    cases h'
    exact .nil
  | cons hfirst rest ih =>
    cases h' with
    | cons hfirst' rest' => exact .cons ⟨_, hfirst, hfirst'⟩ (ih rest')

theorem map_eq_map_iff_forall₂ {f : α → γ} {g : β → γ} {as : List α} {bs : List β} :
    as.map f = bs.map g ↔ List.Forall₂ (fun a b => f a = g b) as bs := by
  rw [← List.forall₂_eq_eq_eq, List.forall₂_map_left_iff, List.forall₂_map_right_iff]

theorem exists_getElem?_of_forall₂ {R : α → β → Prop} {as : List α} {bs : List β}
    (h : List.Forall₂ R as bs) {i : Nat} {a : α} (ha : as[i]? = some a) :
    ∃ b, bs[i]? = some b ∧ R a b := by
  obtain ⟨hi, rfl⟩ := List.getElem?_eq_some_iff.1 ha
  exact ⟨_, List.getElem?_eq_getElem (h.length_eq ▸ hi), h.get hi (h.length_eq ▸ hi)⟩

theorem exists_of_forall₂ {R : α → β → Prop} {as : List α} {bs : List β}
    (h : List.Forall₂ R as bs) {a : α} (ha : a ∈ as) : ∃ b ∈ bs, R a b := by
  obtain ⟨i, hi⟩ := List.mem_iff_getElem?.1 ha
  obtain ⟨b, hb, hrelated⟩ := exists_getElem?_of_forall₂ h hi
  exact ⟨b, List.mem_of_getElem? hb, hrelated⟩

/-- What stands beside some lists behind each other comes apart as the lists do. -/
theorem exists_pieces {R : α → β → Prop} {lists : List (List α)} {items : List β}
    (h : List.Forall₂ R lists.flatten items) :
    ∃ pieces, items = pieces.flatten ∧ List.Forall₂ (List.Forall₂ R) lists pieces := by
  induction lists generalizing items with
  | nil => exact ⟨[], List.forall₂_nil_left_iff.1 h, .nil⟩
  | cons list rest ih =>
    rw [List.flatten_cons] at h
    have hhere := List.forall₂_take list.length h
    have hrest := List.forall₂_drop list.length h
    rw [List.take_left] at hhere
    rw [List.drop_left] at hrest
    obtain ⟨pieces, hpieces, hstand⟩ := ih hrest
    refine ⟨items.take list.length :: pieces, ?_, .cons hhere hstand⟩
    rw [List.flatten_cons, ← hpieces, List.take_append_drop]

/-- Items with what stands beside them one way and another. -/
theorem forall₂_zip_zip {R : α → β → Prop} {S : δ → γ → Prop} {as : List α} {bs : List β}
    {cs : List γ} {ds : List δ} (h : List.Forall₂ R as bs) (h' : List.Forall₂ S ds cs)
    (hlength : as.length = ds.length) :
    List.Forall₂ (fun left right => left.1 = right.1.1 ∧ R left.1 right.1.2 ∧ S right.2 left.2)
      (as.zip cs) ((as.zip bs).zip ds) := by
  induction h generalizing cs ds with
  | nil => exact .nil
  | cons hfirst rest ih =>
    cases h' with
    | nil => cases hlength
    | cons hfirst' rest' =>
      exact .cons ⟨rfl, hfirst, hfirst'⟩ (ih rest' (Nat.succ.inj hlength))

/-- What some items make of what stands beside them stands beside those items. -/
theorem forall₂_filterMap_zip {R : α → β → Prop} {S : α → γ → Prop} {keep : α → Bool}
    {make : α × β → Option γ} (hmade : ∀ a b, keep a → R a b → ∃ c, make (a, b) = some c ∧ S a c)
    (hleft : ∀ a b, ¬keep a → make (a, b) = none) {as : List α} {bs : List β}
    (h : List.Forall₂ R as bs) :
    List.Forall₂ S (as.filter keep) ((as.zip bs).filterMap make) := by
  induction h with
  | nil => exact .nil
  | cons hfirst rest ih =>
    rename_i a b as bs
    rw [List.zip_cons_cons]
    by_cases hkeep : keep a
    · obtain ⟨c, hc, hstands⟩ := hmade a b hkeep hfirst
      rw [List.filter_cons_of_pos hkeep, List.filterMap_cons_some hc]
      exact .cons hstands ih
    · rw [List.filter_cons_of_neg hkeep, List.filterMap_cons_none (hleft a b hkeep)]
      exact ih

/-- Of pieces that belong to different items, each is as long as its item says. -/
theorem countP_flatten {owns : α → β → Bool} {count : α → Nat} {as : List α} {pieces : List (List β)}
    (h : List.Forall₂ (fun a piece => piece.length = count a ∧ ∀ b ∈ piece, owns a b) as pieces)
    (hapart : as.Pairwise fun a a' => ∀ b, owns a b → ¬owns a' b) :
    ∀ a ∈ as, pieces.flatten.countP (owns a) = count a := by
  induction h with
  | nil => simp
  | cons hfirst rest ih =>
    rename_i first piece as pieces
    obtain ⟨hlength, howned⟩ := hfirst
    obtain ⟨hothers, hapart⟩ := List.pairwise_cons.1 hapart
    intro a ha
    rw [List.flatten_cons, List.countP_append]
    rcases List.mem_cons.1 ha with rfl | ha
    · have hrest : pieces.flatten.countP (owns a) = 0 := by
        refine List.countP_eq_zero.2 fun b hb howns => ?_
        obtain ⟨piece', hpiece, hb⟩ := List.mem_flatten.1 hb
        obtain ⟨other, hother, -, howned'⟩ := exists_of_forall₂ rest.flip hpiece
        exact hothers other hother b howns (howned' b hb)
      rw [List.countP_eq_length.2 howned, hlength, hrest, Nat.add_zero]
    · have hhere : piece.countP (owns a) = 0 :=
        List.countP_eq_zero.2 fun b hb => hothers a ha b (howned b hb)
      rw [hhere, Nat.zero_add, ih hapart a ha]

/-- What some items have nothing to say about may be left out. -/
theorem flatMap_eq_of_sublist {key : α → γ} {f : α → List β} {as bs : List α} (h : as.Sublist bs)
    (hnodup : (bs.map key).Nodup) (hrest : ∀ b ∈ bs, key b ∉ as.map key → f b = []) :
    bs.flatMap f = as.flatMap f := by
  induction h with
  | slnil => rfl
  | cons b h ih =>
    obtain ⟨hnew, hnodup⟩ := List.nodup_cons.1 hnodup
    have hsilent : f b = [] :=
      hrest b List.mem_cons_self fun hmem => hnew ((h.map key).subset hmem)
    rw [List.flatMap_cons, hsilent, List.nil_append]
    exact ih hnodup fun other hother => hrest other (List.mem_cons_of_mem _ hother)
  | cons_cons b h ih =>
    obtain ⟨hnew, hnodup⟩ := List.nodup_cons.1 hnodup
    rw [List.flatMap_cons, List.flatMap_cons, ih hnodup fun other hother hmem => ?_]
    refine hrest other (List.mem_cons_of_mem _ hother) fun hmem' => ?_
    rcases List.mem_cons.1 hmem' with hsame | hmem'
    · exact hnew (hsame ▸ List.mem_map_of_mem hother)
    · exact hmem hmem'

/-! ## Rows -/

namespace Memory

variable {ρ : Type} {layout : Sql.Layout ρ}

theorem Tables.rows_add (tables : Tables) (name : String) (entries : List Entry) :
    (tables.add name entries name).rows =
      (tables name).rows ++ numbered (tables name).lastId entries := by
  rw [Tables.add, if_pos rfl]
  rfl

theorem Tables.add_of_ne (tables : Tables) {name other : String} (h : other ≠ name)
    (entries : List Entry) : tables.add name entries other = tables other :=
  if_neg h

/-- Rows stand beside the ids that they were given. -/
theorem forall₂_ids (hshape : layout.WellShaped) (records : List ρ) (lastId : Nat) :
    List.Forall₂ (fun id row => row.lookup "id" = some (.bigint id))
      (idsAfter lastId records.length) (numbered lastId (layout.entries records)) := by
  refine List.forall₂_iff_get.2 ⟨by simp [Sql.Layout.entries], fun i hi hrow => ?_⟩
  simp [numbered, Sql.Layout.entries, idsAfter, lookup_id_row hshape.withoutId]

/-- New rows stand beside the records whose cells they have. -/
theorem forall₂_hasCells {table : String} {cells : ρ → List (String × Sql.Value)}
    (h : layout.Writes table cells) (records : List ρ) (lastId : Nat) :
    List.Forall₂ (fun record => HasCells (cells record)) records
      (numbered lastId (layout.entries records)) :=
  (forall₂_numbered layout records lastId).imp fun _ _ => h.hasCells

/-- Some row has the cells of a record exactly if it is among the records. -/
theorem exists_hasCells_iff {cells : ρ → List (String × Sql.Value)}
    (hinjective : ∀ {record other}, cells record = cells other → record = other)
    {records : List ρ} {rows : List Row}
    (h : List.Forall₂ (fun record => HasCells (cells record)) records rows) {record : ρ} :
    (∃ row ∈ rows, HasCells (cells record) row) ↔ record ∈ records := by
  constructor
  · rintro ⟨row, hrow, hcells⟩
    obtain ⟨other, hother, hcells'⟩ := exists_of_forall₂ h.flip hrow
    rwa [hinjective (hcells.cells_eq hcells')]
  · exact exists_of_forall₂ h

end Memory

namespace Import

open Memory (Row idsAfter numbered)

variable {ids : IdMap}

/-! ## Names of new rows -/

namespace IdMap

/-- The map leads from the document to the row. -/
def LeadsTo (ids : IdMap) (entity : Entity) (name : LegacyId) (row : Row) : Prop :=
  ∃ id, row.lookup "id" = some (.bigint id) ∧ ids.get? entity name = some id

theorem entries_named (ids : IdMap) (entity : Entity) (names : List LegacyId) (lastId : Nat) :
    (ids.named entity names lastId).entries =
      ids.entries ++ (names.map fun name => (entity, name)).zip (idsAfter lastId names.length) := by
  rw [List.zip_map_left]
  rfl

/-- Naming rows of one kind changes nothing for another kind. -/
theorem get?_named_of_ne {entity other : Entity} (h : other ≠ entity) (names : List LegacyId)
    (lastId : Nat) (id : LegacyId) :
    (ids.named entity names lastId).get? other id = ids.get? other id := by
  have hnone : ((names.map fun name => (entity, name)).zip (idsAfter lastId names.length)).lookup
      (other, id) = none := by
    refine List.lookup_eq_none_iff.2 fun pair hpair => ?_
    obtain ⟨name, -, hname⟩ := List.mem_map.1 (List.of_mem_zip hpair).1
    simp [← hname, h]
  rw [get?, entries_named, List.lookup_append, hnone, Option.or_none]
  rfl

/-- The map with the rows of some documents leads from each of them to its row. -/
theorem get?_named_iff {entity : Entity} {names : List LegacyId} (h : ids.Fresh entity names)
    (lastId : Nat) (id : LegacyId) (row : Int) :
    (ids.named entity names lastId).get? entity id = some row ↔
      ids.get? entity id = some row ∨
        ∃ i, names[i]? = some id ∧ row = ((lastId + i + 1 : Nat) : Int) := by
  have hkeys : (((names.map fun name => (entity, name)).zip
      (idsAfter lastId names.length)).map Prod.fst).Nodup := by
    rw [List.map_fst_zip (by simp)]
    exact h.nodup.map fun name name' hname => (Prod.mk.inj hname).2
  have hmem : ((entity, id), row) ∈ (names.map fun name => (entity, name)).zip
      (idsAfter lastId names.length) ↔
      ∃ i, names[i]? = some id ∧ row = ((lastId + i + 1 : Nat) : Int) := by
    rw [List.mem_iff_getElem?]
    refine exists_congr fun i => ?_
    rw [List.getElem?_zip_eq_some, List.getElem?_map]
    constructor
    · rintro ⟨hname, hrow⟩
      obtain ⟨name, hname, hpair⟩ := Option.map_eq_some_iff.1 hname
      cases hpair
      exact ⟨hname, Memory.eq_of_getElem?_idsAfter hrow⟩
    · rintro ⟨hname, rfl⟩
      obtain ⟨hlt, -⟩ := List.getElem?_eq_some_iff.1 hname
      exact ⟨by rw [hname]; rfl, by simp [idsAfter, hlt]⟩
  rw [get?, entries_named, List.lookup_append, Option.or_eq_some_iff, lookup_eq_some_iff_mem hkeys,
    hmem]
  refine or_congr_right (and_iff_right_of_imp ?_)
  rintro ⟨i, hi, -⟩
  exact h.unregistered id (List.mem_of_getElem? hi)

variable {α : Type} {name : α → LegacyId} {docs : List α} {entity : Entity}

/-- Documents that are named for new rows lead to the ids at their places. -/
theorem forall₂_named (hfresh : ids.Fresh entity (docs.map name)) (lastId : Nat) :
    List.Forall₂ (fun doc id =>
        (ids.named entity (docs.map name) lastId).get? entity (name doc) = some id)
      docs (idsAfter lastId docs.length) := by
  refine List.forall₂_iff_get.2 ⟨by simp, fun i hi hid => ?_⟩
  refine (get?_named_iff hfresh lastId _ _).2 (Or.inr ⟨i, ?_, ?_⟩)
  · simp [hi]
  · simp [idsAfter]

/-- Documents that are named for new rows do not share one. -/
theorem named_injective {names : List LegacyId} (hfresh : ids.Fresh entity names) {lastId : Nat}
    {name name' : LegacyId} (hname : name ∈ names) (hname' : name' ∈ names) {id : Int}
    (h : (ids.named entity names lastId).get? entity name = some id)
    (h' : (ids.named entity names lastId).get? entity name' = some id) : name = name' := by
  have hplace : ∀ {name}, name ∈ names →
      (ids.named entity names lastId).get? entity name = some id →
      ∃ i, names[i]? = some name ∧ id = ((lastId + i + 1 : Nat) : Int) := by
    intro name hname hget
    refine ((get?_named_iff hfresh lastId _ _).1 hget).resolve_left fun hold => ?_
    cases hold.symm.trans (hfresh.unregistered name hname)
  obtain ⟨i, hi, rfl⟩ := hplace hname h
  obtain ⟨j, hj, hid⟩ := hplace hname' h'
  obtain rfl : i = j := by omega
  exact Option.some.inj (hi.symm.trans hj)

/-- Documents that are named for new rows lead to the rows at their places. -/
theorem forall₂_leadsTo {ρ : Type} {layout : Sql.Layout ρ} (hshape : layout.WellShaped)
    (hfresh : ids.Fresh entity (docs.map name)) {records : List ρ}
    (hlength : records.length = docs.length) (lastId : Nat) :
    List.Forall₂ (fun doc row =>
        (ids.named entity (docs.map name) lastId).LeadsTo entity (name doc) row)
      docs (numbered lastId (layout.entries records)) := by
  have hids := Memory.forall₂_ids hshape records lastId
  rw [hlength] at hids
  exact (forall₂_comp (forall₂_named hfresh lastId) hids).imp
    fun _ _ ⟨id, hdoc, hrow⟩ => ⟨id, hrow, hdoc⟩

end IdMap

end Import

end Registrar
