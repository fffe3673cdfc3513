import Mathlib.Data.List.Nodup
import Registrar.Proofs.Import.Deduplication
/-!
# The first of a kind

Some stages take of several items that say the same thing only the first, and some items do not
count at all. `Firsts` says which ones they take and in which order, with no regard to how; taking
them one by one is `addFirst`, and `firsts_foldl` is what a whole list comes to.
-/
namespace Registrar.Import

variable {α κ : Type} {counts : α → Prop} {key : α → κ} {items chosen : List α}

/-- No item that counts has the key. -/
def Lacks (counts : α → Prop) (key : α → κ) (items : List α) (k : κ) : Prop :=
  ∀ item ∈ items, counts item → key item ≠ k

/-- The items that count and come before every other that counts and has the same key, in order. -/
structure Firsts (counts : α → Prop) (key : α → κ) (items chosen : List α) : Prop where
  mem_iff : ∀ item, item ∈ chosen ↔
    counts item ∧ ∃ before, before ++ [item] <+: items ∧ Lacks counts key before (key item)
  nodup : (chosen.map key).Nodup
  /-- Of two chosen items the one that comes first in `items` comes first. -/
  order : chosen.Pairwise fun item later =>
    ∃ before, before ++ [item] <+: items ∧ Lacks counts key before (key later)

/-- Where there is an item with a property, there is a first one. -/
theorem exists_first {P : α → Prop} (h : ∃ item ∈ items, P item) :
    ∃ before item, before ++ [item] <+: items ∧ P item ∧ ∀ other ∈ before, ¬P other := by
  classical
  obtain ⟨item, hitem, hP⟩ := h
  have hfound : (items.find? fun item => decide (P item)).isSome :=
    List.find?_isSome.2 ⟨item, hitem, decide_eq_true hP⟩
  obtain ⟨first, hfirst⟩ := Option.isSome_iff_exists.1 hfound
  obtain ⟨hP, before, after, rfl, hbefore⟩ := List.find?_eq_some_iff_append.1 hfirst
  refine ⟨before, first, ⟨after, by simp⟩, of_decide_eq_true hP, fun other hother => ?_⟩
  simpa using hbefore other hother

theorem mem_of_starts {item : α} {before : List α} (h : before ++ [item] <+: items) :
    item ∈ items :=
  h.subset (List.mem_append_right _ List.mem_cons_self)

/-- What stands behind `before` is the last item or stood there already. -/
theorem starts_concat_iff {new item : α} {before : List α} :
    before ++ [item] <+: items ++ [new] ↔
      (before = items ∧ item = new) ∨ before ++ [item] <+: items := by
  rw [List.prefix_concat_iff, ← List.concat_eq_append, ← List.concat_eq_append, List.concat_inj]

namespace Firsts

theorem nil : Firsts counts key [] [] := ⟨by simp, List.nodup_nil, List.Pairwise.nil⟩

/-- The chosen items have every key that an item has which counts. -/
theorem notMem_keys_iff (h : Firsts counts key items chosen) {k : κ} :
    k ∉ chosen.map key ↔ Lacks counts key items k := by
  constructor
  · intro hk item hitem hcounts hkey
    obtain ⟨before, first, hstarts, ⟨hfirst, rfl⟩, hbefore⟩ :=
      exists_first (P := fun item => counts item ∧ key item = k) ⟨item, hitem, hcounts, hkey⟩
    refine hk (List.mem_map_of_mem ((h.mem_iff first).2 ⟨hfirst, before, hstarts, ?_⟩))
    exact fun other hother hcounts hkey => hbefore other hother ⟨hcounts, hkey⟩
  · intro hlacks hk
    obtain ⟨item, hitem, rfl⟩ := List.mem_map.1 hk
    obtain ⟨hcounts, before, hstarts, -⟩ := (h.mem_iff item).1 hitem
    exact hlacks item (mem_of_starts hstarts) hcounts rfl

theorem mem_keys_iff (h : Firsts counts key items chosen) {k : κ} :
    k ∈ chosen.map key ↔ ∃ item ∈ items, counts item ∧ key item = k := by
  rw [← not_iff_not, h.notMem_keys_iff]
  simp [Lacks]

/-- One more item that is not the first of its kind changes nothing. -/
theorem skip (h : Firsts counts key items chosen) {new : α}
    (hnew : ¬(counts new ∧ Lacks counts key items (key new))) :
    Firsts counts key (items ++ [new]) chosen where
  mem_iff item := by
    rw [h.mem_iff]
    refine and_congr_right fun hcounts => exists_congr fun before => ?_
    rw [starts_concat_iff]
    refine and_congr_left fun hbefore => ⟨Or.inr, fun hstarts => hstarts.resolve_left ?_⟩
    rintro ⟨rfl, rfl⟩
    exact hnew ⟨hcounts, hbefore⟩
  nodup := h.nodup
  order := h.order.imp fun ⟨before, hstarts, hbefore⟩ =>
    ⟨before, starts_concat_iff.2 (Or.inr hstarts), hbefore⟩

/-- One more item that is the first of its kind comes last. -/
theorem add (h : Firsts counts key items chosen) {new : α} (hcounts : counts new)
    (hnew : Lacks counts key items (key new)) :
    Firsts counts key (items ++ [new]) (chosen ++ [new]) where
  mem_iff item := by
    rw [List.mem_append, h.mem_iff, List.mem_singleton]
    constructor
    · rintro (⟨hitem, before, hstarts, hbefore⟩ | rfl)
      · exact ⟨hitem, before, starts_concat_iff.2 (Or.inr hstarts), hbefore⟩
      · exact ⟨hcounts, items, List.prefix_rfl, hnew⟩
    · rintro ⟨hitem, before, hstarts, hbefore⟩
      rcases starts_concat_iff.1 hstarts with ⟨rfl, rfl⟩ | hstarts
      · exact Or.inr rfl
      · exact Or.inl ⟨hitem, before, hstarts, hbefore⟩
  nodup := by
    rw [List.map_append]
    exact nodup_concat h.nodup (h.notMem_keys_iff.2 hnew)
  order := by
    refine List.pairwise_append.2 ⟨?_, List.pairwise_singleton _ _, ?_⟩
    · exact h.order.imp fun ⟨before, hstarts, hbefore⟩ =>
        ⟨before, starts_concat_iff.2 (Or.inr hstarts), hbefore⟩
    · intro item hitem later hlater
      obtain rfl := List.mem_singleton.1 hlater
      obtain ⟨-, before, hstarts, -⟩ := (h.mem_iff item).1 hitem
      refine ⟨before, starts_concat_iff.2 (Or.inr hstarts), fun other hother => hnew other ?_⟩
      exact hstarts.subset (List.mem_append_left _ hother)

end Firsts

/-! ## Taking them one by one -/

variable [DecidablePred counts] [DecidableEq κ]

/-- The chosen items with one more, if it counts and its key is new. -/
def addFirst (counts : α → Prop) [DecidablePred counts] (key : α → κ) (chosen : List α) (new : α) :
    List α :=
  if counts new ∧ key new ∉ chosen.map key then chosen ++ [new] else chosen

/-- What leaves out every item that does not count or has a key again is `addFirst`. -/
theorem ite_eq_addFirst {p : Prop} [Decidable p] {new : α}
    (h : p ↔ ¬(counts new ∧ key new ∉ chosen.map key)) :
    (if p then chosen else chosen ++ [new]) = addFirst counts key chosen new := by
  unfold addFirst
  by_cases hp : p
  · rw [if_pos hp, if_neg (h.1 hp)]
  · rw [if_neg hp, if_pos (not_not.1 (mt h.2 hp))]

theorem Firsts.step (h : Firsts counts key items chosen) (new : α) :
    Firsts counts key (items ++ [new]) (addFirst counts key chosen new) := by
  unfold addFirst
  split
  · rename_i hnew
    exact h.add hnew.1 (h.notMem_keys_iff.1 hnew.2)
  · rename_i hold
    exact h.skip fun hnew => hold ⟨hnew.1, h.notMem_keys_iff.2 hnew.2⟩

theorem Firsts.run (h : Firsts counts key items chosen) (news : List α) :
    Firsts counts key (items ++ news) (news.foldl (addFirst counts key) chosen) := by
  induction news generalizing items chosen with
  | nil => simpa using h
  | cons new rest ih => simpa using ih (h.step new)

theorem addFirst_sublist (counts : α → Prop) [DecidablePred counts] (key : α → κ) (chosen : List α)
    (new : α) :
    (addFirst counts key chosen new).Sublist (chosen ++ [new]) := by
  unfold addFirst
  split
  · exact List.Sublist.refl _
  · exact List.sublist_append_left _ _

/-- Nothing changes its place. -/
theorem foldl_addFirst_sublist (chosen items : List α) :
    (items.foldl (addFirst counts key) chosen).Sublist (chosen ++ items) := by
  induction items generalizing chosen with
  | nil => simp
  | cons new rest ih =>
    have hstep := (addFirst_sublist counts key chosen new).append_right rest
    rw [List.append_assoc, List.singleton_append] at hstep
    exact (ih _).trans hstep

/-- **Taken one by one**, the items that are left are the first of their kind. -/
theorem firsts_foldl (counts : α → Prop) [DecidablePred counts] (key : α → κ) (items : List α) :
    Firsts counts key items (items.foldl (addFirst counts key) []) := by
  simpa using Firsts.nil.run items

end Registrar.Import
