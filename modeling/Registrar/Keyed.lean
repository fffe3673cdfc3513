/-!
# Lists of pairs, looked up by key

A value is found under the first pair with its key. `put` replaces that pair, or adds one at the
end, so keys that are distinct stay distinct.
-/
namespace Registrar

theorem lookup_eq_some_iff_mem {κ α : Type} [BEq κ] [LawfulBEq κ] {pairs : List (κ × α)}
    (h : (pairs.map Prod.fst).Nodup) {key : κ} {value : α} :
    pairs.lookup key = some value ↔ (key, value) ∈ pairs := by
  rw [List.lookup_eq_some_iff]
  constructor
  · rintro ⟨before, after, rfl, -⟩
    simp
  · intro hmem
    obtain ⟨before, after, rfl⟩ := List.append_of_mem hmem
    refine ⟨before, after, rfl, fun pair hpair => bne_iff_ne.2 ?_⟩
    rintro rfl
    rw [List.map_append, List.nodup_append] at h
    exact h.2.2 pair.1 (List.mem_map_of_mem hpair) pair.1 List.mem_cons_self rfl

theorem mem_of_lookup_eq_some {κ α : Type} [BEq κ] [LawfulBEq κ] {pairs : List (κ × α)} {key : κ}
    {value : α} (h : pairs.lookup key = some value) : (key, value) ∈ pairs := by
  obtain ⟨before, after, rfl, -⟩ := List.lookup_eq_some_iff.1 h
  simp

theorem lookup_eq_none_of_notMem {κ α : Type} [BEq κ] [LawfulBEq κ] {pairs : List (κ × α)} {key : κ}
    (h : key ∉ pairs.map Prod.fst) : pairs.lookup key = none :=
  List.lookup_eq_none_iff.2 fun pair hpair =>
    bne_iff_ne.2 fun heq => h (List.mem_map.2 ⟨pair, hpair, heq.symm⟩)

namespace Keyed

variable {κ α : Type} [DecidableEq κ]

/-- The pairs with `value` under `key`. -/
def put (key : κ) (value : α) : List (κ × α) → List (κ × α)
  | [] => [(key, value)]
  | (k, v) :: rest => if k = key then (key, value) :: rest else (k, v) :: put key value rest

/-- The pairs with `value` under `key`, unless there is a value under it already. -/
def putNew (key : κ) (value : α) (pairs : List (κ × α)) : List (κ × α) :=
  if (pairs.lookup key).isSome then pairs else pairs ++ [(key, value)]

theorem lookup_put (key other : κ) (value : α) (pairs : List (κ × α)) :
    (put key value pairs).lookup other = if other = key then some value else pairs.lookup other := by
  induction pairs with
  | nil => by_cases h : other = key <;> simp [put, List.lookup_cons, h, beq_false_of_ne]
  | cons pair rest ih =>
    obtain ⟨k, v⟩ := pair
    by_cases hk : k = key
    · subst hk
      by_cases h : other = k <;> simp [put, List.lookup_cons, h, beq_false_of_ne]
    · by_cases h : other = k
      · subst h
        simp [put, hk]
      · simp [put, hk, List.lookup_cons, h, beq_false_of_ne, ih]

theorem put_of_notMem {key : κ} (value : α) {pairs : List (κ × α)}
    (h : key ∉ pairs.map Prod.fst) : put key value pairs = pairs ++ [(key, value)] := by
  induction pairs with
  | nil => rfl
  | cons pair rest ih =>
    simp only [List.map_cons, List.mem_cons, not_or] at h
    rw [put, if_neg (Ne.symm h.1), ih h.2, List.cons_append]

/-- Pairs with keys of their own come one behind the other. -/
theorem foldl_put_of_nodup (cells : List (κ × α)) {pairs : List (κ × α)}
    (h : ((pairs ++ cells).map Prod.fst).Nodup) :
    cells.foldl (fun row cell => put cell.1 cell.2 row) pairs = pairs ++ cells := by
  induction cells generalizing pairs with
  | nil => simp
  | cons cell rest ih =>
    have hcell : cell.1 ∉ pairs.map Prod.fst := fun hmem => by
      rw [List.map_append, List.nodup_append] at h
      exact h.2.2 _ hmem _ (List.mem_map_of_mem List.mem_cons_self) rfl
    have hrest : ((pairs ++ [(cell.1, cell.2)] ++ rest).map Prod.fst).Nodup := by
      rwa [List.append_assoc]
    rw [List.foldl_cons, put_of_notMem cell.2 hcell, ih hrest, List.append_assoc,
      List.singleton_append]

theorem mem_keys_put (key other : κ) (value : α) (pairs : List (κ × α)) :
    other ∈ (put key value pairs).map Prod.fst ↔ other = key ∨ other ∈ pairs.map Prod.fst := by
  induction pairs with
  | nil => simp [put]
  | cons pair rest ih =>
    obtain ⟨k, v⟩ := pair
    by_cases hk : k = key
    · subst hk
      simp [put]
    · simp only [put, hk, if_false, List.map_cons, List.mem_cons, ih]
      exact or_left_comm

theorem mem_keys_putNew (key other : κ) (value : α) (pairs : List (κ × α)) :
    other ∈ (putNew key value pairs).map Prod.fst ↔ other = key ∨ other ∈ pairs.map Prod.fst := by
  unfold putNew
  split
  · rename_i hsome
    obtain ⟨pair, hpair, hkey⟩ := List.lookup_isSome_iff.1 hsome
    constructor
    · exact Or.inr
    · rintro (rfl | h)
      · exact List.mem_map.2 ⟨pair, hpair, (eq_of_beq hkey).symm⟩
      · exact h
  · simp [or_comm]

theorem mem_putNew {key : κ} {value : α} {pairs : List (κ × α)} {pair : κ × α}
    (h : pair ∈ putNew key value pairs) :
    pair ∈ pairs ∨ (pair = (key, value) ∧ key ∉ pairs.map Prod.fst) := by
  unfold putNew at h
  split at h
  · exact Or.inl h
  · rename_i hnone
    rcases List.mem_append.1 h with h | h
    · exact Or.inl h
    · refine Or.inr ⟨by simpa using h, fun hmem => hnone ?_⟩
      obtain ⟨other, hother, rfl⟩ := List.mem_map.1 hmem
      exact List.lookup_isSome_iff.2 ⟨other, hother, by simp⟩

theorem putNew_of_notMem {key : κ} (value : α) {pairs : List (κ × α)}
    (h : key ∉ pairs.map Prod.fst) : putNew key value pairs = pairs ++ [(key, value)] := by
  simp [putNew, lookup_eq_none_of_notMem h]

theorem lookup_putNew {key : κ} {pairs : List (κ × α)} (h : key ∉ pairs.map Prod.fst)
    (value : α) : (putNew key value pairs).lookup key = some value := by
  simp [putNew_of_notMem value h, lookup_eq_none_of_notMem h, List.lookup_append]

theorem lookup_putNew_of_some {other : κ} {value : α} {pairs : List (κ × α)}
    (h : pairs.lookup other = some value) (key : κ) (new : α) :
    (putNew key new pairs).lookup other = some value := by
  unfold putNew
  split
  · exact h
  · rw [List.lookup_append, h]
    rfl

end Keyed

end Registrar
