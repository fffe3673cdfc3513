import Registrar.Time.Instant
/-!
# The order of instants

Any two instants can be compared, so among some instants there is a first and a last one.
-/
namespace Registrar.Time.Instant

/-- One instant comes no later than another: in an earlier second, or no later within the same. -/
def NoLater (a b : Instant) : Prop :=
  a.seconds < b.seconds ∨ (a.seconds = b.seconds ∧ a.nanos ≤ b.nanos)

theorem le_iff {a b : Instant} : a.le b = true ↔ a.NoLater b := by
  simp [le, NoLater]

theorem le_refl (a : Instant) : a.le a = true := le_iff.2 (Or.inr ⟨rfl, Nat.le_refl _⟩)

theorem le_trans {a b c : Instant} (h : a.le b = true) (h' : b.le c = true) : a.le c = true := by
  simp only [le_iff, NoLater] at *
  omega

theorem le_of_not_le {a b : Instant} (h : ¬a.le b = true) : b.le a = true := by
  simp only [le_iff, NoLater] at *
  omega

theorem earliest?_eq_none_iff {dates : List Instant} : earliest? dates = none ↔ dates = [] := by
  cases dates with
  | nil => simp [earliest?]
  | cons date rest =>
    rw [earliest?]
    split <;> simp

theorem latest?_eq_none_iff {dates : List Instant} : latest? dates = none ↔ dates = [] := by
  cases dates with
  | nil => simp [latest?]
  | cons date rest =>
    rw [latest?]
    split <;> simp

/-- The earliest of some instants is one of them and no later than any. -/
theorem earliest?_spec {dates : List Instant} {first : Instant} (h : earliest? dates = some first) :
    first ∈ dates ∧ ∀ date ∈ dates, first.NoLater date := by
  simp only [← le_iff]
  induction dates generalizing first with
  | nil => cases h
  | cons date rest ih =>
    rw [earliest?] at h
    split at h
    · rename_i hnone
      cases h
      obtain rfl := earliest?_eq_none_iff.1 hnone
      simp [le_refl]
    · rename_i other hother
      obtain ⟨hmem, hleast⟩ := ih hother
      cases h
      split
      · rename_i hle
        refine ⟨List.mem_cons_self, List.forall_mem_cons.2 ⟨le_refl _, fun later hlater => ?_⟩⟩
        exact le_trans hle (hleast later hlater)
      · rename_i hle
        exact ⟨List.mem_cons_of_mem _ hmem, List.forall_mem_cons.2 ⟨le_of_not_le hle, hleast⟩⟩

/-- The latest of some instants is one of them and no earlier than any. -/
theorem latest?_spec {dates : List Instant} {last : Instant} (h : latest? dates = some last) :
    last ∈ dates ∧ ∀ date ∈ dates, date.NoLater last := by
  simp only [← le_iff]
  induction dates generalizing last with
  | nil => cases h
  | cons date rest ih =>
    rw [latest?] at h
    split at h
    · rename_i hnone
      cases h
      obtain rfl := latest?_eq_none_iff.1 hnone
      simp [le_refl]
    · rename_i other hother
      obtain ⟨hmem, hgreatest⟩ := ih hother
      cases h
      split
      · rename_i hle
        refine ⟨List.mem_cons_self, List.forall_mem_cons.2 ⟨le_refl _, fun earlier hearlier => ?_⟩⟩
        exact le_trans (hgreatest earlier hearlier) hle
      · rename_i hle
        exact ⟨List.mem_cons_of_mem _ hmem, List.forall_mem_cons.2 ⟨le_of_not_le hle, hgreatest⟩⟩

end Registrar.Time.Instant
