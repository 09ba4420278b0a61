import Mathlib.Data.List.Perm.Basic
import Telemetry.Proofs.Backlog

/-!
Contract: the consecutive parts of a list, and reading them one by one.

Owns:
- `chunks`, the parts of one size, of which only the last may be shorter;
- `Cut`, what remains true of the parts when some are taken away: the first
  events that are left are the first part that is left;
- what is left of stored events when the parts in hand are skipped, or one part
  is deleted.

Does not own: who reads and who deletes.
-/

namespace Telemetry

section Parts

variable {α : Type} {size : Nat}

/-- The consecutive parts of a list. Part `index` begins at the item `index * size`. -/
def chunks (size : Nat) (items : List α) : List (List α) :=
  (List.range ((items.length + size - 1) / size)).map fun index =>
    (items.drop (index * size)).take size

theorem length_chunks (size : Nat) (items : List α) :
    (chunks size items).length = (items.length + size - 1) / size := by
  simp [chunks]

theorem flatten_chunks (positive : 0 < size) (items : List α) :
    (chunks size items).flatten = items := by
  have taken (count : Nat) : ((List.range count).map fun index =>
      (items.drop (index * size)).take size).flatten = items.take (count * size) := by
    induction count with
    | zero => simp
    | succ count inductionHypothesis =>
        rw [List.range_succ, List.map_append, List.flatten_append, inductionHypothesis,
          Nat.succ_mul, List.take_add]
        simp
  have enough : items.length ≤ (items.length + size - 1) / size * size := by
    have division := Nat.div_add_mod (items.length + size - 1) size
    have remainder := Nat.mod_lt (items.length + size - 1) positive
    rw [Nat.mul_comm] at division
    omega
  rw [chunks, taken, List.take_of_length_le enough]

/-- Every part but the last is full, and none is empty. -/
structure Cut (size : Nat) (parts : List (List α)) : Prop where
  full : parts.Pairwise fun earlier _ => earlier.length = size
  sizes : ∀ part ∈ parts, part ≠ [] ∧ part.length ≤ size

theorem chunks_cut (positive : 0 < size) (items : List α) : Cut size (chunks size items) := by
  have starts_inside {index : Nat} (member : index < (items.length + size - 1) / size) :
      index * size < items.length := by
    have bound := (Nat.lt_div_iff_mul_lt positive).mp member
    omega
  constructor
  · rw [chunks, List.pairwise_map]
    refine List.Pairwise.imp_of_mem ?_ List.pairwise_lt_range
    intro earlier later _ laterMember before
    have inside := starts_inside (List.mem_range.mp laterMember)
    have room : (earlier + 1) * size ≤ later * size := Nat.mul_le_mul_right size before
    rw [Nat.succ_mul] at room
    rw [List.length_take, List.length_drop]
    omega
  · intro part member
    obtain ⟨index, indexMember, rfl⟩ := List.mem_map.mp member
    have inside := starts_inside (List.mem_range.mp indexMember)
    refine ⟨?_, List.length_take_le _ _⟩
    rw [← List.length_pos_iff, List.length_take, List.length_drop]
    omega

namespace Cut

variable {parts fewer : List (List α)} {part : List α}

theorem sublist (cut : Cut size parts) (less : fewer.Sublist parts) : Cut size fewer where
  full := cut.full.sublist less
  sizes part member := cut.sizes part (less.subset member)

/-- The first part is what the first items are. -/
theorem take_flatten (cut : Cut size (part :: parts)) :
    (part :: parts).flatten.take size = part := by
  have short := (cut.sizes part List.mem_cons_self).2
  cases parts with
  | nil => rw [List.flatten_singleton, List.take_of_length_le short]
  | cons next parts =>
      have full := (List.pairwise_cons.mp cut.full).1 next List.mem_cons_self
      rw [List.flatten_cons, List.take_left' full]

theorem flatten_eq_nil_iff (cut : Cut size parts) : parts.flatten = [] ↔ parts = [] := by
  constructor
  · intro nothing
    cases parts with
    | nil => rfl
    | cons part parts =>
        rw [List.flatten_cons, List.append_eq_nil_iff] at nothing
        exact absurd nothing.1 (cut.sizes part List.mem_cons_self).1
  · rintro rfl
    rfl

end Cut

end Parts

/-! ### Stored parts -/

section Stored

/-- What is left of distinct events when those of a stretch are skipped. -/
theorem filter_stretch (left : List Event) {middle right : List Event}
    (distinct : ((left ++ middle ++ right).map Event.id).Nodup)
    {ids : List String} (marks : ∀ id, id ∈ ids ↔ id ∈ middle.map Event.id) :
    (left ++ middle ++ right).filter (fun event => event.id ∉ ids) = left ++ right := by
  simp only [List.map_append, List.nodup_append, List.mem_append] at distinct
  obtain ⟨⟨-, -, leftApart⟩, -, rightApart⟩ := distinct
  have keepLeft : left.filter (fun event => event.id ∉ ids) = left := by
    rw [List.filter_eq_self]
    intro event member
    rw [decide_eq_true_eq, marks]
    exact fun inMiddle => leftApart _ (List.mem_map_of_mem member) _ inMiddle rfl
  have dropMiddle : middle.filter (fun event => event.id ∉ ids) = [] := by
    rw [List.filter_eq_nil_iff]
    intro event member
    simpa [marks] using ⟨event, member, rfl⟩
  have keepRight : right.filter (fun event => event.id ∉ ids) = right := by
    rw [List.filter_eq_self]
    intro event member
    rw [decide_eq_true_eq, marks]
    exact fun inMiddle => rightApart _ (.inr inMiddle) _ (List.mem_map_of_mem member) rfl
  rw [List.filter_append, List.filter_append, keepLeft, dropMiddle, keepRight, List.append_nil]

variable {parts : List (List Event)}

theorem nodup_of_distinct (cut : ∀ part ∈ parts, part ≠ [])
    (distinct : (parts.flatten.map Event.id).Nodup) : parts.Nodup := by
  have apart := (List.nodup_flatten.mp (List.Nodup.of_map _ distinct)).2
  refine apart.imp_of_mem ?_
  rintro first second firstMember - disjoint rfl
  obtain ⟨event, member⟩ := List.exists_mem_of_ne_nil first (cut first firstMember)
  exact disjoint member member

/-- Deleting one part leaves the others. -/
theorem filter_part {part : List Event} (member : part ∈ parts)
    (distinct : (parts.flatten.map Event.id).Nodup) :
    parts.flatten.filter (fun event => event.id ∉ part.map Event.id) =
      (parts.erase part).flatten := by
  obtain ⟨front, back, -, rfl, erased⟩ := List.exists_erase_eq member
  rw [erased]
  simp only [List.flatten_append, List.flatten_cons] at distinct ⊢
  rw [← List.append_assoc] at distinct ⊢
  exact filter_stretch _ distinct fun _ => Iff.rfl

end Stored

end Telemetry
