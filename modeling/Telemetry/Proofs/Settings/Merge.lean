import Telemetry.Settings.Layer

/-!
Contract: what putting a value does to a table.

Owns:
- looking an entry up after one has been put;
- `SettingValue.edit`, the change of one entry of a table;
- putting under a key and at a path as such changes;
- the paths of the defaults.

A path may lead through an array. Only the steps to keys are changes of a table;
a step to a position is left as it is.
-/

namespace Telemetry

theorem lookup_cons_eq_ite {α : Type} (key other : String) (value : α)
    (entries : List (String × α)) :
    ((key, value) :: entries).lookup other =
      if other = key then some value else entries.lookup other := by
  by_cases same : other = key
  · rw [if_pos same, same, List.lookup_cons_self]
  · rw [if_neg same, List.lookup_cons, beq_eq_false_iff_ne.mpr same]

theorem lookup_putEntry {α : Type} (key other : String) (value : α) (entries : List (String × α)) :
    (putEntry key value entries).lookup other =
      if other = key then some value else entries.lookup other := by
  induction entries with
  | nil => exact lookup_cons_eq_ite key other value []
  | cons entry rest inductionHypothesis =>
      obtain ⟨existing, stored⟩ := entry
      by_cases replaced : existing = key
      · rw [putEntry, if_pos replaced, lookup_cons_eq_ite, lookup_cons_eq_ite, replaced]
        split
        · rfl
        · rfl
      · rw [putEntry, if_neg replaced, lookup_cons_eq_ite, lookup_cons_eq_ite, inductionHypothesis]
        by_cases found : other = existing
        · rw [if_pos found, if_neg (found ▸ replaced), if_pos found]
        · rw [if_neg found, if_neg found]

theorem putEntry_keys {α : Type} (key : String) (value : α) (entries : List (String × α)) :
    (putEntry key value entries).map Prod.fst =
      if key ∈ entries.map Prod.fst then entries.map Prod.fst
      else entries.map Prod.fst ++ [key] := by
  induction entries with
  | nil => rfl
  | cons entry rest inductionHypothesis =>
      obtain ⟨existing, stored⟩ := entry
      by_cases replaced : existing = key
      · rw [putEntry, if_pos replaced, List.map_cons, List.map_cons, replaced,
          if_pos List.mem_cons_self]
      · rw [putEntry, if_neg replaced, List.map_cons, List.map_cons, inductionHypothesis]
        by_cases later : key ∈ rest.map Prod.fst
        · rw [if_pos later, if_pos (List.mem_cons_of_mem _ later)]
        · have absent : key ∉ existing :: rest.map Prod.fst :=
            List.not_mem_cons_of_ne_of_not_mem (Ne.symm replaced) later
          rw [if_neg later, if_neg absent, List.cons_append]

theorem putEntry_keys_nodup {α : Type} (key : String) (value : α) {entries : List (String × α)}
    (distinct : (entries.map Prod.fst).Nodup) :
    ((putEntry key value entries).map Prod.fst).Nodup := by
  rw [putEntry_keys]
  by_cases there : key ∈ entries.map Prod.fst
  · rw [if_pos there]
    exact distinct
  · rw [if_neg there]
    refine List.nodup_append.mpr ⟨distinct, List.pairwise_singleton _ key, ?_⟩
    rintro other member added single rfl
    exact there (List.mem_singleton.mp single ▸ member)

namespace SettingValue

/-- Change the entry of a key, which need not be there. What is no table becomes one first. -/
def edit (key : String) (change : Option SettingValue → SettingValue) (root : SettingValue) :
    SettingValue :=
  .table (putEntry key (change (root.entries.lookup key)) root.entries)

theorem entries_edit (key : String) (change : Option SettingValue → SettingValue)
    (root : SettingValue) :
    (root.edit key change).entries = putEntry key (change (root.entries.lookup key)) root.entries :=
  rfl

/-- A value laid on another one, if there is one. -/
def laidOn (value : SettingValue) (below : Option SettingValue) : SettingValue :=
  match value with
  | .table incoming => put.putAll incoming (below.getD (.table []))
  | value => value

theorem put_eq (key : String) (value root : SettingValue) :
    put key value root = root.edit (Text.lowercase key) value.laidOn := by
  cases value <;> simp only [put, edit, laidOn]

end SettingValue

namespace SettingPath

/-- What is stored under a key when `steps` lead on from there to the value. -/
def stored (value : SettingValue) (steps : List PathStep) (below : Option SettingValue) :
    SettingValue :=
  match steps with
  | [] => value.laidOn below
  | steps => putBelow value steps (below.getD .nil)

theorem putBelow_child (value : SettingValue) (key : String) (steps : List PathStep)
    (parent : SettingValue) :
    putBelow value (.child key :: steps) parent =
      parent.edit (Text.lowercase key) (stored value steps) := by
  cases steps with
  | nil => exact SettingValue.put_eq key value (.table parent.entries)
  | cons step steps => rfl

theorem put_eq (path : SettingPath) (value root : SettingValue) :
    path.put value root = root.edit (Text.lowercase path.head) (stored value path.steps) := by
  obtain ⟨head, steps⟩ := path
  cases steps with
  | nil => exact SettingValue.put_eq head value root
  | cons step steps => rfl

end SettingPath

namespace Settings

theorem overlay_cons (root : SettingValue) (entry : String × SettingValue) (layer : Layer) :
    overlay root (entry :: layer) =
      let path := SettingPath.ofKey entry.1
      overlay (root.edit (Text.lowercase path.head) (SettingPath.stored entry.2 path.steps))
        layer :=
  congrArg (overlay · layer) ((SettingPath.ofKey entry.1).put_eq entry.2 root)

theorem merged_cons (layer : Layer) (layers : List Layer) :
    merged (layer :: layers) = layers.foldl overlay (merged [layer]) := rfl

/-- Every default is one field of one section. -/
theorem defaults_paths :
    defaults.map (fun entry => SettingPath.ofKey entry.1) = [
      ⟨"tracker", [.child "application_id"]⟩,
      ⟨"tracker", [.child "active"]⟩,
      ⟨"queue", [.child "batch_size"]⟩,
      ⟨"queue", [.child "batch_delay_ms"]⟩,
      ⟨"queue", [.child "concurrency"]⟩,
      ⟨"retry", [.child "max_attempts"]⟩,
      ⟨"retry", [.child "min_timeout_ms"]⟩,
      ⟨"retry", [.child "retry_factor"]⟩,
      ⟨"wait", [.child "interval_ms"]⟩] := by
  decide +kernel

end Settings

end Telemetry
