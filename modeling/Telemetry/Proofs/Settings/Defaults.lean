import Telemetry.Proofs.Settings.Merge

/-!
Contract: settings with and without the layer of defaults.

Owns:
- `Underlaid`: how a value that was merged over a base relates to the same value
  merged over nothing;
- that whatever is put, at whatever path, keeps the two related;
- that reading does not tell them apart, as the defaults of the fields are those
  of the base.

A source may put a table where the base has a value, or the reverse. Then the
base is lost, and both are the same from there on. An empty table is the one
value that leaves the base alone.
-/

namespace Telemetry.Settings

open SettingValue

/-! ### Putting over a base -/

/-- The same sources were merged over nothing and over a base: `bare` and `full` are what came of
it, at one place of the two. -/
inductive Underlaid : Option SettingValue → Option SettingValue → Option SettingValue → Prop
  | same {base value : Option SettingValue} : Underlaid base value value
  | kept {base : SettingValue} {bare : Option SettingValue} (leaf : base.entries = [])
      (noItems : base.items = []) (blank : bare.getD (.table []) = .table []) :
      Underlaid (some base) bare (some base)
  | joined {base bareEntries fullEntries : List (String × SettingValue)}
      {bare : Option SettingValue} (table : bare.getD (.table []) = .table bareEntries)
      (each : ∀ key, Underlaid (base.lookup key) (bareEntries.lookup key)
        (fullEntries.lookup key)) :
      Underlaid (some (.table base)) bare (some (.table fullEntries))

namespace Underlaid

variable {base bare full : Option SettingValue}

theorem tables (related : Underlaid base bare full) :
    Underlaid base (some (bare.getD (.table []))) (some (full.getD (.table []))) := by
  cases related with
  | same => exact .same
  | kept leaf noItems blank => exact .kept leaf noItems blank
  | joined table each => exact .joined table each

theorem parts_of_table {value : Option SettingValue} {entries : List (String × SettingValue)}
    (table : value.getD (.table []) = .table entries) :
    (value.getD .nil).entries = entries ∧ (value.getD .nil).items = [] := by
  cases value with
  | none => exact ⟨SettingValue.table.inj table, rfl⟩
  | some value =>
      obtain rfl : value = .table entries := table
      exact ⟨rfl, rfl⟩

theorem items_eq (related : Underlaid base bare full) :
    (bare.getD .nil).items = (full.getD .nil).items := by
  cases related with
  | same => rfl
  | kept leaf noItems blank => exact (parts_of_table blank).2.trans noItems.symm
  | joined table each => exact (parts_of_table table).2

theorem edit (related : Underlaid base bare full) (key : String)
    {change : Option SettingValue → SettingValue}
    (changed : ∀ {base bare full : Option SettingValue}, Underlaid base bare full →
      Underlaid base (some (change bare)) (some (change full))) :
    Underlaid base (some ((bare.getD .nil).edit key change))
      (some ((full.getD .nil).edit key change)) := by
  cases related with
  | same => exact .same
  | kept leaf noItems blank =>
      rw [SettingValue.edit, SettingValue.edit, Option.getD_some, (parts_of_table blank).1, leaf]
      exact .same
  | joined table each =>
      refine .joined rfl fun other => ?_
      rw [(parts_of_table table).1, lookup_putEntry, lookup_putEntry]
      by_cases same : other = key
      · rw [if_pos same, if_pos same, same]
        exact changed (each key)
      · rw [if_neg same, if_neg same]
        exact each other

mutual

theorem laidOn : (value : SettingValue) → ∀ {base bare full : Option SettingValue},
    Underlaid base bare full → Underlaid base (some (value.laidOn bare)) (some (value.laidOn full))
  | .table incoming, _, _, _, related => putAll incoming related.tables
  | .nil, _, _, _, _ => .same
  | .bool _, _, _, _, _ => .same
  | .integer _, _, _, _, _ => .same
  | .float _, _, _, _, _ => .same
  | .text _, _, _, _, _ => .same
  | .array _, _, _, _, _ => .same

theorem putAll : (incoming : List (String × SettingValue)) →
    ∀ {base : Option SettingValue} {bare full : SettingValue},
      Underlaid base (some bare) (some full) →
        Underlaid base (some (put.putAll incoming bare)) (some (put.putAll incoming full))
  | [], _, _, _, related => related
  | (key, value) :: incoming, _, _, _, related => by
      rw [put.putAll, put.putAll, put_eq, put_eq]
      exact putAll incoming (related.edit _ (laidOn value))

end

theorem stored (related : Underlaid base bare full) (value : SettingValue)
    (steps : List PathStep) :
    Underlaid base (some (SettingPath.stored value steps bare))
      (some (SettingPath.stored value steps full)) := by
  induction steps generalizing base bare full with
  | nil => exact laidOn value related
  | cons step steps inductionHypothesis =>
      cases step with
      | child key =>
          simp only [SettingPath.stored, SettingPath.putBelow_child]
          exact related.edit _ inductionHypothesis
      | index position =>
          -- A position makes an array of what is no array, so nothing of the base is left.
          simp only [SettingPath.stored, SettingPath.putBelow, related.items_eq]
          exact .same

theorem overlay {bare full : SettingValue} (related : Underlaid base (some bare) (some full))
    (layer : Layer) :
    Underlaid base (some (Settings.overlay bare layer)) (some (Settings.overlay full layer)) := by
  induction layer generalizing bare full with
  | nil => exact related
  | cons entry layer inductionHypothesis =>
      rw [overlay_cons, overlay_cons]
      exact inductionHypothesis (related.edit _ fun inner => inner.stored entry.2 _)

theorem overlays {bare full : SettingValue} (related : Underlaid base (some bare) (some full))
    (layers : List Layer) :
    Underlaid base (some (layers.foldl Settings.overlay bare))
      (some (layers.foldl Settings.overlay full)) := by
  induction layers generalizing bare full with
  | nil => exact related
  | cons layer layers inductionHypothesis => exact inductionHypothesis (related.overlay layer)

/-- A table over nothing, before anything is put. -/
theorem opening {entries : List (String × SettingValue)} {bare : Option SettingValue}
    (blank : bare.getD (.table []) = .table [])
    (each : ∀ entry ∈ entries, Underlaid (some entry.2) none (some entry.2)) :
    Underlaid (some (.table entries)) bare (some (.table entries)) := by
  refine .joined blank fun key => ?_
  cases found : entries.lookup key with
  | none => exact .same
  | some value =>
      obtain ⟨front, back, rfl, -⟩ := List.lookup_eq_some_iff.mp found
      exact each (key, value) (by simp)

theorem opening_leaves {entries : List (String × SettingValue)}
    (leaves : ∀ entry ∈ entries, entry.2.entries = [] ∧ entry.2.items = []) :
    Underlaid (some (.table entries)) none (some (.table entries)) :=
  opening rfl fun entry member => .kept (leaves entry member).1 (leaves entry member).2 rfl

theorem eq_of_no_base (related : Underlaid none bare full) : bare = full := by
  cases related with
  | same => rfl

end Underlaid

/-! ### The base of the defaults -/

/-- The layer of defaults as one value. -/
def groundwork : SettingValue :=
  .table [
    ("tracker", .table [("application_id", .text "eventline"), ("active", .bool true)]),
    ("queue", .table [
      ("batch_size", .integer 10),
      ("batch_delay_ms", .integer 1000),
      ("concurrency", .integer 4)]),
    ("retry", .table [
      ("max_attempts", .integer 10),
      ("min_timeout_ms", .integer 1000),
      ("retry_factor", .float .two)]),
    ("wait", .table [("interval_ms", .integer 100)])]

theorem merged_defaults : merged [defaults] = groundwork := by
  have paths := defaults_paths
  have lower : ∀ name ∈ ["tracker", "queue", "retry", "wait"], Text.lowercase name = name := by
    decide +kernel
  simp only [defaults, List.map_cons, List.map_nil, List.cons.injEq] at paths
  simp only [List.forall_mem_cons] at lower
  simp only [merged, defaults, overlay, List.foldl_cons, List.foldl_nil, paths, SettingPath.put_eq,
    lower]
  rfl

theorem groundwork_underlaid :
    Underlaid (some groundwork) (some (.table [])) (some groundwork) := by
  refine .opening rfl ?_
  simp only [List.forall_mem_cons]
  refine ⟨.opening_leaves ?_, .opening_leaves ?_, .opening_leaves ?_, .opening_leaves ?_, nofun⟩
  all_goals simp [SettingValue.entries, SettingValue.items]

/-! ### Reading -/

/-- Where the first is a value, the second is the same. -/
def Refines {α : Type} (first second : Option α) : Prop :=
  ∀ value, first = some value → second = some value

namespace Refines

variable {α β : Type}

theorem refl (value : Option α) : Refines value value := fun _ => id

theorem bind {first second : Option α} {next nextSecond : α → Option β}
    (refines : Refines first second) (each : ∀ value, Refines (next value) (nextSecond value)) :
    Refines (first.bind next) (second.bind nextSecond) := by
  intro result
  cases first with
  | none => exact nofun
  | some value =>
      rw [refines value rfl]
      exact each value result

end Refines

/-- A field whose own default reads as that of the base. -/
def Agrees {α : Type} (base : Option SettingValue) (default : α)
    (decode : SettingValue → Option α) : Prop :=
  ∀ bare full : Option SettingValue, Underlaid base bare full →
    Refines (defaulting default decode bare) (defaulting default decode full)

namespace Agrees

variable {α : Type} {default : α} {decode : SettingValue → Option α}

theorem of_no_base : Agrees none default decode := by
  intro bare full related
  rw [related.eq_of_no_base]
  exact .refl _

theorem of_leaf {base : SettingValue} (reads : decode base = some default)
    (refused : decode (.table []) = none) (plain : ∀ entries, base ≠ .table entries) :
    Agrees (some base) default decode := by
  intro bare full related
  cases related with
  | same => exact .refl _
  | joined table each => exact absurd rfl (plain _)
  | kept leaf noItems blank =>
      intro value
      rcases bare with - | empty
      · exact reads.trans
      · obtain rfl : empty = .table [] := blank
        rw [defaulting, refused]
        exact nofun

theorem of_table {base : List (String × SettingValue)} (reads : decode (.table []) = some default)
    (filled : base ≠ [])
    (fields : ∀ {bareEntries fullEntries : List (String × SettingValue)},
      (∀ key, Underlaid (base.lookup key) (bareEntries.lookup key) (fullEntries.lookup key)) →
        Refines (decode (.table bareEntries)) (decode (.table fullEntries))) :
    Agrees (some (.table base)) default decode := by
  intro bare full related
  cases related with
  | same => exact .refl _
  | kept leaf noItems blank => exact absurd leaf filled
  | @joined _ bareEntries fullEntries _ table each =>
      rcases bare with - | value
      · obtain rfl : [] = bareEntries := SettingValue.table.inj table
        rw [defaulting, ← reads]
        exact fields each
      · obtain rfl : value = .table bareEntries := table
        exact fields each

end Agrees

theorem tracker_agrees : Agrees
    (some (.table [("application_id", .text "eventline"), ("active", .bool true)]))
    ({} : TrackerSettings) trackerOfValue? := by
  have applicationId : Agrees (some (.text "eventline")) "eventline" toText? :=
    .of_leaf rfl rfl nofun
  have active : Agrees (some (.bool true)) true toBool? := .of_leaf rfl rfl nofun
  refine .of_table rfl nofun fun each => ?_
  refine Refines.bind (applicationId _ _ (each "application_id")) fun _ => ?_
  refine Refines.bind (Agrees.of_no_base _ _ (each "tracker_id")) fun _ => ?_
  exact Refines.bind (active _ _ (each "active")) fun _ => .refl _

theorem queue_agrees : Agrees
    (some (.table [
      ("batch_size", .integer 10), ("batch_delay_ms", .integer 1000), ("concurrency", .integer 4)]))
    ({} : QueueSettings) queueOfValue? := by
  have batchSize : Agrees (some (.integer 10)) 10 (toUnsigned? 64) := .of_leaf rfl rfl nofun
  have batchDelay : Agrees (some (.integer 1000)) 1000 (toUnsigned? 64) := .of_leaf rfl rfl nofun
  have concurrency : Agrees (some (.integer 4)) 4 (toUnsigned? 64) := .of_leaf rfl rfl nofun
  refine .of_table rfl nofun fun each => ?_
  refine Refines.bind (batchSize _ _ (each "batch_size")) fun _ => ?_
  refine Refines.bind (batchDelay _ _ (each "batch_delay_ms")) fun _ => ?_
  exact Refines.bind (concurrency _ _ (each "concurrency")) fun _ => .refl _

theorem retry_agrees : Agrees
    (some (.table [
      ("max_attempts", .integer 10), ("min_timeout_ms", .integer 1000),
      ("retry_factor", .float .two)]))
    ({} : RetrySettings) retryOfValue? := by
  have maxAttempts : Agrees (some (.integer 10)) 10 (toUnsigned? 32) := .of_leaf rfl rfl nofun
  have minTimeout : Agrees (some (.integer 1000)) 1000 (toUnsigned? 64) := .of_leaf rfl rfl nofun
  have retryFactor : Agrees (some (.float .two)) .two toFloat? := .of_leaf rfl rfl nofun
  refine .of_table rfl nofun fun each => ?_
  refine Refines.bind (maxAttempts _ _ (each "max_attempts")) fun _ => ?_
  refine Refines.bind (Agrees.of_no_base _ _ (each "max_retry_ms")) fun _ => ?_
  refine Refines.bind (minTimeout _ _ (each "min_timeout_ms")) fun _ => ?_
  refine Refines.bind (Agrees.of_no_base _ _ (each "max_timeout_ms")) fun _ => ?_
  exact Refines.bind (retryFactor _ _ (each "retry_factor")) fun _ => .refl _

theorem wait_agrees : Agrees (some (.table [("interval_ms", .integer 100)])) ({} : WaitOptions)
    waitOfValue? := by
  have interval : Agrees (some (.integer 100)) 100 (toUnsigned? 64) := .of_leaf rfl rfl nofun
  refine .of_table rfl nofun fun each => ?_
  refine Refines.bind (interval _ _ (each "interval_ms")) fun _ => ?_
  exact Refines.bind (Agrees.of_no_base _ _ (each "timeout_ms")) fun _ => .refl _

theorem settings_agree : Agrees (some groundwork) ({} : Settings) ofValue? := by
  refine .of_table rfl nofun fun each => ?_
  refine Refines.bind (tracker_agrees _ _ (each "tracker")) fun _ => ?_
  refine Refines.bind (queue_agrees _ _ (each "queue")) fun _ => ?_
  refine Refines.bind (retry_agrees _ _ (each "retry")) fun _ => ?_
  refine Refines.bind (wait_agrees _ _ (each "wait")) fun _ => ?_
  exact Refines.bind (Agrees.of_no_base _ _ (each "logging")) fun _ => .refl _

/-- Whatever sources are merged, if their settings can be read without the layer of defaults, they
can be read with it, and are the same.

The order of a layer's keys is fixed here, and so is that of every table in it. The configuration
library keeps them in hash maps, whose order is not fixed. Nothing is assumed of the order, so this
holds for each one that a hash map may have. -/
theorem defaults_of_fields_are_those_of_layer (layers : List Layer) (settings : Settings)
    (read : ofValue? (merged layers) = some settings) :
    ofValue? (merged (defaults :: layers)) = some settings := by
  have related : Underlaid (some groundwork) (some (merged layers))
      (some (merged (defaults :: layers))) := by
    rw [merged_cons, merged_defaults]
    exact groundwork_underlaid.overlays layers
  exact settings_agree _ _ related settings read

/-- One source has an array for a section and a truth value for another. A second one puts a field
below that value, and an empty table over the defaults of a third section. -/
theorem misshapen_sources_read_the_same :
    let layers : List Layer := [
      [("queue", .array [.integer 5]), ("wait", .bool true)],
      [("wait.timeout_ms", .integer 50), ("retry", .table [])]]
    let settings : Settings := { queue := { batchSize := 5 }, wait := { timeout := some 50 } }
    ofValue? (merged layers) = some settings ∧
      ofValue? (merged (defaults :: layers)) = some settings := by
  intro layers settings
  have read : ofValue? (merged layers) = some settings := by decide +kernel
  exact ⟨read, defaults_of_fields_are_those_of_layer layers settings read⟩

end Telemetry.Settings
