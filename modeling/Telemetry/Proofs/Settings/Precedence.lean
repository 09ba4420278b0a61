import Telemetry.Proofs.Settings.Merge

/-!
Contract: what merged layers hold at one address.

Owns:
- `SettingValue.at?`: the value at an address, which is a list of keys;
- `SettingValue.given?`: what a value that is put has to say about an address;
- `Takes`, the law of putting: the new value at an address is the one that is
  given, or else the old one;
- that merged layers hold what the last of them gives that gives anything.

The law needs a value that fits the address. Where a table is put at its end, or
anything but a table on the way, what becomes of the address depends on more
than the address.
-/

namespace Telemetry

namespace SettingValue

def isScalar : SettingValue → Bool
  | .array _ => false
  | .table _ => false
  | _ => true

/-- The value that a list of keys leads to, through tables. -/
def at? : List String → SettingValue → Option SettingValue
  | [], value => some value
  | key :: address, value => (value.entries.lookup key).bind (at? address)

/-- What a value that is put gives for an address. Its keys are taken in lower case, and of two
that are the same the later one counts. -/
def given? : List String → SettingValue → Option SettingValue
  | [], value => some value
  | key :: address, value =>
      value.entries.reverse.findSome? fun entry =>
        if Text.lowercase entry.1 = key then entry.2.given? address else none

/-- Whatever the value gives on the way to an address is a table, and a scalar at its end. -/
def Fits : List String → SettingValue → Prop
  | [], value => value.isScalar = true
  | key :: address, value =>
      ∃ entries, value = .table entries ∧
        ∀ entry ∈ entries, Text.lowercase entry.1 = key → entry.2.Fits address

/-- There are only tables on the way to an address, as far as there is anything, and they have one
entry for each key. -/
def LeadsTo : List String → SettingValue → Prop
  | [], _ => True
  | key :: address, value =>
      ∃ entries, value = .table entries ∧ (entries.map Prod.fst).Nodup ∧
        ∀ below, entries.lookup key = some below → below.LeadsTo address

theorem leadsTo_empty (key : String) (address : List String) :
    (SettingValue.table []).LeadsTo (key :: address) :=
  ⟨[], rfl, List.nodup_nil, nofun⟩

theorem not_fits_nil_table (entries : List (String × SettingValue)) :
    ¬(SettingValue.table entries).Fits [] :=
  Bool.false_ne_true

theorem not_fits_array (address : List String) (items : List SettingValue) :
    ¬(SettingValue.array items).Fits address := by
  cases address with
  | nil => exact Bool.false_ne_true
  | cons key address =>
      rintro ⟨entries, table, -⟩
      cases table

theorem Fits.of_append {key : String} {address : List String}
    (first second : List (String × SettingValue))
    (fits : (SettingValue.table (first ++ second)).Fits (key :: address)) :
    (SettingValue.table first).Fits (key :: address) ∧
      (SettingValue.table second).Fits (key :: address) := by
  obtain ⟨entries, table, each⟩ := fits
  cases table
  exact ⟨⟨first, rfl, fun entry member => each entry (List.mem_append_left second member)⟩,
    ⟨second, rfl, fun entry member => each entry (List.mem_append_right first member)⟩⟩

theorem given?_append (key : String) (address : List String)
    (first second : List (String × SettingValue)) :
    (SettingValue.table (first ++ second)).given? (key :: address) =
      ((SettingValue.table second).given? (key :: address)).or
        ((SettingValue.table first).given? (key :: address)) := by
  simp only [given?, entries, List.reverse_append, List.findSome?_append]

theorem given?_single (key name : String) (address : List String) (value : SettingValue) :
    (SettingValue.table [(name, value)]).given? (key :: address) =
      if Text.lowercase name = key then value.given? address else none := by
  simp only [given?, entries, List.reverse_singleton, List.findSome?_singleton]

theorem Fits.of_single {key name : String} {address : List String} {value : SettingValue}
    (fits : (SettingValue.table [(name, value)]).Fits (key :: address))
    (named : Text.lowercase name = key) : value.Fits address := by
  obtain ⟨entries, table, each⟩ := fits
  cases table
  exact each (name, value) List.mem_cons_self named

end SettingValue

open SettingValue

/-- `after` comes of putting `incoming` over what was there before: as to the address, it holds what
is given, or else what was there. -/
structure Takes (address : List String) (incoming : SettingValue) (before : Option SettingValue)
    (after : SettingValue) : Prop where
  value : after.at? address = (incoming.given? address).or (before.bind (at? address))
  leads : (∀ value, before = some value → value.LeadsTo address) → after.LeadsTo address

namespace Takes

variable {key name : String} {address : List String} {before : Option SettingValue}

theorem edit {value : SettingValue} {change : Option SettingValue → SettingValue}
    (changed : ∀ below, Text.lowercase name = key → Takes address value below (change below)) :
    Takes (key :: address) (.table [(name, value)]) before
      ((before.getD .nil).edit (Text.lowercase name) change) := by
  have below : before.bind (at? (key :: address)) =
      ((before.getD .nil).entries.lookup key).bind (at? address) := by
    cases before with
    | none => rfl
    | some root => rfl
  constructor
  · rw [at?, entries_edit, lookup_putEntry, given?_single, below]
    by_cases named : Text.lowercase name = key
    · rw [if_pos named.symm, if_pos named, named]
      exact (changed _ named).value
    · rw [if_neg (Ne.symm named), if_neg named, Option.none_or]
  · intro led
    obtain ⟨distinct, ledBelow⟩ : ((before.getD .nil).entries.map Prod.fst).Nodup ∧
        ∀ value, (before.getD .nil).entries.lookup key = some value → value.LeadsTo address := by
      cases before with
      | none => exact ⟨List.nodup_nil, nofun⟩
      | some root =>
          obtain ⟨entries, rfl, rest⟩ := led root rfl
          exact rest
    refine ⟨_, rfl, putEntry_keys_nodup _ _ distinct, fun value found => ?_⟩
    rw [lookup_putEntry] at found
    by_cases named : Text.lowercase name = key
    · rw [if_pos named.symm, named] at found
      obtain rfl := Option.some.inj found
      exact (changed _ named).leads ledBelow
    · rw [if_neg (Ne.symm named)] at found
      exact ledBelow value found

theorem nothing (root : SettingValue) : Takes (key :: address) (.table []) (some root) root :=
  ⟨rfl, fun led => led root rfl⟩

theorem append {first second : List (String × SettingValue)} {middle after : SettingValue}
    (one : Takes (key :: address) (.table first) before middle)
    (other : Takes (key :: address) (.table second) (some middle) after) :
    Takes (key :: address) (.table (first ++ second)) before after := by
  constructor
  · rw [other.value, Option.bind_some, one.value, given?_append, Option.or_assoc]
  · intro led
    refine other.leads fun value same => ?_
    obtain rfl := Option.some.inj same
    exact one.leads led

theorem of_table {incoming after : SettingValue}
    (takes : Takes (key :: address) incoming (some (before.getD (.table []))) after) :
    Takes (key :: address) incoming before after := by
  cases before with
  | none =>
      refine ⟨takes.value, fun _ => takes.leads fun value same => ?_⟩
      obtain rfl := Option.some.inj same
      exact leadsTo_empty key address
  | some root => exact takes

theorem of_scalar {value : SettingValue} (scalar : value.isScalar = true)
    (fits : value.Fits address) : Takes address value before value := by
  cases address with
  | nil => exact ⟨rfl, fun _ => trivial⟩
  | cons key address =>
      obtain ⟨entries, rfl, -⟩ := fits
      cases scalar

/-- A value on another one, given the law for the entries of a table. -/
theorem laidOn_of_entries
    (entries : ∀ incoming root, (SettingValue.table incoming).Fits address →
      Takes address (.table incoming) (some root) (put.putAll incoming root))
    (value : SettingValue) (fits : value.Fits address) :
    Takes address value before (value.laidOn before) := by
  cases value with
  | table incoming =>
      cases address with
      | nil => exact absurd fits (not_fits_nil_table incoming)
      | cons key address => exact of_table (entries incoming _ fits)
  | array items => exact absurd fits (not_fits_array address items)
  | nil => exact of_scalar rfl fits
  | bool value => exact of_scalar rfl fits
  | integer value => exact of_scalar rfl fits
  | float value => exact of_scalar rfl fits
  | text value => exact of_scalar rfl fits

theorem putAll (incoming : List (String × SettingValue)) (root : SettingValue)
    (fits : (SettingValue.table incoming).Fits address) :
    Takes address (.table incoming) (some root) (put.putAll incoming root) := by
  -- What is put may be of any depth, but below an entry of it the address is shorter.
  induction address generalizing incoming root with
  | nil => exact absurd fits (not_fits_nil_table incoming)
  | cons key address shorter =>
      induction incoming generalizing root with
      | nil => exact nothing root
      | cons entry incoming inductionHypothesis =>
          obtain ⟨name, value⟩ := entry
          obtain ⟨fitsEntry, fitsRest⟩ := Fits.of_append [(name, value)] incoming fits
          rw [put.putAll, put_eq]
          refine append (edit fun _ named => ?_) (inductionHypothesis _ fitsRest)
          exact laidOn_of_entries shorter value (fitsEntry.of_single named)

theorem laidOn (value : SettingValue) (fits : value.Fits address) :
    Takes address value before (value.laidOn before) :=
  laidOn_of_entries (fun incoming root => putAll incoming root) value fits

end Takes

/-! ### Layers -/

/-- A value at the end of steps, as one value. A position is no key, and leads to no setting. -/
def PathStep.nest : List PathStep → SettingValue → SettingValue
  | [], value => value
  | .child key :: steps, value => .table [(key, nest steps value)]
  | .index _ :: _, _ => .array []

theorem Takes.stored {address : List String} {before : Option SettingValue} (value : SettingValue)
    (steps : List PathStep) (fits : (PathStep.nest steps value).Fits address) :
    Takes address (PathStep.nest steps value) before (SettingPath.stored value steps before) := by
  induction steps generalizing address before with
  | nil => exact Takes.laidOn value fits
  | cons step steps inductionHypothesis =>
      cases step with
      | index position => exact absurd fits (not_fits_array address [])
      | child name =>
          cases address with
          | nil => exact absurd fits (not_fits_nil_table _)
          | cons key address =>
              simp only [SettingPath.stored, SettingPath.putBelow_child]
              exact .edit fun _ named => inductionHypothesis (fits.of_single named)

namespace Settings

/-- A layer as one table, in which every key is one name. -/
def Layer.entries (layer : Layer) : List (String × SettingValue) :=
  layer.map fun entry =>
    let path := SettingPath.ofKey entry.1
    (path.head, PathStep.nest path.steps entry.2)

/-- What a layer gives for an address. -/
def Layer.given? (layer : Layer) (address : List String) : Option SettingValue :=
  (SettingValue.table layer.entries).given? address

def Layer.Fits (layer : Layer) (address : List String) : Prop :=
  (SettingValue.table layer.entries).Fits address

theorem Layer.given?_append (first second : Layer) (key : String) (address : List String) :
    Layer.given? (first ++ second) (key :: address) =
      (second.given? (key :: address)).or (first.given? (key :: address)) := by
  rw [Layer.given?, Layer.entries, List.map_append]
  exact SettingValue.given?_append key address first.entries second.entries

theorem overlay_takes {key : String} {address : List String} (layer : Layer) (root : SettingValue)
    (fits : layer.Fits (key :: address)) :
    Takes (key :: address) (.table layer.entries) (some root) (overlay root layer) := by
  induction layer generalizing root with
  | nil => exact .nothing root
  | cons entry layer inductionHypothesis =>
      obtain ⟨fitsEntry, fitsRest⟩ := SettingValue.Fits.of_append [_] _ fits
      rw [overlay_cons]
      exact .append (.edit fun _ named => .stored _ _ (fitsEntry.of_single named))
        (inductionHypothesis _ fitsRest)

theorem overlays_at? {key : String} {address : List String} (layers : List Layer)
    (fit : ∀ layer ∈ layers, layer.Fits (key :: address)) (root : SettingValue)
    (leads : root.LeadsTo (key :: address)) :
    (layers.foldl overlay root).at? (key :: address) =
        (layers.reverse.findSome? fun layer => layer.given? (key :: address)).or
          (root.at? (key :: address)) ∧
      (layers.foldl overlay root).LeadsTo (key :: address) := by
  induction layers generalizing root with
  | nil => exact ⟨rfl, leads⟩
  | cons layer layers inductionHypothesis =>
      rw [List.forall_mem_cons] at fit
      have takes := overlay_takes layer root fit.1
      have leadsOn := takes.leads fun value same => Option.some.inj same ▸ leads
      obtain ⟨value, led⟩ := inductionHypothesis fit.2 _ leadsOn
      refine ⟨?_, led⟩
      rw [List.foldl_cons, value, takes.value, List.reverse_cons, List.findSome?_append,
        List.findSome?_singleton, Option.or_assoc]
      rfl

/-- Merged layers hold at an address what the last layer gives that gives anything. -/
theorem merged_at? {key : String} {address : List String} (layers : List Layer)
    (fit : ∀ layer ∈ layers, layer.Fits (key :: address)) :
    (merged layers).at? (key :: address) =
        layers.reverse.findSome? (fun layer => layer.given? (key :: address)) ∧
      (merged layers).LeadsTo (key :: address) := by
  obtain ⟨value, led⟩ := overlays_at? layers fit (.table []) (leadsTo_empty key address)
  exact ⟨value.trans Option.or_none, led⟩

end Settings

end Telemetry
