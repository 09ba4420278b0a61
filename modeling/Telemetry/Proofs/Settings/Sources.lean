import Telemetry.Proofs.Settings.Fields
import Telemetry.Proofs.Settings.Variables
import Telemetry.Settings.Load

/-!
Contract: which source the settings of a workspace come from.

Owns:
- `Settings.IsSetting`: the addresses of settings, which are the fields of the
  sections and the modules that have a level of their own;
- the shape that a file and the variables need, so that each of their keys is
  about one setting;
- `Settings.Sources`: sources of that shape;
- that each setting is read from the nearest source that has it, whatever the
  sources have for other settings.
-/

namespace Telemetry

open SettingValue

namespace Settings

/-! ### Settings and their addresses -/

def sectionNames : List String := ["tracker", "queue", "retry", "wait", "logging"]

/-- The address of one setting. The levels of modules are settings of their own. -/
inductive IsSetting : List String → Prop
  | field {name key : String} (known : name ∈ sectionNames)
      (single : (name, key) ≠ ("logging", "modules")) : IsSetting [name, key]
  | level (target : String) : IsSetting ["logging", "modules", target]

namespace IsSetting

theorem head_known {head : String} {keys : List String} (setting : IsSetting (head :: keys)) :
    head ∈ sectionNames := by
  cases setting with
  | field known single => exact known
  | level target => decide

theorem bare {address : List String} (setting : IsSetting address) :
    ∀ word ∈ address.dropLast, '_' ∉ word.toList := by
  have names : ∀ name ∈ sectionNames, '_' ∉ name.toList := by decide
  cases setting with
  | field known single => exact List.forall_mem_singleton.mpr (names _ known)
  | level target =>
      exact List.forall_mem_cons.mpr ⟨by decide, List.forall_mem_singleton.mpr (by decide)⟩

/-- No setting lies below another one. -/
theorem eq_of_prefix {first second : List String} (one : IsSetting first) (other : IsSetting second)
    (below : first <+: second) : first = second := by
  cases one with
  | field known single =>
      cases other with
      | field _ _ => exact below.eq_of_length rfl
      | level target =>
          obtain ⟨rest, same⟩ := below
          simp only [List.cons_append, List.cons.injEq] at same
          exact absurd (by rw [same.1, same.2.1]) single
  | level target =>
      cases other with
      | field known single => exact absurd below.length_le (Nat.not_succ_le_self 2)
      | level other => exact below.eq_of_length rfl

end IsSetting

/-! ### Layers of the right shape -/

/-- A table of scalars. -/
def isFlat : SettingValue → Bool
  | .table entries => entries.all fun entry => entry.2.isScalar
  | _ => false

/-- A table of scalars, but for the levels of modules, which are such a table themselves. -/
def isSection (name : String) : SettingValue → Bool
  | .table entries => entries.all fun entry =>
      if (name, Text.lowercase entry.1) = ("logging", "modules") then isFlat entry.2
      else entry.2.isScalar
  | _ => false

/-- What a layer has for sections are sections. -/
def Layer.WellShaped (layer : Layer) : Prop :=
  ∀ entry ∈ layer.entries, Text.lowercase entry.1 ∈ sectionNames →
    isSection (Text.lowercase entry.1) entry.2 = true

instance (layer : Layer) : Decidable layer.WellShaped :=
  inferInstanceAs (Decidable (∀ entry ∈ layer.entries, _ → _))

theorem isFlat_fits {value : SettingValue} (flat : isFlat value = true) (key : String) :
    value.Fits [key] := by
  cases value with
  | table entries =>
      exact ⟨entries, rfl, fun entry member _ => List.all_eq_true.mp flat entry member⟩
  | _ => cases flat

theorem isSection_fits {name key : String} {value : SettingValue}
    (shaped : isSection name value = true) (single : (name, key) ≠ ("logging", "modules")) :
    value.Fits [key] := by
  cases value with
  | table entries =>
      refine ⟨entries, rfl, fun entry member named => ?_⟩
      have scalar := List.all_eq_true.mp shaped entry member
      rw [named, if_neg single] at scalar
      exact scalar
  | _ => cases shaped

theorem isSection_fits_level {value : SettingValue} (shaped : isSection "logging" value = true)
    (target : String) : value.Fits ["modules", target] := by
  cases value with
  | table entries =>
      refine ⟨entries, rfl, fun entry member named => ?_⟩
      have flat := List.all_eq_true.mp shaped entry member
      rw [named, if_pos rfl] at flat
      exact isFlat_fits flat target
  | _ => cases shaped

theorem Layer.WellShaped.fits {layer : Layer} {address : List String} (shaped : layer.WellShaped)
    (setting : IsSetting address) : layer.Fits address := by
  cases setting with
  | field known single =>
      refine ⟨_, rfl, fun entry member named => ?_⟩
      subst named
      exact isSection_fits (shaped entry member known) single
  | level target =>
      refine ⟨_, rfl, fun entry member named => ?_⟩
      have known := shaped entry member
      rw [named] at known
      exact isSection_fits_level (known (by decide)) target

theorem defaults_wellShaped : Layer.WellShaped defaults := by
  decide +kernel

end Settings

/-! ### Variables of the right shape -/

namespace Environment

open Settings

/-- Variables that are about sections are named after settings. -/
def WellShaped (environment : Environment) : Prop :=
  ∀ entry ∈ environment, ∀ key, settingKey? entry.1 = some key →
    Text.lowercase (SettingPath.ofKey key).head ∈ sectionNames →
      ∃ address, IsSetting address ∧ Names entry.1 address

theorem settingValue_isScalar (text : String) : (settingValue text).isScalar = true := by
  unfold settingValue
  dsimp only
  split
  · rfl
  · split
    · rfl
    · split
      · rfl
      · split
        · rfl
        · rfl

/-- The entry that a variable for a setting makes is that setting in its section. -/
theorem isSection_nest {head : String} {keys : List String} {value : SettingValue}
    (setting : IsSetting (head :: keys)) (words : ∀ word ∈ head :: keys, IsWord word)
    (scalar : value.isScalar = true) :
    isSection head (PathStep.nest (keys.map .child) value) = true := by
  have lower := fun word member => (words word member).lower
  cases setting with
  | field known single =>
      simp only [List.map_cons, List.map_nil, PathStep.nest, isSection, List.all_cons, List.all_nil,
        Bool.and_true, lower _ (List.mem_cons_of_mem _ List.mem_cons_self), if_neg single, scalar]
  | level target =>
      simp [PathStep.nest, isSection, isFlat, scalar, lower "modules"]

/-- Such an entry gives a value for its own address alone. -/
theorem given?_nest {address keys : List String} {value : SettingValue}
    (words : ∀ word ∈ keys, IsWord word) (scalar : value.isScalar = true)
    (whole : address <+: keys → address = keys) :
    (PathStep.nest (keys.map .child) value).given? address =
      if address = keys then some value else none := by
  induction keys generalizing address with
  | nil =>
      cases address with
      | nil => rfl
      | cons key address =>
          cases value with
          | table _ => cases scalar
          | _ => rfl
  | cons key keys inductionHypothesis =>
      rw [List.forall_mem_cons] at words
      cases address with
      | nil => exact absurd (whole List.nil_prefix) (List.cons_ne_nil key keys).symm
      | cons first address =>
          rw [List.map_cons, PathStep.nest, given?_single, words.1.lower]
          by_cases same : key = first
          · subst same
            have rest := inductionHypothesis words.2 fun below =>
              (List.cons.inj (whole (List.cons_prefix_cons.mpr ⟨rfl, below⟩))).2
            rw [if_pos rfl, rest]
            simp only [List.cons.injEq, true_and]
          · rw [if_neg same, if_neg fun equal => same (List.cons.inj equal).1.symm]

theorem layer_append (first second : Environment) :
    layer (first ++ second) = first.layer ++ second.layer := by
  rw [layer, List.filterMap_append]
  rfl

theorem layer_of_no_key {entry : String × String} (other : settingKey? entry.1 = none) :
    layer [entry] = [] := by
  simp only [layer, List.filterMap_cons, other, Option.map_none, List.filterMap_nil]

theorem layer_of_key {entry : String × String} {key : String}
    (found : settingKey? entry.1 = some key) :
    layer [entry] = [(key, settingValue entry.2)] := by
  simp only [layer, List.filterMap_cons, found, Option.map_some, List.filterMap_nil]

section Shaped

variable {environment : Environment}

theorem Names.ofKey_eq {name key head : String} {keys : List String}
    (names : Names name (head :: keys)) (setting : IsSetting (head :: keys))
    (found : settingKey? name = some key) : SettingPath.ofKey key = ⟨head, keys.map .child⟩ := by
  obtain ⟨spelled, again, path⟩ := names.path setting.bare
  obtain rfl : key = spelled := Option.some.inj (found.symm.trans again)
  exact path

theorem Names.unique {name : String} {first second : List String} (one : Names name first)
    (other : Names name second) (oneSetting : IsSetting first) (otherSetting : IsSetting second) :
    first = second := by
  cases first with
  | nil => cases oneSetting
  | cons head keys =>
      cases second with
      | nil => cases otherSetting
      | cons otherHead otherKeys =>
          obtain ⟨key, found, path⟩ := one.path oneSetting.bare
          have same := path.symm.trans (other.ofKey_eq otherSetting found)
          rw [SettingPath.mk.injEq] at same
          have keysSame := List.map_injective_iff.mpr (fun _ _ => PathStep.child.inj) same.2
          rw [same.1, keysSame]

theorem WellShaped.layer (shaped : environment.WellShaped) : environment.layer.WellShaped := by
  intro entry member known
  obtain ⟨⟨key, value⟩, inLayer, rfl⟩ := List.mem_map.mp member
  obtain ⟨⟨name, text⟩, inEnvironment, made⟩ := List.mem_filterMap.mp inLayer
  obtain ⟨key, found, same⟩ := Option.map_eq_some_iff.mp made
  cases same
  obtain ⟨address, setting, names⟩ := shaped _ inEnvironment key found known
  cases address with
  | nil => cases setting
  | cons head keys =>
      simp only [names.ofKey_eq setting found, (names.1 head List.mem_cons_self).lower]
      exact isSection_nest setting names.1 (settingValue_isScalar text)

/-- One variable gives what its name says. -/
theorem given?_variable {entry : String × String} {address : List String}
    (shaped : WellShaped [entry]) (setting : IsSetting address) :
    (Environment.layer [entry]).given? address =
      if Names entry.1 address then some (settingValue entry.2) else none := by
  cases address with
  | nil => cases setting
  | cons head keys =>
      cases found : settingKey? entry.1 with
      | none =>
          have other : ¬Names entry.1 (head :: keys) := by
            intro names
            obtain ⟨key, again, -⟩ := names.path setting.bare
            rw [found] at again
            cases again
          rw [layer_of_no_key found, if_neg other]
          rfl
      | some key =>
          rw [layer_of_key found]
          by_cases known : Text.lowercase (SettingPath.ofKey key).head ∈ sectionNames
          · obtain ⟨own, ownSetting, names⟩ := shaped entry List.mem_cons_self key found known
            have same : Names entry.1 (head :: keys) ↔ head :: keys = own := by
              constructor
              · intro asked
                exact asked.unique names setting ownSetting
              · rintro rfl
                exact names
            cases own with
            | nil => cases ownSetting
            | cons ownHead ownKeys =>
                have value := given?_nest names.1 (settingValue_isScalar entry.2)
                  (setting.eq_of_prefix ownSetting)
                simp only [Layer.given?, Layer.entries, List.map_cons, List.map_nil,
                  names.ofKey_eq ownSetting found, same]
                exact value
          · have other : ¬Names entry.1 (head :: keys) := by
              intro names
              rw [names.ofKey_eq setting found, (names.1 head List.mem_cons_self).lower] at known
              exact known setting.head_known
            rw [if_neg other, Layer.given?]
            refine (given?_single _ _ _ _).trans (if_neg fun named => known ?_)
            rw [named]
            exact setting.head_known

/-- The layer of the variables gives what their names say. -/
theorem given?_layer {address : List String} (shaped : environment.WellShaped)
    (setting : IsSetting address) :
    environment.layer.given? address = environment.value? address := by
  cases address with
  | nil => cases setting
  | cons head keys =>
      induction environment with
      | nil => rfl
      | cons entry environment inductionHypothesis =>
          have alone : WellShaped [entry] :=
            List.forall_mem_singleton.mpr (shaped entry List.mem_cons_self)
          have others := inductionHypothesis fun other member =>
            shaped other (List.mem_cons_of_mem _ member)
          rw [← List.singleton_append, layer_append, Layer.given?_append,
            given?_variable alone setting, others, value?, value?, List.reverse_append,
            List.findSome?_append, List.reverse_singleton, List.findSome?_singleton]

end Shaped

end Environment

namespace Settings

/-! ### Loading -/

/-- The layer of a file, which is empty if there is none. -/
def presentLayer? (tree : FileTree) (path : String) : Option Layer :=
  if tree.contains path then optionalLayer? tree path else some []

def userLayer? (tree : FileTree) (environment : Environment) : Option Layer :=
  match userFile? environment with
  | some path => presentLayer? tree path
  | none => some []

/-- Sources of settings in which every key is about one setting. -/
structure Sources where
  user : Layer
  workspace : Layer
  environment : Environment
  user_shaped : user.WellShaped
  workspace_shaped : workspace.WellShaped
  environment_shaped : environment.WellShaped

namespace Sources

variable (sources : Sources)

/-- All the sources as one value, out of which the settings are read. -/
def root : SettingValue :=
  merged [defaults, sources.user, sources.workspace, sources.environment.layer]

/-- What the nearest source has for an address. -/
def value? (address : List String) : Option SettingValue :=
  (sources.environment.value? address).or <|
    (sources.workspace.given? address).or <|
      (sources.user.given? address).or (Layer.given? defaults address)

theorem root_at? {address : List String} (setting : IsSetting address) :
    sources.root.at? address = sources.value? address ∧ sources.root.LeadsTo address := by
  have fit : ∀ layer ∈ [defaults, sources.user, sources.workspace, sources.environment.layer],
      Layer.Fits layer address := by
    simp only [List.forall_mem_cons]
    exact ⟨defaults_wellShaped.fits setting, sources.user_shaped.fits setting,
      sources.workspace_shaped.fits setting, sources.environment_shaped.layer.fits setting, nofun⟩
  cases address with
  | nil => cases setting
  | cons head keys =>
      obtain ⟨value, leads⟩ := merged_at? _ fit
      refine ⟨?_, leads⟩
      have nearestFirst :
          [defaults, sources.user, sources.workspace, sources.environment.layer].reverse =
            [sources.environment.layer] ++
              ([sources.workspace] ++ ([sources.user] ++ [defaults])) := rfl
      rw [root, value, value?, ← Environment.given?_layer sources.environment_shaped setting,
        nearestFirst]
      simp only [List.findSome?_append, List.findSome?_singleton]

end Sources

theorem finish_fst (layers : Option (List Layer)) (entries : List LogEntry) :
    (finish layers entries).1 = ofLayers layers := by
  rw [finish]
  cases ofLayers layers with
  | ok settings => rfl
  | error error => rfl

/-- To leave out the files that are not there makes no difference to what is merged. -/
theorem present_overlays (tree : FileTree) (files : List (String × LogEntry)) (layers : List Layer)
    (read : files.mapM (fun file => presentLayer? tree file.1) = some layers) :
    ∃ present : List Layer,
      (files.filter fun file => tree.contains file.1).mapM
          (fun file => optionalLayer? tree file.1) = some present ∧
        ∀ root, present.foldl overlay root = layers.foldl overlay root := by
  induction files generalizing layers with
  | nil =>
      obtain rfl := Option.some.inj read
      exact ⟨[], rfl, fun _ => rfl⟩
  | cons file files inductionHypothesis =>
      rw [List.mapM_cons] at read
      obtain ⟨layer, readFirst, rest⟩ := Option.bind_eq_some_iff.mp read
      obtain ⟨others, readOthers, same⟩ := Option.bind_eq_some_iff.mp rest
      obtain rfl := Option.some.inj same
      obtain ⟨present, readPresent, merges⟩ := inductionHypothesis others readOthers
      by_cases there : tree.contains file.1 = true
      · rw [presentLayer?, if_pos there] at readFirst
        refine ⟨layer :: present, ?_, fun root => merges (overlay root layer)⟩
        rw [List.filter_cons, if_pos there, List.mapM_cons, readFirst, readPresent]
        rfl
      · rw [presentLayer?, if_neg there] at readFirst
        obtain rfl := Option.some.inj readFirst
        refine ⟨present, ?_, merges⟩
        rw [List.filter_cons, if_neg there, readPresent]

theorem present_files_overlay (tree : FileTree) (workspace : String) (environment : Environment)
    (user own : Layer) (userRead : userLayer? tree environment = some user)
    (workspaceRead : presentLayer? tree (workspaceFile workspace) = some own) :
    ∃ present : List Layer,
      (presentFiles tree environment workspace).mapM (fun file => optionalLayer? tree file.1) =
          some present ∧
        ∀ root, present.foldl overlay root = overlay (overlay root user) own := by
  rw [userLayer?] at userRead
  unfold presentFiles
  cases found : userFile? environment with
  | none =>
      rw [found] at userRead
      obtain rfl := Option.some.inj userRead
      refine present_overlays tree _ [own] ?_
      rw [Option.toList_none, List.map_nil, List.nil_append, List.mapM_cons, workspaceRead]
      rfl
  | some path =>
      rw [found] at userRead
      have userRead : presentLayer? tree path = some user := userRead
      refine present_overlays tree _ [user, own] ?_
      rw [Option.toList_some, List.map_singleton, List.singleton_append, List.mapM_cons,
        List.mapM_cons, userRead, workspaceRead]
      rfl

/-- Loading reads the settings out of the merged sources. -/
theorem load_fst (tree : FileTree) (workspace : String) (sources : Sources)
    (userRead : userLayer? tree sources.environment = some sources.user)
    (workspaceRead : presentLayer? tree (workspaceFile workspace) = some sources.workspace) :
    (load tree sources.environment workspace).1 =
      (ofValue? sources.root).elim (.error unreadable) validated := by
  obtain ⟨present, read, merges⟩ :=
    present_files_overlay tree workspace sources.environment _ _ userRead workspaceRead
  have same : merged (defaults :: present ++ [sources.environment.layer]) = sources.root := by
    rw [List.cons_append, merged_cons, List.foldl_append, merges]
    exact (merged_cons defaults
      [sources.user, sources.workspace, sources.environment.layer]).symm
  rw [load, finish_fst, read, Option.map_some, ofLayers, Option.bind_some, same]
  cases ofValue? sources.root with
  | some settings => rfl
  | none => rfl

theorem Sources.root_leadsTo (sources : Sources) {name : String} (known : name ∈ sectionNames) :
    sources.root.LeadsTo [name, "level"] :=
  (sources.root_at? (.field known (by simp))).2

/-- The levels of modules are a table of their own in the merged sources. -/
theorem Sources.levels (sources : Sources) :
    ∃ levels, (sources.root.at? ["logging", "modules"]).getD (.table []) = .table levels ∧
      (levels.map Prod.fst).Nodup ∧
      ∀ target, levels.lookup target = sources.value? ["logging", "modules", target] := by
  obtain ⟨levels, table, distinct, each⟩ :=
    table_of_leadsTo ["logging", "modules"] (sources.root_at? (.level "")).2
  exact ⟨levels, table, distinct,
    fun target => (each target).trans (sources.root_at? (.level target)).1⟩

/-- What is read for one setting is what the nearest source says, or the default of its field. -/
theorem Sources.fields_agree (sources : Sources) {settings : Settings}
    (read : ofValue? sources.root = some settings) :
    (∀ name field, (name, field) ∈ fields → IsSetting [name, field.name] →
      field.Agrees {} settings (sources.value? [name, field.name])) ∧
    ∀ target, settings.logging.modules.lookup target =
      (sources.value? ["logging", "modules", target]).bind toText? := by
  have leads : ∀ record ∈ sections, ∃ key, sources.root.LeadsTo [record.name, key] := by
    intro record listed
    have known : record.name ∈ sections.map RecordField.name := List.mem_map_of_mem listed
    exact ⟨_, sources.root_leadsTo known⟩
  have each := (ofValue?_eq_some_iff leads).mp read
  constructor
  · intro name field listed setting
    rw [← (sources.root_at? setting).1]
    exact each (name, field) listed
  · intro target
    obtain ⟨levels, table, -, levelOf⟩ := sources.levels
    have modules : defaulting [] toTextEntries? (sources.root.at? ["logging", "modules"]) =
        some settings.logging.modules :=
      each ("logging", ⟨"modules", _, toTextEntries?, fun settings => settings.logging.modules⟩)
        (List.mem_append_right _ (List.mem_map.mpr ⟨_, List.mem_of_getLast? rfl, rfl⟩))
    have empty : toTextEntries? (.table []) = some [] := rfl
    rw [defaulting_eq_getD empty, table] at modules
    rw [lookup_of_toTextEntries? modules, levelOf]

/-- Loading reads the settings out of one value. In it, every field of a section and the level of
every module is what the nearest source has for it: the variables, the file of the workspace, that
of the user, or the defaults. So it does not depend on what the sources have for other settings. The
settings that are read have in each field what that source says. -/
theorem settings_come_from_the_nearest_source (tree : FileTree) (workspace : String)
    (sources : Sources)
    (userRead : userLayer? tree sources.environment = some sources.user)
    (workspaceRead : presentLayer? tree (workspaceFile workspace) = some sources.workspace) :
    (load tree sources.environment workspace).1 =
      (ofValue? sources.root).elim (.error unreadable) validated ∧
    (∀ name ∈ sectionNames,
      ∃ fields, (sources.root.at? [name]).getD (.table []) = .table fields ∧
        ∀ key, IsSetting [name, key] → fields.lookup key = sources.value? [name, key]) ∧
    (∃ levels, (sources.root.at? ["logging", "modules"]).getD (.table []) = .table levels ∧
      (levels.map Prod.fst).Nodup ∧
      ∀ target, levels.lookup target = sources.value? ["logging", "modules", target]) ∧
    (∀ settings, ofValue? sources.root = some settings →
      (∀ name field, (name, field) ∈ fields → IsSetting [name, field.name] →
        field.Agrees {} settings (sources.value? [name, field.name])) ∧
      ∀ target, settings.logging.modules.lookup target =
        (sources.value? ["logging", "modules", target]).bind toText?) ∧
    (∀ (other : Sources) (address : List String), IsSetting address →
      other.user.given? address = sources.user.given? address →
      other.workspace.given? address = sources.workspace.given? address →
      other.environment.value? address = sources.environment.value? address →
      other.root.at? address = sources.root.at? address) := by
  refine ⟨load_fst tree workspace sources userRead workspaceRead, ?_, sources.levels,
    fun settings => sources.fields_agree, ?_⟩
  · intro name known
    obtain ⟨fields, table, -, each⟩ := table_of_leadsTo [name] (sources.root_leadsTo known)
    exact ⟨fields, table, fun key setting => (each key).trans (sources.root_at? setting).1⟩
  · intro other address setting user workspace environment
    rw [(other.root_at? setting).1, (sources.root_at? setting).1, Sources.value?, Sources.value?,
      user, workspace, environment]

/-- The user and the workspace have a file each. -/
def cascadeTree : FileTree where
  nodes := [
    ([], .directory),
    (["etc"], .directory),
    (["etc", "eventline"], .directory),
    (["etc", "eventline", "config.toml"], .file "[queue]\nbatch_size = 20\nconcurrency = 2\n"),
    (["work"], .directory),
    (["work", "eventline.toml"], .file
      "[queue]\nbatch_size = 30\n[logging.modules]\nstore = \"debug\"\nqueue = \"warn\"\n")]

def cascadeVariables : Environment := [
  ("XDG_CONFIG_HOME", "/etc"),
  ("Eventline__Queue__Concurrency", "8"),
  ("EVENTLINE__LOGGING__MODULES__STORE", "trace")]

theorem cascadeVariables_wellShaped : cascadeVariables.WellShaped := by
  refine List.forall_mem_cons.mpr ⟨?_, List.forall_mem_cons.mpr ⟨?_,
    List.forall_mem_singleton.mpr ?_⟩⟩
  · intro key found
    have other : Environment.settingKey? "XDG_CONFIG_HOME" = none := by decide +kernel
    rw [other] at found
    cases found
  · intro key found known
    exact ⟨["queue", "concurrency"], .field (by decide) (by decide), by decide +kernel⟩
  · intro key found known
    exact ⟨["logging", "modules", "store"], .level "store", by decide +kernel⟩

/-- The concurrency is taken from a variable, the size of batches from the workspace, and the delay
from the defaults. One level is taken from a variable, and another one from the workspace. -/
theorem cascade_is_read_from_nearest :
    ∃ sources : Sources,
      sources.environment = cascadeVariables ∧
      userLayer? cascadeTree cascadeVariables = some sources.user ∧
      presentLayer? cascadeTree (workspaceFile "/work") = some sources.workspace ∧
      (∃ fields, (sources.root.at? ["queue"]).getD (.table []) = .table fields ∧
        (fields.lookup "concurrency").bind (toUnsigned? 64) = some 8 ∧
        (fields.lookup "batch_size").bind (toUnsigned? 64) = some 30 ∧
        (fields.lookup "batch_delay_ms").bind (toUnsigned? 64) = some 1000) ∧
      ∃ levels, (sources.root.at? ["logging", "modules"]).getD (.table []) = .table levels ∧
        (levels.lookup "store").bind toText? = some "trace" ∧
        (levels.lookup "queue").bind toText? = some "warn" := by
  have userFound : (userLayer? cascadeTree cascadeVariables).any (fun layer =>
      decide (layer.WellShaped ∧ (layer.given? ["queue", "batch_delay_ms"]).isNone)) = true := by
    decide +kernel
  have workspaceFound : (presentLayer? cascadeTree (workspaceFile "/work")).any (fun layer =>
      decide (layer.WellShaped ∧
        (layer.given? ["queue", "batch_size"]).bind (toUnsigned? 64) = some 30 ∧
        (layer.given? ["queue", "batch_delay_ms"]).isNone ∧
        (layer.given? ["logging", "modules", "queue"]).bind toText? = some "warn")) = true := by
    decide +kernel
  obtain ⟨user, userRead, userHas⟩ := (Option.any_eq_true _ _).mp userFound
  obtain ⟨own, ownRead, ownHas⟩ := (Option.any_eq_true _ _).mp workspaceFound
  obtain ⟨userShaped, userDelay⟩ := of_decide_eq_true userHas
  obtain ⟨ownShaped, ownSize, ownDelay, ownLevel⟩ := of_decide_eq_true ownHas
  let sources : Sources :=
    ⟨user, own, cascadeVariables, userShaped, ownShaped, cascadeVariables_wellShaped⟩
  obtain ⟨-, sections, ⟨levels, levelsTable, -, levelOf⟩, -, -⟩ :=
    settings_come_from_the_nearest_source cascadeTree "/work" sources userRead ownRead
  obtain ⟨fields, fieldsTable, fieldOf⟩ := sections "queue" (by decide)
  have given {α : Type} {read : SettingValue → Option α} {result : α}
      {first rest : Option SettingValue} (there : first.bind read = some result) :
      (first.or rest).bind read = some result := by
    cases first with
    | none => cases there
    | some value => exact there
  have missing {first : Option SettingValue} (rest : Option SettingValue)
      (absent : first.isNone = true) : first.or rest = rest :=
    Option.or_eq_right_of_none (Option.isNone_iff_eq_none.mp absent)
  have unset : ∀ address ∈ [["queue", "batch_size"], ["queue", "batch_delay_ms"],
      ["logging", "modules", "queue"]], (cascadeVariables.value? address).isNone = true := by
    decide +kernel
  simp only [List.forall_mem_cons] at unset
  have number : (cascadeVariables.value? ["queue", "concurrency"]).bind (toUnsigned? 64) =
      some 8 := by
    decide +kernel
  have level : (cascadeVariables.value? ["logging", "modules", "store"]).bind toText? =
      some "trace" := by
    decide +kernel
  refine ⟨sources, rfl, userRead, ownRead, ⟨fields, fieldsTable, ?_, ?_, ?_⟩,
    levels, levelsTable, ?_, ?_⟩
  · rw [fieldOf _ (.field (by decide) (by decide)), Sources.value?]
    exact given number
  · rw [fieldOf _ (.field (by decide) (by decide)), Sources.value?, missing _ unset.1]
    exact given ownSize
  · rw [fieldOf _ (.field (by decide) (by decide)), Sources.value?, missing _ unset.2.1,
      missing _ ownDelay, missing _ userDelay]
    decide +kernel
  · rw [levelOf, Sources.value?]
    exact given level
  · rw [levelOf, Sources.value?, missing _ unset.2.2.1]
    exact given ownLevel

end Settings

end Telemetry
