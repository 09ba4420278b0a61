import Mathlib.Data.List.Dedup
import Telemetry.Plugin.Chain

/-!
Contract: which plugins a chain holds, and in which order.

Owns:
- `PluginChain.LastOccurrences`: of a list of plugins, those at the positions
  where a name occurs for the last time;
- `PluginChain.Edited`, what any sequence of operations makes of a chain;
- for each operation, what it does when it succeeds and when it fails;
- the theorem that ties a chain's contents to names and positions.

The operations find a plugin by the first one with its name. Names are distinct
in every chain that can be reached, so that the first one is the only one, and
what the operations do can be said without positions of the plugins that stay.

Does not own: what the hooks of the plugins do; see `Proofs.Plugin.Hooks`.
-/

namespace Telemetry

/-- Two plugins can stand in one chain. -/
def Plugin.Apart (first second : Plugin) : Prop :=
  first.name ≠ second.name

instance : DecidableRel Plugin.Apart := fun first second =>
  inferInstanceAs (Decidable (first.name ≠ second.name))

namespace PluginChain

/-! ### Construction -/

/-- A name occurs for the last time at this position. -/
def OccursLast (plugins : List Plugin) (position : Nat) : Prop :=
  ∃ plugin, plugins[position]? = some plugin ∧
    ∀ later other, position < later → plugins[later]? = some other → plugin.Apart other

/-- The kept plugins are those at the positions where a name occurs for the last time, in the
order of these positions. -/
def LastOccurrences (plugins kept : List Plugin) : Prop :=
  ∃ positions : List Nat, positions.Pairwise (· < ·) ∧
    (∀ position, position ∈ positions ↔ OccursLast plugins position) ∧
    kept.map some = positions.map fun position => plugins[position]?

theorem occursLast_zero (plugin : Plugin) (plugins : List Plugin) :
    OccursLast (plugin :: plugins) 0 ↔ ∀ other ∈ plugins, plugin.Apart other := by
  constructor
  · rintro ⟨last, here, apart⟩ other member
    obtain rfl : plugin = last := Option.some.inj here
    obtain ⟨index, present⟩ := List.getElem?_of_mem member
    exact apart (index + 1) other (Nat.succ_pos index) present
  · intro apart
    refine ⟨plugin, rfl, ?_⟩
    rintro (_ | later) other after present
    · exact absurd after (Nat.lt_irrefl 0)
    · exact apart other (List.mem_of_getElem? present)

theorem occursLast_succ (plugin : Plugin) (plugins : List Plugin) (position : Nat) :
    OccursLast (plugin :: plugins) (position + 1) ↔ OccursLast plugins position := by
  constructor
  · rintro ⟨last, present, apart⟩
    exact ⟨last, present, fun later other after => apart (later + 1) other (Nat.succ_lt_succ after)⟩
  · rintro ⟨last, present, apart⟩
    refine ⟨last, present, ?_⟩
    rintro (_ | later) other after
    · exact absurd after (Nat.not_lt_zero _)
    · exact apart later other (Nat.lt_of_succ_lt_succ after)

/-- Filtering by what comes later keeps the last plugin of each name. -/
theorem forall_mem_pwFilter_apart (plugin : Plugin) (plugins : List Plugin) :
    (∀ other ∈ plugins.pwFilter Plugin.Apart, plugin.Apart other) ↔
      ∀ other ∈ plugins, plugin.Apart other := by
  refine List.forall_mem_pwFilter ?_ plugin plugins
  intro first second third apart
  by_cases same : first.name = second.name
  · exact .inr fun equal => apart (same.trans equal)
  · exact .inl same

theorem lastOccurrences_pwFilter (plugins : List Plugin) :
    LastOccurrences plugins (plugins.pwFilter Plugin.Apart) := by
  induction plugins with
  | nil => exact ⟨[], .nil, by simp [OccursLast], rfl⟩
  | cons plugin plugins inductionHypothesis =>
      obtain ⟨positions, increasing, exactly, kept⟩ := inductionHypothesis
      have shifted : (positions.map (· + 1)).Pairwise (· < ·) :=
        increasing.map _ fun _ _ => Nat.succ_lt_succ
      have located (position : Nat) : position + 1 ∈ positions.map (· + 1) ↔
          OccursLast (plugin :: plugins) (position + 1) := by
        rw [occursLast_succ, ← exactly]
        simp
      by_cases fresh : ∀ other ∈ plugins, plugin.Apart other
      · rw [List.pwFilter_cons_of_pos ((forall_mem_pwFilter_apart plugin plugins).mpr fresh)]
        refine ⟨0 :: positions.map (· + 1), ?_, ?_, ?_⟩
        · exact List.pairwise_cons.mpr ⟨by simp, shifted⟩
        · rintro (_ | position)
          · simpa [occursLast_zero] using fresh
          · simpa using located position
        · simpa [Function.comp_def] using kept
      · rw [List.pwFilter_cons_of_neg (mt (forall_mem_pwFilter_apart plugin plugins).mp fresh)]
        refine ⟨positions.map (· + 1), shifted, ?_, ?_⟩
        · rintro (_ | position)
          · simpa [occursLast_zero] using fresh
          · exact located position
        · simpa [Function.comp_def] using kept

/-- Of the plugins kept so far, those stay whose name does not come again. -/
theorem foldl_keepLast (kept plugins : List Plugin) :
    plugins.foldl keepLast kept =
      (kept.filter fun plugin => plugins.all fun other => plugin.Apart other) ++
        plugins.pwFilter Plugin.Apart := by
  induction plugins generalizing kept with
  | nil => simp
  | cons plugin plugins inductionHypothesis =>
      have earlier : (kept.filter fun existing => existing.name ≠ plugin.name).filter
            (fun existing => plugins.all fun other => existing.Apart other) =
          kept.filter fun existing =>
            (plugin :: plugins).all fun other => existing.Apart other := by
        rw [List.filter_filter]
        exact List.filter_congr fun existing _ => Bool.and_comm _ _
      rw [List.foldl_cons, inductionHypothesis, keepLast, List.filter_append, earlier,
        List.append_assoc, List.filter_cons, List.filter_nil]
      by_cases fresh : ∀ other ∈ plugins, plugin.Apart other
      · rw [List.pwFilter_cons_of_pos ((forall_mem_pwFilter_apart plugin plugins).mpr fresh),
          if_pos (by simpa using fresh), List.singleton_append]
      · rw [List.pwFilter_cons_of_neg (mt (forall_mem_pwFilter_apart plugin plugins).mp fresh),
          if_neg (by simpa using fresh), List.nil_append]

theorem make_plugins (plugins : List Plugin) (host : PluginHost) :
    (make plugins host).plugins = plugins.pwFilter Plugin.Apart := by
  simp [make, foldl_keepLast]

theorem make_names_nodup (plugins : List Plugin) (host : PluginHost) :
    (make plugins host).names.Nodup := by
  rw [names, make_plugins, List.Nodup, List.pairwise_map]
  exact List.pairwise_pwFilter plugins

/-! ### Operations -/

/-- The plugins with one more at a place. -/
def inserted (plugins : List Plugin) (place : Nat) (plugin : Plugin) : List Plugin :=
  plugins.take place ++ plugin :: plugins.drop place

theorem insertIdx_eq_inserted {plugins : List Plugin} {place : Nat} (plugin : Plugin)
    (inRange : place ≤ plugins.length) :
    plugins.insertIdx place plugin = inserted plugins place plugin := by
  induction place generalizing plugins with
  | zero => rfl
  | succ place inductionHypothesis =>
      cases plugins with
      | nil => exact absurd inRange (Nat.not_succ_le_zero place)
      | cons first plugins =>
          exact congrArg (first :: ·) (inductionHypothesis (Nat.le_of_succ_le_succ inRange))

theorem inserted_front (front back : List Plugin) (plugin : Plugin) :
    inserted (front ++ back) front.length plugin = front ++ plugin :: back := by
  simp [inserted]

variable (chain : PluginChain) (scene : Scene)

/-- The first plugin with a name, and what stands before and behind it. -/
structure FoundAt (name : String) (front : List Plugin) (plugin : Plugin) (back : List Plugin) :
    Prop where
  split : chain.plugins = front ++ plugin :: back
  named : plugin.name = name
  first : ∀ earlier ∈ front, earlier.name ≠ name

variable {chain} in
theorem FoundAt.get {name : String} {front back : List Plugin} {plugin : Plugin}
    (found : chain.FoundAt name front plugin back) : chain.get name = .ok plugin := by
  have here : chain.plugins.find? (fun plugin => plugin.name = name) = some plugin :=
    List.find?_eq_some_iff_append.mpr
      ⟨decide_eq_true found.named, front, back, found.split, by simpa using found.first⟩
  rw [PluginChain.get, here]

variable {chain} in
theorem FoundAt.position? {name : String} {front back : List Plugin} {plugin : Plugin}
    (found : chain.FoundAt name front plugin back) :
    chain.position? name = some front.length := by
  have nowhere : front.findIdx? (fun plugin => plugin.name = name) = none := by
    simpa using found.first
  rw [PluginChain.position?, found.split, List.findIdx?_append, nowhere]
  simp [List.findIdx?_cons, found.named]

/-- A name is found, or no plugin has it. -/
theorem found_or_absent (name : String) :
    (∃ front plugin back, chain.FoundAt name front plugin back) ∨
      name ∉ chain.names ∧ chain.position? name = none ∧
        chain.get name = .error (.pluginNotFound name) := by
  cases search : chain.plugins.find? (fun plugin => plugin.name = name) with
  | some plugin =>
      obtain ⟨named, front, back, split, first⟩ := List.find?_eq_some_iff_append.mp search
      exact .inl ⟨front, plugin, back, split, of_decide_eq_true named, by simpa using first⟩
  | none =>
      have nowhere : ∀ plugin ∈ chain.plugins, plugin.name ≠ name := by
        simpa using search
      refine .inr ⟨?_, ?_, by rw [PluginChain.get, search]⟩
      · rintro member
        obtain ⟨plugin, pluginMember, named⟩ := List.mem_map.mp member
        exact nowhere plugin pluginMember named
      · simpa [position?] using nowhere

theorem has_iff (name : String) : chain.has name = true ↔ name ∈ chain.names := by
  rw [has, position?, List.findIdx?_isSome]
  simp [names]

/-- An operation succeeds with a value exactly under a condition, and leaves this chain then. -/
def Change.Gives {α : Type} (change : Change α) (value : α) (condition : Prop)
    (after : PluginChain) : Prop :=
  (change.result = .ok value ↔ condition) ∧ (change.result = .ok value → change.chain = after)

theorem Change.Gives.of_ok {α : Type} {change : Change α} {value : α} {condition : Prop}
    {after : PluginChain} (succeeded : change.result = .ok value) (holds : condition)
    (chain : change.chain = after) : change.Gives value condition after :=
  ⟨⟨fun _ => holds, fun _ => succeeded⟩, fun _ => chain⟩

theorem Change.Gives.of_error {α : Type} {change : Change α} {error : TrackerError}
    (failed : change.result = .error error) {condition : Prop} (fails : ¬condition) (value : α)
    (after : PluginChain) : change.Gives value condition after := by
  rw [Gives, failed]
  refine ⟨⟨?_, fun holds => absurd holds fails⟩, ?_⟩
  · intro impossible
    cases impossible
  · intro impossible
    cases impossible

/-- Adding inserts the plugin at its place, or else changes nothing. -/
theorem add_cases (plugin : Plugin) (index : Option Nat) :
    let added := chain.add plugin index scene
    let place := index.getD chain.plugins.length
    ((plugin.name ∉ chain.names ∧ place ≤ chain.plugins.length) ∧ added.result = .ok () ∧
        added.chain = { chain with plugins := inserted chain.plugins place plugin }) ∨
      ¬(plugin.name ∉ chain.names ∧ place ≤ chain.plugins.length) ∧
        (∃ error, added.result = .error error) ∧ added.chain = chain := by
  intro added place
  by_cases taken : chain.has plugin.name = true
  · refine .inr ⟨?_, ⟨.pluginAlreadyExists plugin.name, ?_⟩, ?_⟩
    · exact fun accepted => accepted.1 ((chain.has_iff plugin.name).mp taken)
    · simp [added, add, taken]
    · simp [added, add, taken]
  · have fresh : plugin.name ∉ chain.names := mt (chain.has_iff plugin.name).mpr taken
    by_cases inRange : place ≤ chain.plugins.length
    · have notBeyond : ¬chain.plugins.length < place := Nat.not_lt.mpr inRange
      refine .inl ⟨⟨fresh, inRange⟩, ?_, ?_⟩
      · simp [added, add, taken, place, notBeyond]
      · rw [← insertIdx_eq_inserted plugin inRange]
        simp [added, add, taken, place, notBeyond]
    · have beyond : chain.plugins.length < place := Nat.not_le.mp inRange
      refine .inr ⟨fun accepted => inRange accepted.2,
        ⟨.invalidPluginIndex place chain.plugins.length, ?_⟩, ?_⟩
      · simp [added, add, taken, place, beyond]
      · simp [added, add, taken, place, beyond]

theorem add_gives (plugin : Plugin) (index : Option Nat) :
    (chain.add plugin index scene).Gives ()
      (plugin.name ∉ chain.names ∧ index.getD chain.plugins.length ≤ chain.plugins.length)
      { chain with
        plugins := inserted chain.plugins (index.getD chain.plugins.length) plugin } := by
  rcases chain.add_cases scene plugin index with
    ⟨accepted, succeeded, after⟩ | ⟨refused, ⟨error, failed⟩, -⟩
  · exact .of_ok succeeded accepted after
  · exact .of_error failed refused _ _

variable {chain} in
theorem FoundAt.remove {name : String} {front back : List Plugin} {plugin : Plugin}
    (found : chain.FoundAt name front plugin back) :
    (chain.remove name scene).result = .ok plugin ∧
      (chain.remove name scene).chain = { chain with plugins := front ++ back } := by
  have erased : chain.plugins.eraseIdx front.length = front ++ back := by
    rw [found.split, List.eraseIdx_append_of_length_le (Nat.le_refl _), Nat.sub_self]
    rfl
  rw [PluginChain.remove, found.position?, found.get]
  exact ⟨rfl, by simp [erased]⟩

theorem remove_of_absent {name : String} (absent : chain.position? name = none) :
    (chain.remove name scene).result = .error (.pluginNotFound name) ∧
      (chain.remove name scene).chain = chain := by
  rw [PluginChain.remove, absent]
  exact ⟨rfl, rfl⟩

variable {chain} in
/-- Replacing is adding to the chain without the old plugin. -/
theorem FoundAt.replace {front back : List Plugin} {plugin old : Plugin}
    (found : chain.FoundAt plugin.name front old back) (index : Option Nat) :
    chain.replace plugin index scene =
      { chain with plugins := front ++ back }.add plugin (some (index.getD front.length))
        (chain.remove plugin.name scene).scene := by
  rw [PluginChain.replace, found.position?]
  dsimp only
  rw [(found.remove scene).2]

theorem replace_of_absent {plugin : Plugin} (absent : chain.position? plugin.name = none)
    (index : Option Nat) :
    (chain.replace plugin index scene).result = .error (.pluginNotFound plugin.name) ∧
      (chain.replace plugin index scene).chain = chain := by
  rw [PluginChain.replace, absent]
  exact ⟨rfl, rfl⟩

/-! ### Distinct names -/

/-- What any sequence of operations, failing ones among them, makes of a chain. -/
inductive Edited (start : PluginChain) : PluginChain → Prop where
  | start : Edited start start
  | add {chain : PluginChain} (edited : Edited start chain) (plugin : Plugin) (index : Option Nat)
      (scene : Scene) : Edited start (chain.add plugin index scene).chain
  | remove {chain : PluginChain} (edited : Edited start chain) (name : String) (scene : Scene) :
      Edited start (chain.remove name scene).chain
  | replace {chain : PluginChain} (edited : Edited start chain) (plugin : Plugin)
      (index : Option Nat) (scene : Scene) :
      Edited start (chain.replace plugin index scene).chain

section Distinct

variable {chain}

theorem add_names_nodup (distinct : chain.names.Nodup) (plugin : Plugin) (index : Option Nat) :
    (chain.add plugin index scene).chain.names.Nodup := by
  rcases chain.add_cases scene plugin index with ⟨⟨fresh, -⟩, -, after⟩ | ⟨-, -, after⟩
  · rw [after, names, inserted, List.map_append, List.map_cons, List.nodup_middle,
      ← List.map_append, List.take_append_drop]
    exact List.nodup_cons.mpr ⟨fresh, distinct⟩
  · rw [after]
    exact distinct

theorem FoundAt.names_nodup {name : String} {front back : List Plugin} {plugin : Plugin}
    (found : chain.FoundAt name front plugin back) (distinct : chain.names.Nodup) :
    name ∉ (front ++ back).map Plugin.name ∧ ((front ++ back).map Plugin.name).Nodup := by
  rw [names, found.split, List.map_append, List.map_cons, List.nodup_middle, ← List.map_append,
    List.nodup_cons, found.named] at distinct
  exact distinct

theorem remove_names_nodup (distinct : chain.names.Nodup) (name : String) :
    (chain.remove name scene).chain.names.Nodup := by
  rcases chain.found_or_absent name with ⟨front, plugin, back, found⟩ | ⟨-, absent, -⟩
  · rw [(found.remove scene).2]
    exact (found.names_nodup distinct).2
  · rw [(chain.remove_of_absent scene absent).2]
    exact distinct

theorem replace_names_nodup (distinct : chain.names.Nodup) (plugin : Plugin)
    (index : Option Nat) : (chain.replace plugin index scene).chain.names.Nodup := by
  rcases chain.found_or_absent plugin.name with ⟨front, old, back, found⟩ | ⟨-, absent, -⟩
  · rw [found.replace scene index]
    have others : ({ chain with plugins := front ++ back } : PluginChain).names.Nodup :=
      (found.names_nodup distinct).2
    exact add_names_nodup _ others plugin _
  · rw [(chain.replace_of_absent scene absent index).2]
    exact distinct

theorem Edited.names_nodup {start : PluginChain} (edited : Edited start chain)
    (distinct : start.names.Nodup) : chain.names.Nodup := by
  induction edited with
  | start => exact distinct
  | add _ plugin index scene inductionHypothesis =>
      exact add_names_nodup scene inductionHypothesis plugin index
  | remove _ name scene inductionHypothesis =>
      exact remove_names_nodup scene inductionHypothesis name
  | replace _ plugin index scene inductionHypothesis =>
      exact replace_names_nodup scene inductionHypothesis plugin index

/-- With distinct names, the rest of a chain is what has another name. -/
theorem FoundAt.others {name : String} {front back : List Plugin} {plugin : Plugin}
    (found : chain.FoundAt name front plugin back) (distinct : chain.names.Nodup) :
    ∀ other ∈ front ++ back, other.name ≠ name := by
  intro other member named
  exact (found.names_nodup distinct).1 (List.mem_map.mpr ⟨other, member, named⟩)

theorem FoundAt.filter_eq {name : String} {front back : List Plugin} {plugin : Plugin}
    (found : chain.FoundAt name front plugin back) (distinct : chain.names.Nodup) :
    (chain.plugins.filter fun other => other.name ≠ name) = front ++ back := by
  have kept : (front ++ back).filter (fun other => other.name ≠ name) = front ++ back :=
    List.filter_eq_self.mpr fun other member =>
      decide_eq_true (found.others distinct other member)
  rw [List.filter_append] at kept
  rw [found.split, List.filter_append, List.filter_cons_of_neg (by simp [found.named]), kept]

theorem FoundAt.map_eq {front back : List Plugin} {plugin old : Plugin}
    (found : chain.FoundAt plugin.name front old back) (distinct : chain.names.Nodup) :
    (chain.plugins.map fun other => if other.name = plugin.name then plugin else other) =
      front ++ plugin :: back := by
  have others := found.others distinct
  rw [List.forall_mem_append] at others
  have kept (part : List Plugin) (apart : ∀ other ∈ part, other.name ≠ plugin.name) :
      (part.map fun other => if other.name = plugin.name then plugin else other) = part :=
    (List.map_congr_left fun other member => if_neg (apart other member)).trans (List.map_id' part)
  rw [found.split, List.map_append, List.map_cons, kept front others.1, kept back others.2,
    if_pos found.named]

theorem get_eq_ok_iff (distinct : chain.names.Nodup) (name : String) (plugin : Plugin) :
    chain.get name = .ok plugin ↔ plugin ∈ chain.plugins ∧ plugin.name = name := by
  rcases chain.found_or_absent name with ⟨front, first, back, found⟩ | ⟨absent, -, failed⟩
  · rw [found.get, found.split]
    constructor
    · rintro ⟨⟩
      exact ⟨by simp, found.named⟩
    · rintro ⟨member, named⟩
      by_cases same : plugin = first
      · rw [same]
      · refine absurd named (found.others distinct plugin ?_)
        simpa [same] using member
  · rw [failed]
    constructor
    · intro impossible
      cases impossible
    · rintro ⟨member, rfl⟩
      exact absurd (List.mem_map_of_mem member) absent

/-- A removal gives the plugin of the name, and all others stay. -/
theorem remove_gives (distinct : chain.names.Nodup) (name : String) (plugin : Plugin) :
    (chain.remove name scene).Gives plugin (plugin ∈ chain.plugins ∧ plugin.name = name)
      { chain with plugins := chain.plugins.filter fun other => other.name ≠ name } := by
  rw [← get_eq_ok_iff distinct]
  rcases chain.found_or_absent name with ⟨front, old, back, found⟩ | ⟨-, nowhere, failed⟩
  · obtain ⟨succeeded, after⟩ := found.remove scene
    rw [found.get, found.filter_eq distinct]
    exact ⟨by rw [succeeded], fun _ => after⟩
  · refine .of_error (chain.remove_of_absent scene nowhere).1 ?_ _ _
    rw [failed]
    intro impossible
    cases impossible

/-- A replacement at a place goes into what is left without the old plugin. -/
theorem replace_at_gives (distinct : chain.names.Nodup) (plugin : Plugin) (place : Nat) :
    (chain.replace plugin (some place) scene).Gives ()
      (plugin.name ∈ chain.names ∧ place < chain.plugins.length)
      { chain with
        plugins := inserted (chain.plugins.filter fun other => other.name ≠ plugin.name) place
          plugin } := by
  rcases chain.found_or_absent plugin.name with ⟨front, old, back, found⟩ | ⟨absent, nowhere, -⟩
  · obtain ⟨succeeds, contents⟩ := add_gives { chain with plugins := front ++ back }
      (chain.remove plugin.name scene).scene plugin (some place)
    have present : plugin.name ∈ chain.names :=
      List.mem_map.mpr ⟨old, by simp [found.split], found.named⟩
    have length : chain.plugins.length = (front ++ back).length + 1 := by
      simp [found.split, Nat.add_assoc]
    rw [found.filter_eq distinct, found.replace scene, length, Nat.lt_succ_iff]
    refine ⟨succeeds.trans ⟨?_, ?_⟩, contents⟩
    · exact fun accepted => ⟨present, accepted.2⟩
    · exact fun accepted => ⟨(found.names_nodup distinct).1, accepted.2⟩
  · exact .of_error (chain.replace_of_absent scene nowhere _).1 (fun accepted => absent accepted.1)
      _ _

/-- A replacement without a place takes that of the old plugin. -/
theorem replace_in_place_gives (distinct : chain.names.Nodup) (plugin : Plugin) :
    (chain.replace plugin none scene).Gives () (plugin.name ∈ chain.names)
      { chain with
        plugins := chain.plugins.map fun other =>
          if other.name = plugin.name then plugin else other } := by
  rcases chain.found_or_absent plugin.name with ⟨front, old, back, found⟩ | ⟨absent, nowhere, -⟩
  · have samePlace : chain.replace plugin none scene =
        chain.replace plugin (some front.length) scene := by
      rw [found.replace scene, found.replace scene]
      rfl
    have inside : front.length < chain.plugins.length := by simp [found.split]
    obtain ⟨succeeds, contents⟩ := replace_at_gives scene distinct plugin front.length
    rw [found.filter_eq distinct, inserted_front] at contents
    rw [samePlace, found.map_eq distinct]
    exact ⟨succeeds.trans (and_iff_left inside), contents⟩
  · exact .of_error (chain.replace_of_absent scene nowhere _).1 absent _ _

end Distinct

/-- What can be relied on in a chain: its names are distinct, looking for a name agrees with
having it, and an operation that succeeds changes nothing but the plugin it is about. -/
structure Orderly (chain : PluginChain) : Prop where
  distinct : chain.names.Nodup
  has_iff : ∀ name, chain.has name = true ↔ name ∈ chain.names
  get_iff : ∀ name plugin,
    chain.get name = .ok plugin ↔ plugin ∈ chain.plugins ∧ plugin.name = name
  add : ∀ plugin index scene,
    (chain.add plugin index scene).Gives ()
      (plugin.name ∉ chain.names ∧ index.getD chain.plugins.length ≤ chain.plugins.length)
      { chain with
        plugins := inserted chain.plugins (index.getD chain.plugins.length) plugin }
  remove : ∀ name plugin scene,
    (chain.remove name scene).Gives plugin (plugin ∈ chain.plugins ∧ plugin.name = name)
      { chain with plugins := chain.plugins.filter fun other => other.name ≠ name }
  replace_in_place : ∀ plugin scene,
    (chain.replace plugin none scene).Gives () (plugin.name ∈ chain.names)
      { chain with
        plugins := chain.plugins.map fun other =>
          if other.name = plugin.name then plugin else other }
  replace_at : ∀ plugin place scene,
    (chain.replace plugin (some place) scene).Gives ()
      (plugin.name ∈ chain.names ∧ place < chain.plugins.length)
      { chain with
        plugins := inserted (chain.plugins.filter fun other => other.name ≠ plugin.name) place
          plugin }

/-- A chain is built from the last plugin of each name, in the order of their positions, and
it is orderly after any operations, failing ones among them. -/
theorem chains_keep_one_plugin_for_each_name (plugins : List Plugin) (host : PluginHost) :
    LastOccurrences plugins (make plugins host).plugins ∧
      ∀ chain, Edited (make plugins host) chain → Orderly chain := by
  constructor
  · rw [make_plugins]
    exact lastOccurrences_pwFilter plugins
  · intro chain edited
    have distinct := edited.names_nodup (make_names_nodup plugins host)
    exact {
      distinct
      has_iff := chain.has_iff
      get_iff := get_eq_ok_iff distinct
      add := fun plugin index scene => chain.add_gives scene plugin index
      remove := fun name plugin scene => remove_gives scene distinct name plugin
      replace_in_place := fun plugin scene => replace_in_place_gives scene distinct plugin
      replace_at := fun plugin place scene => replace_at_gives scene distinct plugin place }

/-- A chain that was given two plugins with one name. -/
def retakenChain : PluginChain :=
  make [{ name := "a" }, { name := "b" }, { name := "a", usable := fun _ => false }]
    ⟨"tracker", "app", .notes⟩

/-- A replacement at a place out of range fails and leaves the chain without the plugin. Among
those that come then, one is replaced by another of its name, at the front. -/
theorem replacement_comes_to_the_front :
    ∃ chain, Edited retakenChain chain ∧ chain.plugins = [{ name := "b" }, { name := "c" }] ∧
      (chain.replace { name := "c", usable := fun _ => false } (some 0) {}).result = .ok () ∧
      (chain.replace { name := "c", usable := fun _ => false } (some 0) {}).chain.plugins =
        [{ name := "c", usable := fun _ => false }, { name := "b" }] := by
  have failed : Edited retakenChain _ := Edited.start.replace { name := "a" } (some 9) {}
  have edited := (failed.add { name := "c" } none {}).remove "z" {}
  have orderly := (chains_keep_one_plugin_for_each_name _ _).2 _ edited
  obtain ⟨succeeds, contents⟩ := orderly.replace_at { name := "c", usable := fun _ => false } 0 {}
  have succeeded := succeeds.mpr (by decide)
  refine ⟨_, edited, rfl, succeeded, ?_⟩
  rw [contents succeeded]
  rfl

end PluginChain

end Telemetry
