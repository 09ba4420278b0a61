import Telemetry.Registry

/-!
Contract: the default of a registry.

Owns:
- `Registry.Request`, the calls that change a registry, and what any sequence of
  them leads to;
- `Registry.Coherent`: entries stand in the order of their identifiers, each
  tracker under its own, and there is a registered default as soon as there is
  a tracker;
- that every request keeps a registry coherent, and what can be relied on then.

The default and the entries are changed apart. What keeps them together is that
the first tracker becomes the default, and that a default is deleted only with
the last entry.
-/

namespace Telemetry

namespace Registry

variable {α : Type}

/-! ### Entries -/

/-- Entries that are in order have different identifiers. -/
def Increasing (entries : List (String × α)) : Prop :=
  entries.Pairwise fun left right => left.1 < right.1

theorem contains_iff (registry : Registry α) (id : String) :
    registry.contains id = true ↔ id ∈ registry.ids := by
  rw [contains, find?, List.lookup_isSome_iff, ids, List.mem_map]
  constructor
  · rintro ⟨entry, member, same⟩
    exact ⟨entry, member, (eq_of_beq same).symm⟩
  · rintro ⟨entry, member, rfl⟩
    exact ⟨entry, member, beq_self_eq_true _⟩

theorem find?_eq_none_iff (registry : Registry α) (id : String) :
    registry.find? id = none ↔ id ∉ registry.ids := by
  rw [← contains_iff, contains, Option.not_isSome_iff_eq_none]

/-- In entries that are in order, the one that is found is the only one. -/
theorem find?_eq_some_iff {registry : Registry α} (increasing : Increasing registry.entries)
    {id : String} {tracker : α} :
    registry.find? id = some tracker ↔ (id, tracker) ∈ registry.entries := by
  rw [find?, List.lookup_eq_some_iff]
  constructor
  · rintro ⟨before, after, split, -⟩
    rw [split]
    exact List.mem_append_right _ List.mem_cons_self
  · intro member
    obtain ⟨before, after, split⟩ := List.append_of_mem member
    refine ⟨before, after, split, ?_⟩
    intro entry earlier
    rw [split, Increasing, List.pairwise_append] at increasing
    have smaller : entry.1 < id := increasing.2.2 entry earlier _ List.mem_cons_self
    rw [bne_iff_ne]
    rintro rfl
    exact String.lt_irrefl _ smaller

theorem insertEntry_perm (entry : String × α) (entries : List (String × α)) :
    (insertEntry entry entries).Perm (entry :: entries) := by
  induction entries with
  | nil => exact .refl _
  | cons first rest inductionHypothesis =>
      unfold insertEntry
      split
      · exact .refl _
      · exact (inductionHypothesis.cons first).trans (.swap entry first rest)

/-- A new entry comes after all that have a smaller identifier and before all others. -/
theorem insertEntry_increasing {entry : String × α} {entries : List (String × α)}
    (increasing : Increasing entries) (fresh : entry.1 ∉ entries.map Prod.fst) :
    Increasing (insertEntry entry entries) := by
  unfold Increasing at increasing ⊢
  induction increasing with
  | nil => exact List.pairwise_singleton _ _
  | @cons first rest before increasing inductionHypothesis =>
      rw [List.map_cons, List.mem_cons, not_or] at fresh
      unfold insertEntry
      split
      next smaller =>
        refine .cons ?_ (.cons before increasing)
        rw [List.forall_mem_cons]
        exact ⟨smaller, fun other member => String.lt_trans smaller (before other member)⟩
      next notSmaller =>
        have greater : first.1 < entry.1 :=
          Std.lt_of_le_of_ne (String.not_lt.mp notSmaller) (Ne.symm fresh.1)
        refine .cons ?_ (inductionHypothesis fresh.2)
        intro other member
        rcases List.mem_cons.mp ((insertEntry_perm entry rest).subset member) with rfl | old
        · exact greater
        · exact before other old

/-! ### Requests -/

/-- A call that changes a registry. A tracker is registered under its own identifier. -/
inductive Request (α : Type) where
  | add (tracker : α)
  | delete (id : String)
  | setDefault (id : String)

variable (identify : α → String)

/-- The registry after a request, whether it was granted or refused. -/
def handle (registry : Registry α) : Request α → Registry α
  | .add tracker => (registry.add (identify tracker) tracker).2
  | .delete id => (registry.delete id).2
  | .setDefault id => (registry.setDefault id).2

/-- What requests make of a new registry. -/
def afterRequests (requests : List (Request α)) : Registry α :=
  requests.foldl (handle identify) {}

/-! ### What each request does -/

section Effects

variable {registry : Registry α} {id : String} {tracker stored : α}

theorem add_of_taken (found : registry.find? id = some stored) :
    registry.add id tracker = (stored, registry) := by
  rw [add, found]

theorem add_of_fresh (fresh : id ∉ registry.ids) :
    registry.add id tracker = (tracker, {
      entries := insertEntry (id, tracker) registry.entries
      defaultId := some (registry.defaultId.getD id) }) := by
  rw [add, (find?_eq_none_iff registry id).mpr fresh]

/-- A deletion is refused and changes nothing, or it removes an entry, which is the default
only if it is the last one. -/
theorem delete_cases (registry : Registry α) (id : String) :
    (∃ error, registry.delete id = (.error error, registry) ∧
        ∀ tracker, registry.find? id = some tracker →
          registry.defaultId = some id ∧ 1 < registry.length) ∨
      ∃ tracker, registry.find? id = some tracker ∧
        (registry.defaultId = some id → registry.length ≤ 1) ∧
        registry.delete id = (.ok tracker, {
          entries := registry.entries.filter fun entry => entry.1 ≠ id
          defaultId := if registry.defaultId = some id then none else registry.defaultId }) := by
  unfold delete
  cases found : registry.find? id with
  | none => exact .inl ⟨_, rfl, by simp⟩
  | some tracker =>
      by_cases inUse : registry.defaultId = some id ∧ 1 < registry.length
      · exact .inl ⟨_, if_pos inUse, fun _ _ => inUse⟩
      · refine .inr ⟨tracker, rfl, ?_, if_neg inUse⟩
        exact fun isDefault => Nat.not_lt.mp fun others => inUse ⟨isDefault, others⟩

end Effects

/-! ### Coherence -/

/-- The entries are in order, each tracker is under its own identifier, and the default is a
registered one and set exactly if there is any. -/
structure Coherent (registry : Registry α) : Prop where
  increasing : Increasing registry.entries
  own : ∀ entry ∈ registry.entries, identify entry.2 = entry.1
  default_isSome_iff : registry.defaultId.isSome = true ↔ registry.entries ≠ []
  default_mem : ∀ id, registry.defaultId = some id → id ∈ registry.ids

namespace Coherent

variable {identify} {registry : Registry α}

theorem empty : Coherent identify {} where
  increasing := .nil
  own := by simp
  default_isSome_iff := by simp
  default_mem := by simp

theorem insert (coherent : Coherent identify registry) {tracker : α}
    (fresh : identify tracker ∉ registry.ids) :
    Coherent identify {
      entries := insertEntry (identify tracker, tracker) registry.entries
      defaultId := some (registry.defaultId.getD (identify tracker)) } := by
  have inserted := insertEntry_perm (identify tracker, tracker) registry.entries
  have sameIds := inserted.map Prod.fst
  constructor
  · exact insertEntry_increasing coherent.increasing fresh
  · intro entry member
    rcases List.mem_cons.mp (inserted.subset member) with rfl | old
    · rfl
    · exact coherent.own entry old
  · have notEmpty : insertEntry (identify tracker, tracker) registry.entries ≠ [] := by
      intro nothing
      rw [nothing] at inserted
      exact List.cons_ne_nil _ _ inserted.nil_eq.symm
    simpa using notEmpty
  · intro id isDefault
    rw [Option.some.injEq] at isDefault
    rw [ids, sameIds.mem_iff, List.map_cons, List.mem_cons]
    cases before : registry.defaultId with
    | none =>
        rw [before] at isDefault
        exact .inl isDefault.symm
    | some other =>
        rw [before] at isDefault
        exact .inr (isDefault ▸ coherent.default_mem other before)

/-- A registered default that no other entry stands beside. -/
theorem entries_eq_singleton (coherent : Coherent identify registry) {id : String} {tracker : α}
    (found : registry.find? id = some tracker) (alone : registry.length ≤ 1) :
    registry.entries = [(id, tracker)] := by
  have member := (find?_eq_some_iff coherent.increasing).mp found
  obtain ⟨entry, only⟩ := List.length_eq_one_iff.mp
    (Nat.le_antisymm alone (List.length_pos_of_mem member))
  rw [only, List.mem_singleton] at member
  rw [only, member]

theorem erase (coherent : Coherent identify registry) {id : String} {tracker : α}
    (found : registry.find? id = some tracker)
    (free : registry.defaultId = some id → registry.length ≤ 1) :
    Coherent identify {
      entries := registry.entries.filter fun entry => entry.1 ≠ id
      defaultId := if registry.defaultId = some id then none else registry.defaultId } := by
  have member := (find?_eq_some_iff coherent.increasing).mp found
  have increasing := coherent.increasing.sublist
    (List.filter_sublist (p := fun entry => decide (entry.1 ≠ id)))
  have own : ∀ entry ∈ registry.entries.filter fun entry => entry.1 ≠ id,
      identify entry.2 = entry.1 :=
    fun entry kept => coherent.own entry (List.mem_filter.mp kept).1
  by_cases isDefault : registry.defaultId = some id
  · have nothing : registry.entries.filter (fun entry => entry.1 ≠ id) = [] := by
      rw [coherent.entries_eq_singleton found (free isDefault)]
      simp
    rw [if_pos isDefault]
    exact ⟨increasing, own, iff_of_false Bool.false_ne_true (not_not_intro nothing), by simp⟩
  · -- Another tracker is the default, so it stays.
    rw [if_neg isDefault]
    obtain ⟨other, otherDefault⟩ := Option.isSome_iff_exists.mp
      (coherent.default_isSome_iff.mpr (List.ne_nil_of_mem member))
    obtain ⟨entry, entryMember, rfl⟩ := List.mem_map.mp (coherent.default_mem other otherDefault)
    have apart : entry.1 ≠ id := by
      rintro rfl
      exact isDefault otherDefault
    have kept : entry ∈ registry.entries.filter fun entry => entry.1 ≠ id :=
      List.mem_filter.mpr ⟨entryMember, decide_eq_true apart⟩
    refine ⟨increasing, own, ?_, ?_⟩
    · simpa [otherDefault] using List.ne_nil_of_mem kept
    · intro found foundDefault
      rw [otherDefault, Option.some.injEq] at foundDefault
      exact foundDefault ▸ List.mem_map_of_mem kept

theorem setDefault (coherent : Coherent identify registry) {id : String}
    (known : id ∈ registry.ids) : Coherent identify { registry with defaultId := some id } where
  increasing := coherent.increasing
  own := coherent.own
  default_isSome_iff := by
    have notEmpty : registry.entries ≠ [] := by
      intro nothing
      simp [ids, nothing] at known
    simpa using notEmpty
  default_mem := by
    intro other isDefault
    rw [Option.some.injEq] at isDefault
    exact isDefault ▸ known

/-- Every request keeps a registry coherent. -/
theorem handle (coherent : Coherent identify registry) (request : Request α) :
    Coherent identify (registry.handle identify request) := by
  cases request with
  | add tracker =>
      rw [Registry.handle]
      by_cases taken : identify tracker ∈ registry.ids
      · obtain ⟨stored, found⟩ := Option.isSome_iff_exists.mp ((contains_iff _ _).mpr taken)
        rw [add_of_taken found]
        exact coherent
      · rw [add_of_fresh taken]
        exact coherent.insert taken
  | delete id =>
      rw [Registry.handle]
      rcases registry.delete_cases id with ⟨error, refused, -⟩ | ⟨tracker, found, free, deleted⟩
      · rw [refused]
        exact coherent
      · rw [deleted]
        exact coherent.erase found free
  | setDefault id =>
      rw [Registry.handle, Registry.setDefault]
      split
      next known => exact coherent.setDefault ((contains_iff _ _).mp known)
      next => exact coherent

theorem foldl_handle (coherent : Coherent identify registry) (requests : List (Request α)) :
    Coherent identify (requests.foldl (Registry.handle identify) registry) := by
  induction requests generalizing registry with
  | nil => exact coherent
  | cons request requests inductionHypothesis =>
      exact inductionHypothesis (coherent.handle request)

end Coherent

/-! ### What can be relied on -/

/-- The default is set exactly if there is a tracker, and names a registered one. Requests are
refused for the reasons given here and no others, and a refused one changes nothing. -/
structure Dependable (registry : Registry α) : Prop extends Coherent identify registry where
  ids_increasing : registry.ids.Pairwise (· < ·)
  get_default : ∀ tracker, registry.get none = .ok tracker ↔
    registry.defaultId = some (identify tracker) ∧ (identify tracker, tracker) ∈ registry.entries
  get_default_fails : ∀ error, registry.get none = .error error ↔
    registry.entries = [] ∧ error = .noDefaultTracker
  add_taken : ∀ tracker stored, (identify tracker, stored) ∈ registry.entries →
    registry.add (identify tracker) tracker = (stored, registry)
  add_fresh : ∀ tracker, identify tracker ∉ registry.ids →
    (registry.add (identify tracker) tracker).1 = tracker ∧
      (registry.add (identify tracker) tracker).2.entries.Perm
        ((identify tracker, tracker) :: registry.entries) ∧
      (registry.add (identify tracker) tracker).2.defaultId =
        some (registry.defaultId.getD (identify tracker))
  /-- A default goes only as the last tracker. -/
  delete_ok : ∀ id tracker, (registry.delete id).1 = .ok tracker ↔
    (id, tracker) ∈ registry.entries ∧
      (registry.defaultId = some id → registry.entries = [(id, tracker)])
  delete_removes : ∀ id tracker, (registry.delete id).1 = .ok tracker →
    (registry.delete id).2.entries = registry.entries.filter (fun entry => entry.1 ≠ id) ∧
      (registry.delete id).2.defaultId =
        if registry.defaultId = some id then none else registry.defaultId
  delete_refused : ∀ id error, (registry.delete id).1 = .error error →
    (registry.delete id).2 = registry
  setDefault_ok : ∀ id, (registry.setDefault id).1 = .ok () ↔ id ∈ registry.ids
  setDefault_points : ∀ id, id ∈ registry.ids →
    (registry.setDefault id).2 = { registry with defaultId := some id }
  setDefault_refused : ∀ id error, (registry.setDefault id).1 = .error error →
    (registry.setDefault id).2 = registry

namespace Coherent

variable {identify} {registry : Registry α}

theorem get_default_of_some (coherent : Coherent identify registry) {id : String}
    (isDefault : registry.defaultId = some id) :
    ∃ tracker, registry.find? id = some tracker ∧ identify tracker = id ∧
      registry.get none = .ok tracker := by
  have known := (contains_iff _ _).mpr (coherent.default_mem id isDefault)
  obtain ⟨tracker, found⟩ := Option.isSome_iff_exists.mp known
  have member := (find?_eq_some_iff coherent.increasing).mp found
  refine ⟨tracker, found, coherent.own _ member, ?_⟩
  simp only [get, Option.none_or, isDefault, found]

theorem get_default_of_none (isDefault : registry.defaultId = none) :
    registry.get none = .error .noDefaultTracker := by
  simp only [get, Option.none_or, isDefault]

theorem entries_eq_nil_iff (coherent : Coherent identify registry) :
    registry.entries = [] ↔ registry.defaultId = none := by
  rw [← Option.not_isSome_iff_eq_none, coherent.default_isSome_iff, ne_eq, Classical.not_not]

theorem get_default_eq_ok_iff (coherent : Coherent identify registry) (tracker : α) :
    registry.get none = .ok tracker ↔
      registry.defaultId = some (identify tracker) ∧
        (identify tracker, tracker) ∈ registry.entries := by
  cases isDefault : registry.defaultId with
  | none =>
      rw [get_default_of_none isDefault]
      simp
  | some id =>
      obtain ⟨found, isFound, own, got⟩ := coherent.get_default_of_some isDefault
      rw [got, Except.ok.injEq, Option.some.injEq, ← find?_eq_some_iff coherent.increasing]
      constructor
      · rintro rfl
        exact ⟨own.symm, own ▸ isFound⟩
      · rintro ⟨rfl, other⟩
        exact Option.some.inj (isFound.symm.trans other)

theorem get_default_eq_error_iff (coherent : Coherent identify registry) (error : TrackerError) :
    registry.get none = .error error ↔ registry.entries = [] ∧ error = .noDefaultTracker := by
  rw [coherent.entries_eq_nil_iff]
  cases isDefault : registry.defaultId with
  | none =>
      rw [get_default_of_none isDefault, Except.error.injEq]
      simp [eq_comm]
  | some id =>
      obtain ⟨found, -, -, got⟩ := coherent.get_default_of_some isDefault
      rw [got]
      simp

theorem delete_eq_ok_iff (coherent : Coherent identify registry) (id : String) (tracker : α) :
    (registry.delete id).1 = .ok tracker ↔
      (id, tracker) ∈ registry.entries ∧
        (registry.defaultId = some id → registry.entries = [(id, tracker)]) := by
  rw [← find?_eq_some_iff coherent.increasing]
  rcases registry.delete_cases id with ⟨error, deleted, refused⟩ | ⟨found, isFound, free, deleted⟩
  · rw [deleted]
    refine iff_of_false (by simp) ?_
    rintro ⟨isFound, free⟩
    obtain ⟨isDefault, others⟩ := refused tracker isFound
    simp [length, free isDefault] at others
  · rw [deleted, Except.ok.injEq]
    constructor
    · rintro rfl
      exact ⟨isFound, fun isDefault => coherent.entries_eq_singleton isFound (free isDefault)⟩
    · rintro ⟨other, -⟩
      exact Option.some.inj (isFound.symm.trans other)

theorem dependable (coherent : Coherent identify registry) : Dependable identify registry where
  toCoherent := coherent
  ids_increasing := List.pairwise_map.mpr coherent.increasing
  get_default := coherent.get_default_eq_ok_iff
  get_default_fails := coherent.get_default_eq_error_iff
  add_taken tracker stored member :=
    add_of_taken ((find?_eq_some_iff coherent.increasing).mpr member)
  add_fresh tracker fresh := by
    rw [add_of_fresh fresh]
    exact ⟨rfl, insertEntry_perm _ _, rfl⟩
  delete_ok := coherent.delete_eq_ok_iff
  delete_removes id tracker granted := by
    rcases registry.delete_cases id with ⟨error, deleted, -⟩ | ⟨found, -, -, deleted⟩
    · rw [deleted] at granted
      cases granted
    · rw [deleted]
      exact ⟨rfl, rfl⟩
  delete_refused id error refused := by
    rcases registry.delete_cases id with ⟨_, deleted, -⟩ | ⟨found, -, -, deleted⟩
    · rw [deleted]
    · rw [deleted] at refused
      cases refused
  setDefault_ok id := by
    rw [← contains_iff, Registry.setDefault]
    split <;> simp_all
  setDefault_points id known := by
    rw [Registry.setDefault, if_pos ((contains_iff _ _).mpr known)]
  setDefault_refused id error refused := by
    unfold Registry.setDefault at refused ⊢
    split at refused
    · cases refused
    · rename_i unknown
      rw [if_neg unknown]

end Coherent

/-- After any requests, granted or refused, a new registry has a default exactly if it has a
tracker; the default is a registered one, every tracker is under its own identifier, and the
identifiers increase. So looking for the default fails only in an empty registry, for want of
one; adding a tracker whose identifier is taken changes nothing and gives the stored one; a
refused request changes nothing; and the default is deleted only as the last tracker. -/
theorem default_names_a_registered_tracker (requests : List (Request α)) :
    Dependable identify (afterRequests identify requests) :=
  (Coherent.empty.foldl_handle requests).dependable

/-- The first tracker is the default and cannot go. Once the default is another one it can, and
the last one takes the default with it. -/
example :
    let requests : List (Request String) :=
      [.setDefault "b", .add "b", .add "c", .add "a", .delete "b", .setDefault "c", .delete "b"]
    (afterRequests id requests).ids = ["a", "c"] ∧
      (afterRequests id requests).defaultId = some "c" ∧
      (afterRequests id (requests ++ [.delete "a", .delete "c"])).defaultId = none := by
  decide

end Registry

end Telemetry
