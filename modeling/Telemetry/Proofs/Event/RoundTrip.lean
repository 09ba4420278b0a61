import Telemetry.Event.Wire
import Telemetry.Proofs.Json.RoundTrip

/-!
Contract: what survives being written and read, of events and of attributes.

Owns:
- `Contexts.Sorted`: every context has the kind of the list it stands in;
- `Event.WellFormed`, what reading gives and writing keeps;
- `Event.Made`, the events that can come into being, all of them well-formed;
- the round trip of contexts and of events;
- the round trip of attributes, up to the kinds of their contexts.

Kinds are not written. Those of an event come back because every way to make an
event sorts its contexts first. Those of attributes may change, but only as they
would change when an event is made.

Does not own: the round trip of documents; see `Proofs.Json.RoundTrip`.
-/

namespace Telemetry

/-! ### Contexts -/

namespace Context

theorem toJson_written (context : Context) : context.toJson.Written := by
  refine .fields fun entry member => ?_
  simp only [List.mem_cons, List.not_mem_nil, or_false] at member
  rcases member with rfl | rfl <;> exact .text _

/-- A context comes back with the kind that the reader gives it. -/
theorem ofJson?_toJson (kind : ContextKind) (context : Context) :
    ofJson? kind context.toJson = some (context.withKind kind) := by
  simp [ofJson?, toJson, Json.fields, Json.toRecord?, Json.required, Json.toText?, Json.text,
    withKind]

theorem kind_of_ofJson? {kind : ContextKind} {document : Json} {context : Context}
    (read : ofJson? kind document = some context) : context.kind = kind := by
  simp only [ofJson?, Option.bind_eq_bind, Option.bind_eq_some_iff] at read
  obtain ⟨fields, -, read⟩ := read
  split at read
  · simp only [Option.bind_eq_some_iff, Option.some.injEq] at read
    obtain ⟨type, -, id, -, rfl⟩ := read
    rfl
  · cases read

@[simp] theorem withKind_withKind (kind other : ContextKind) (context : Context) :
    (context.withKind other).withKind kind = context.withKind kind :=
  rfl

@[simp] theorem toJson_withKind (kind : ContextKind) (context : Context) :
    (context.withKind kind).toJson = context.toJson :=
  rfl

theorem withKind_eq_self_iff {kind : ContextKind} {context : Context} :
    context.withKind kind = context ↔ context.kind = kind := by
  constructor
  · intro same
    rw [← same]
    rfl
  · rintro rfl
    rfl

theorem map_withKind_eq_self_iff {kind : ContextKind} {contexts : List Context} :
    contexts.map (withKind kind) = contexts ↔ ∀ context ∈ contexts, context.kind = kind := by
  have pointwise : contexts.map (withKind kind) = contexts.map (fun context => context) ↔
      ∀ context ∈ contexts, context.withKind kind = context := List.map_inj_left
  rw [List.map_id'] at pointwise
  simp only [pointwise, withKind_eq_self_iff]

theorem mapM_ofJson?_toJson (kind : ContextKind) (contexts : List Context) :
    (contexts.map toJson).mapM (ofJson? kind) = some (contexts.map (withKind kind)) := by
  induction contexts with
  | nil => rfl
  | cons context contexts inductionHypothesis =>
      rw [List.map_cons, List.mapM_cons, ofJson?_toJson, inductionHypothesis]
      rfl

theorem kind_of_mapM_ofJson? {kind : ContextKind} {documents : List Json} {contexts : List Context}
    (read : documents.mapM (ofJson? kind) = some contexts) :
    ∀ context ∈ contexts, context.kind = kind := by
  induction documents generalizing contexts with
  | nil =>
      cases read
      exact List.forall_mem_nil _
  | cons document documents inductionHypothesis =>
      simp only [List.mapM_cons, Option.bind_eq_bind, Option.bind_eq_some_iff, Option.pure_def,
        Option.some.injEq] at read
      obtain ⟨first, readFirst, others, readOthers, rfl⟩ := read
      exact List.forall_mem_cons.mpr ⟨kind_of_ofJson? readFirst, inductionHypothesis readOthers⟩

theorem kind_of_defaulting {kind : ContextKind} {field : Option Json} {contexts : List Context}
    (read : Json.defaulting [] (Json.toList? (ofJson? kind)) field = some contexts) :
    ∀ context ∈ contexts, context.kind = kind := by
  cases field with
  | none =>
      cases read
      exact List.forall_mem_nil _
  | some document =>
      cases document with
      | array items => exact kind_of_mapM_ofJson? read
      | null | bool | number | string | object => cases read

end Context

namespace Contexts

/-- Every context has the kind of the list it stands in. -/
structure Sorted (contexts : Contexts) : Prop where
  locations : ∀ context ∈ contexts.locationStack, context.kind = .location
  globals : ∀ context ∈ contexts.globalContexts, context.kind = .global

theorem normalized_sorted (contexts : Contexts) : contexts.normalized.Sorted := by
  constructor
  · intro context member
    obtain ⟨original, -, rfl⟩ := List.mem_map.mp member
    rfl
  · intro context member
    obtain ⟨original, -, rfl⟩ := List.mem_map.mp member
    rfl

theorem normalized_eq_self_iff {contexts : Contexts} :
    contexts.normalized = contexts ↔ contexts.Sorted := by
  obtain ⟨locations, globals⟩ := contexts
  rw [normalized, mk.injEq, Context.map_withKind_eq_self_iff, Context.map_withKind_eq_self_iff]
  exact ⟨fun same => ⟨same.1, same.2⟩, fun sorted => ⟨sorted.locations, sorted.globals⟩⟩

theorem normalized_normalized (contexts : Contexts) :
    contexts.normalized.normalized = contexts.normalized :=
  normalized_eq_self_iff.mpr contexts.normalized_sorted

theorem toFields_written (contexts : Contexts) : ∀ entry ∈ contexts.toFields, entry.2.Written := by
  have list (items : List Context) : (Json.array (items.map Context.toJson)).Written := by
    refine .array fun item member => ?_
    obtain ⟨context, -, rfl⟩ := List.mem_map.mp member
    exact context.toJson_written
  intro entry member
  simp only [toFields, List.mem_cons, List.not_mem_nil, or_false] at member
  rcases member with rfl | rfl
  · exact list contexts.locationStack
  · exact list contexts.globalContexts

/-- Contexts come back with the kinds of their lists. -/
theorem ofFields?_toFields (contexts : Contexts) :
    ofFields? (some (.array (contexts.locationStack.map Context.toJson)))
      (some (.array (contexts.globalContexts.map Context.toJson))) = some contexts.normalized := by
  simp only [ofFields?, Json.defaulting, Json.toList?, Context.mapM_ofJson?_toJson]
  rfl

theorem sorted_of_ofFields? {locations globals : Option Json} {contexts : Contexts}
    (read : ofFields? locations globals = some contexts) : contexts.Sorted := by
  simp only [ofFields?, Option.bind_eq_bind, Option.bind_eq_some_iff, Option.some.injEq] at read
  obtain ⟨locationStack, readLocations, globalContexts, readGlobals, rfl⟩ := read
  exact ⟨Context.kind_of_defaulting readLocations, Context.kind_of_defaulting readGlobals⟩

end Contexts

/-! ### Events -/

namespace Event

/-- Contexts have the kinds of their lists, and the time fits its word. -/
structure WellFormed (event : Event) : Prop where
  contexts : event.contexts.Sorted
  time : event.time < Word.size 64

theorem toJson_written (event : Event) : event.toJson.Written := by
  refine .fields fun entry member => ?_
  rw [List.mem_append] at member
  rcases member with identity | context
  · simp only [List.mem_cons, List.not_mem_nil, or_false] at identity
    rcases identity with rfl | rfl | rfl
    · exact .text _
    · exact .text _
    · exact .nat _
  · exact event.contexts.toFields_written entry context

/-- The text of an event is the text of its document. -/
theorem parse?_wire_document (event : Event) : Json.parse? event.wire = some event.toJson :=
  event.toJson_written.parse?_compact

theorem toUnsigned?_nat {bits value : Nat} (fits : value < Word.size bits) :
    Json.toUnsigned? bits (.nat value) = some value := by
  simp [Json.toUnsigned?, Json.nat, JsonNumber.toUnsigned?, JsonNumber.isInteger, JsonNumber.ofNat,
    Text.digitsValue_toDigits, fits]

theorem WellFormed.ofJson?_toJson {event : Event} (wellFormed : event.WellFormed) :
    ofJson? event.toJson = some event := by
  have time := toUnsigned?_nat wellFormed.time
  have contexts := Contexts.ofFields?_toFields event.contexts
  rw [Contexts.normalized_eq_self_iff.mpr wellFormed.contexts] at contexts
  simp [ofJson?, toJson, Contexts.toFields, Json.fields, Json.toRecord?, Json.required,
    Json.toText?, Json.text, time, contexts]

theorem WellFormed.parse?_wire {event : Event} (wellFormed : event.WellFormed) :
    parse? event.wire = some event := by
  rw [parse?, parse?_wire_document, Option.bind_some, wellFormed.ofJson?_toJson]

theorem toUnsigned?_lt {bits value : Nat} {document : Json}
    (read : Json.toUnsigned? bits document = some value) : value < Word.size bits := by
  cases document with
  | number literal =>
      simp only [Json.toUnsigned?, JsonNumber.toUnsigned?] at read
      split at read
      · split at read
        · cases read
          assumption
        · cases read
      · cases read
  | null | bool | string | array | object => cases read

theorem wellFormed_of_ofJson? {document : Json} {event : Event}
    (read : ofJson? document = some event) : event.WellFormed := by
  simp only [ofJson?, Option.bind_eq_bind, Option.bind_eq_some_iff] at read
  obtain ⟨fields, -, read⟩ := read
  split at read
  · simp only [Option.bind_eq_some_iff, Option.some.injEq] at read
    obtain ⟨type, -, id, -, time, readTime, contexts, readContexts, rfl⟩ := read
    obtain ⟨literal, -, readLiteral⟩ := Option.bind_eq_some_iff.mp readTime
    exact ⟨Contexts.sorted_of_ofFields? readContexts, toUnsigned?_lt readLiteral⟩
  · cases read

theorem wellFormed_of_parse? {text : String} {event : Event} (read : parse? text = some event) :
    event.WellFormed := by
  obtain ⟨document, -, read⟩ := Option.bind_eq_some_iff.mp read
  exact wellFormed_of_ofJson? read

/-- The events that can come into being. Attributes, owners and new contexts may be of any
kinds; times are read from a clock of 64 bits. -/
inductive Made : Event → Prop where
  | make (attributes : EventAttributes) (id : String) (time : Nat) (fits : time < Word.size 64) :
      Made (make attributes id time)
  | track (attributes : EventAttributes) (owner : Contexts) (id : String) (time : Nat)
      (fits : time < Word.size 64) : Made (track attributes owner id time)
  | derive {event : Event} (made : Made event) (contexts : Contexts) :
      Made (event.derive contexts)
  | parse {text : String} {event : Event} (read : parse? text = some event) : Made event

theorem Made.wellFormed {event : Event} (made : Made event) : event.WellFormed := by
  induction made with
  | make attributes id time fits => exact ⟨attributes.contexts.normalized_sorted, fits⟩
  | track attributes owner id time fits =>
      exact ⟨(owner.mergeOwner attributes.contexts).normalized_sorted, fits⟩
  | derive _ contexts inductionHypothesis =>
      exact ⟨contexts.normalized_sorted, inductionHypothesis.time⟩
  | parse read => exact wellFormed_of_parse? read

/-- Every event has sorted contexts and a JSON text that is read as an equal event. What is
read from any text has a text of its own, which no further round changes. -/
theorem written_events_are_read_back :
    (∀ event, Made event →
      (∀ context ∈ event.contexts.locationStack, context.kind = .location) ∧
      (∀ context ∈ event.contexts.globalContexts, context.kind = .global) ∧
      Json.parse? event.wire = some event.toJson ∧
      parse? event.wire = some event) ∧
    ∀ text event, parse? text = some event →
      ∃ again, parse? event.wire = some again ∧ again = event ∧ again.wire = event.wire := by
  constructor
  · intro event made
    have wellFormed := made.wellFormed
    exact ⟨wellFormed.contexts.locations, wellFormed.contexts.globals,
      event.parse?_wire_document, wellFormed.parse?_wire⟩
  · intro text event read
    exact ⟨event, (wellFormed_of_parse? read).parse?_wire, rfl, rfl⟩

/-- An event with both kinds in both of its lists, a quote, a backslash, control characters and
a character beyond the first plane in its texts, and the last time there is. -/
def intricate : Event :=
  (track
    { type := "say \"hi\"\\"
      contexts :=
        { locationStack := [.global "\x01\x1f" "\n\t"], globalContexts := [.location "" "/"] } }
    { locationStack := [.location "root" "é"], globalContexts := [.location "owner" "😀"] }
    "id\x7f" (Word.size 64 - 1)).derive
      { locationStack := [.global "Section" "\"😀\""], globalContexts := [.global "App" "\x00"] }

/-- An event that was read from a text in array form, with an escaped surrogate pair and
without its last list. -/
def abridged : Event where
  type := "T"
  id := "😀"
  time := 7
  contexts := { locationStack := [.location "a" "b"] }

theorem intricate_and_abridged_events_are_read_back :
    Made intricate ∧ parse? intricate.wire = some intricate ∧
      parse? "[\"T\", \"\\ud83d\\ude00\", 7, [[\"a\", \"b\"]]]" = some abridged ∧
      ∃ again, parse? abridged.wire = some again ∧ again = abridged ∧
        again.wire = abridged.wire := by
  have made : Made intricate := .derive (.track _ _ _ _ (by decide)) _
  have read : parse? "[\"T\", \"\\ud83d\\ude00\", 7, [[\"a\", \"b\"]]]" = some abridged := by
    decide +kernel
  exact ⟨made, (written_events_are_read_back.1 _ made).2.2.2, read,
    written_events_are_read_back.2 _ _ read⟩

end Event

/-! ### Attributes -/

namespace EventAttributes

/-- The attributes with the kinds that an event made from them keeps. -/
def normalized (attributes : EventAttributes) : EventAttributes :=
  { attributes with contexts := attributes.contexts.normalized }

theorem toJson_written (attributes : EventAttributes) : attributes.toJson.Written := by
  refine .fields fun entry member => ?_
  rcases List.mem_cons.mp member with rfl | context
  · exact .text _
  · exact attributes.contexts.toFields_written entry context

theorem ofJson?_toJson (attributes : EventAttributes) :
    ofJson? attributes.toJson = some attributes.normalized := by
  have contexts := Contexts.ofFields?_toFields attributes.contexts
  simp [ofJson?, toJson, Contexts.toFields, Json.fields, Json.toRecord?, Json.required,
    Json.toText?, Json.text, contexts, normalized]

/-- Reading what was written sorts the contexts, and changes nothing else. -/
theorem parse?_wire (attributes : EventAttributes) :
    parse? attributes.wire = some attributes.normalized := by
  rw [parse?, wire, attributes.toJson_written.parse?_compact, Option.bind_some, ofJson?_toJson]

theorem wire_normalized (attributes : EventAttributes) :
    attributes.normalized.wire = attributes.wire := by
  simp [wire, toJson, normalized, Contexts.toFields, Contexts.normalized, Function.comp_def]

theorem normalized_eq_self_iff {attributes : EventAttributes} :
    attributes.normalized = attributes ↔ attributes.contexts.Sorted := by
  obtain ⟨type, contexts⟩ := attributes
  rw [normalized, mk.injEq, ← Contexts.normalized_eq_self_iff]
  exact and_iff_right rfl

theorem make_normalized (attributes : EventAttributes) (id : String) (time : Nat) :
    Event.make attributes.normalized id time = Event.make attributes id time := by
  rw [Event.make, Event.make, normalized, Contexts.normalized_normalized]

/-- Sorting before the owner's contexts come makes no difference to sorting after. -/
theorem track_normalized (attributes : EventAttributes) (owner : Contexts) (id : String)
    (time : Nat) :
    Event.track attributes.normalized owner id time = Event.track attributes owner id time := by
  simp [Event.track, Event.make, normalized, Contexts.normalized, Contexts.mergeOwner,
    Function.comp_def]

/-- The text of any attributes is read, as attributes from which the same events are made: with
every identity, and within every owner whatever the identities. They are the same attributes
exactly if every context had the kind of its list before, and they have the same text. -/
theorem written_attributes_give_the_same_events (attributes : EventAttributes) :
    Json.parse? attributes.wire = some attributes.toJson ∧
    ∃ again, parse? attributes.wire = some again ∧
      (∀ id time, Event.make again id time = Event.make attributes id time) ∧
      (∀ owner id time otherId otherTime,
        { Event.track again owner id time with id := otherId, time := otherTime } =
          Event.track attributes owner otherId otherTime) ∧
      (again = attributes ↔
        (∀ context ∈ attributes.contexts.locationStack, context.kind = .location) ∧
        ∀ context ∈ attributes.contexts.globalContexts, context.kind = .global) ∧
      again.wire = attributes.wire := by
  refine ⟨attributes.toJson_written.parse?_compact, attributes.normalized, attributes.parse?_wire,
    attributes.make_normalized, ?_, ?_, attributes.wire_normalized⟩
  · intro owner id time otherId otherTime
    rw [track_normalized]
    rfl
  · rw [normalized_eq_self_iff]
    exact ⟨fun sorted => ⟨sorted.locations, sorted.globals⟩, fun kinds => ⟨kinds.1, kinds.2⟩⟩

end EventAttributes

end Telemetry
