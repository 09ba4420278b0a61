import Telemetry.Proofs.Settings.Precedence

/-!
Contract: what each field of the settings is read from.

Owns: the fields of all sections with their names and readings, and that the settings of
a table are those whose fields agree with the entries of their names.

Does not own: which source an entry is taken from; see `Proofs.Settings.Sources`.
-/

namespace Telemetry

open SettingValue

/-- A field of a record: its name, and how its value is read. -/
structure RecordField (Record : Type) where
  name : String
  Value : Type
  read? : SettingValue → Option Value
  get : Record → Value

namespace RecordField

variable {Record Outer : Type}

/-- The field is what the entry says. Without one it is as in the standard record. -/
def Agrees (field : RecordField Record) (standard record : Record)
    (value? : Option SettingValue) : Prop :=
  defaulting (field.get standard) field.read? value? = some (field.get record)

/-- The field of a record within another one. -/
def within (part : Outer → Record) (field : RecordField Record) : RecordField Outer where
  name := field.name
  Value := field.Value
  read? := field.read?
  get := fun outer => field.get (part outer)

end RecordField

namespace Settings

def trackerFields : List (RecordField TrackerSettings) := [
  ⟨"application_id", _, toText?, (·.applicationId)⟩,
  ⟨"tracker_id", _, toOption? toText?, (·.trackerId)⟩,
  ⟨"active", _, toBool?, (·.active)⟩]

def queueFields : List (RecordField QueueSettings) := [
  ⟨"batch_size", _, toUnsigned? 64, (·.batchSize)⟩,
  ⟨"batch_delay_ms", _, toUnsigned? 64, (·.batchDelay)⟩,
  ⟨"concurrency", _, toUnsigned? 64, (·.concurrency)⟩]

def retryFields : List (RecordField RetrySettings) := [
  ⟨"max_attempts", _, toUnsigned? 32, (·.maxAttempts)⟩,
  ⟨"max_retry_ms", _, toOption? (toUnsigned? 64), (·.maxRetry)⟩,
  ⟨"min_timeout_ms", _, toUnsigned? 64, (·.minTimeout)⟩,
  ⟨"max_timeout_ms", _, toOption? (toUnsigned? 64), (·.maxTimeout)⟩,
  ⟨"retry_factor", _, toFloat?, (·.retryFactor)⟩]

def waitFields : List (RecordField WaitOptions) := [
  ⟨"interval_ms", _, toUnsigned? 64, (·.interval)⟩,
  ⟨"timeout_ms", _, toOption? (toUnsigned? 64), (·.timeout)⟩]

def loggingFields : List (RecordField LoggingSettings) := [
  ⟨"level", _, toText?, (·.level)⟩,
  ⟨"format", _, fun value => value.toChoice?.bind LogFormat.ofName?, (·.format)⟩,
  ⟨"output", _, fun value => value.toChoice?.bind LogOutput.ofName?, (·.output)⟩,
  ⟨"file", _, toText?, (·.file)⟩,
  ⟨"color", _, toBool?, (·.color)⟩,
  ⟨"modules", _, toTextEntries?, (·.modules)⟩]

/-- The sections are the fields of the settings. -/
def sections : List (RecordField Settings) := [
  ⟨"tracker", _, trackerOfValue?, (·.tracker)⟩,
  ⟨"queue", _, queueOfValue?, (·.queue)⟩,
  ⟨"retry", _, retryOfValue?, (·.retry)⟩,
  ⟨"wait", _, waitOfValue?, (·.wait)⟩,
  ⟨"logging", _, LoggingSettings.ofValue?, (·.logging)⟩]

/-- The fields of all sections, each after the name of its section. -/
def fields : List (String × RecordField Settings) :=
  trackerFields.map (fun field => ("tracker", field.within (·.tracker))) ++
    queueFields.map (fun field => ("queue", field.within (·.queue))) ++
    retryFields.map (fun field => ("retry", field.within (·.retry))) ++
    waitFields.map (fun field => ("wait", field.within (·.wait))) ++
    loggingFields.map (fun field => ("logging", field.within (·.logging)))

/-! ### The records -/

section Records

variable {Record : Type} {entries : List (String × SettingValue)}

/-- Each field of the record agrees with the entry of its name. -/
def AgreesWith (listed : List (RecordField Record)) (standard record : Record)
    (entries : List (String × SettingValue)) : Prop :=
  ∀ field ∈ listed, field.Agrees standard record (entries.lookup field.name)

theorem trackerOfValue?_table {tracker : TrackerSettings} :
    trackerOfValue? (.table entries) = some tracker ↔
      AgreesWith trackerFields {} tracker entries := by
  simp only [trackerOfValue?, toRecord?, List.map, Option.bind_eq_bind, Option.bind_some,
    Option.bind_eq_some_iff, AgreesWith, trackerFields, List.forall_mem_cons]
  constructor
  · rintro ⟨_, applicationId, _, trackerId, _, active, ⟨⟩⟩
    exact ⟨applicationId, trackerId, active, nofun⟩
  · rintro ⟨applicationId, trackerId, active, -⟩
    exact ⟨_, applicationId, _, trackerId, _, active, rfl⟩

theorem queueOfValue?_table {queue : QueueSettings} :
    queueOfValue? (.table entries) = some queue ↔ AgreesWith queueFields {} queue entries := by
  simp only [queueOfValue?, toRecord?, List.map, Option.bind_eq_bind, Option.bind_some,
    Option.bind_eq_some_iff, AgreesWith, queueFields, List.forall_mem_cons]
  constructor
  · rintro ⟨_, batchSize, _, batchDelay, _, concurrency, ⟨⟩⟩
    exact ⟨batchSize, batchDelay, concurrency, nofun⟩
  · rintro ⟨batchSize, batchDelay, concurrency, -⟩
    exact ⟨_, batchSize, _, batchDelay, _, concurrency, rfl⟩

theorem retryOfValue?_table {retry : RetrySettings} :
    retryOfValue? (.table entries) = some retry ↔ AgreesWith retryFields {} retry entries := by
  simp only [retryOfValue?, toRecord?, List.map, Option.bind_eq_bind, Option.bind_some,
    Option.bind_eq_some_iff, AgreesWith, retryFields, List.forall_mem_cons]
  constructor
  · rintro ⟨_, maxAttempts, _, maxRetry, _, minTimeout, _, maxTimeout, _, retryFactor, ⟨⟩⟩
    exact ⟨maxAttempts, maxRetry, minTimeout, maxTimeout, retryFactor, nofun⟩
  · rintro ⟨maxAttempts, maxRetry, minTimeout, maxTimeout, retryFactor, -⟩
    exact ⟨_, maxAttempts, _, maxRetry, _, minTimeout, _, maxTimeout, _, retryFactor, rfl⟩

theorem waitOfValue?_table {wait : WaitOptions} :
    waitOfValue? (.table entries) = some wait ↔ AgreesWith waitFields {} wait entries := by
  simp only [waitOfValue?, toRecord?, List.map, Option.bind_eq_bind, Option.bind_some,
    Option.bind_eq_some_iff, AgreesWith, waitFields, List.forall_mem_cons]
  constructor
  · rintro ⟨_, interval, _, timeout, ⟨⟩⟩
    exact ⟨interval, timeout, nofun⟩
  · rintro ⟨interval, timeout, -⟩
    exact ⟨_, interval, _, timeout, rfl⟩

theorem loggingOfValue?_table {logging : LoggingSettings} :
    LoggingSettings.ofValue? (.table entries) = some logging ↔
      AgreesWith loggingFields {} logging entries := by
  simp only [LoggingSettings.ofValue?, toRecord?, List.map, Option.bind_eq_bind, Option.bind_some,
    Option.bind_eq_some_iff, AgreesWith, loggingFields, List.forall_mem_cons]
  constructor
  · rintro ⟨_, level, _, format, _, output, _, file, _, color, _, modules, ⟨⟩⟩
    exact ⟨level, format, output, file, color, modules, nofun⟩
  · rintro ⟨level, format, output, file, color, modules, -⟩
    exact ⟨_, level, _, format, _, output, _, file, _, color, _, modules, rfl⟩

theorem ofValue?_table {settings : Settings} :
    ofValue? (.table entries) = some settings ↔ AgreesWith sections {} settings entries := by
  simp only [ofValue?, toRecord?, List.map, Option.bind_eq_bind, Option.bind_some,
    Option.bind_eq_some_iff, AgreesWith, sections, List.forall_mem_cons]
  constructor
  · rintro ⟨_, tracker, _, queue, _, retry, _, wait, _, logging, ⟨⟩⟩
    exact ⟨tracker, queue, retry, wait, logging, nofun⟩
  · rintro ⟨tracker, queue, retry, wait, logging, -⟩
    exact ⟨_, tracker, _, queue, _, retry, _, wait, _, logging, rfl⟩

end Records

/-! ### All fields -/

/-- What lies above settings is read as a table, which may be empty. -/
theorem table_of_leadsTo {root : SettingValue} (front : List String) {key : String}
    (leads : root.LeadsTo (front ++ [key])) :
    ∃ fields, (root.at? front).getD (.table []) = .table fields ∧
      (fields.map Prod.fst).Nodup ∧ ∀ key, fields.lookup key = root.at? (front ++ [key]) := by
  induction front generalizing root with
  | nil =>
      obtain ⟨fields, rfl, distinct, -⟩ := leads
      exact ⟨fields, rfl, distinct, fun key => (Option.bind_fun_some _).symm⟩
  | cons name front inductionHypothesis =>
      obtain ⟨entries, rfl, -, below⟩ := leads
      simp only [at?, List.cons_append, SettingValue.entries]
      cases found : entries.lookup name with
      | none => exact ⟨[], rfl, List.nodup_nil, fun key => rfl⟩
      | some value => exact inductionHypothesis (below value found)

/-- An absent section reads as an empty table. -/
theorem defaulting_eq_getD {Record : Type} {standard : Record}
    {read? : SettingValue → Option Record} (empty : read? (.table []) = some standard)
    (value? : Option SettingValue) :
    defaulting standard read? value? = read? (value?.getD (.table [])) := by
  cases value? with
  | none => exact empty.symm
  | some value => rfl

theorem section_iff {Record : Type} {standard record : Record} {listed : List (RecordField Record)}
    {read? : SettingValue → Option Record}
    (ofTable : ∀ {record : Record} {entries : List (String × SettingValue)},
      read? (.table entries) = some record ↔ AgreesWith listed standard record entries)
    {root : SettingValue} {name key : String} (leads : root.LeadsTo [name, key]) :
    defaulting standard read? (root.at? [name]) = some record ↔
      ∀ field ∈ listed, field.Agrees standard record (root.at? [name, field.name]) := by
  have empty : read? (.table []) = some standard := ofTable.mpr fun field listed => rfl
  obtain ⟨given, table, -, each⟩ := table_of_leadsTo [name] leads
  rw [defaulting_eq_getD empty, table, ofTable, AgreesWith]
  simp only [each]
  rfl

/-- The settings of a value are those whose fields all agree with what the value has for them. -/
theorem ofValue?_eq_some_iff {root : SettingValue} {settings : Settings}
    (leads : ∀ record ∈ sections, ∃ key, root.LeadsTo [record.name, key]) :
    ofValue? root = some settings ↔
      ∀ entry ∈ fields, entry.2.Agrees {} settings (root.at? [entry.1, entry.2.name]) := by
  simp only [sections, List.forall_mem_cons] at leads
  obtain ⟨⟨_, tracker⟩, ⟨_, queue⟩, ⟨_, retry⟩, ⟨_, wait⟩, ⟨_, logging⟩, -⟩ := leads
  have ⟨entries, isTable, _⟩ := tracker
  subst isTable
  have single (key : String) : entries.lookup key = (SettingValue.table entries).at? [key] :=
    (Option.bind_fun_some _).symm
  rw [ofValue?_table]
  simp only [AgreesWith, sections, fields, List.forall_mem_cons, List.forall_mem_append,
    List.forall_mem_map, List.not_mem_nil, false_imp_iff, implies_true, and_true, and_assoc, single]
  apply and_congr (section_iff trackerOfValue?_table tracker)
  apply and_congr (section_iff queueOfValue?_table queue)
  apply and_congr (section_iff retryOfValue?_table retry)
  apply and_congr (section_iff waitOfValue?_table wait)
  exact section_iff loggingOfValue?_table logging

/-- The levels of modules are the texts of their entries. -/
theorem lookup_of_toTextEntries? {entries : List (String × SettingValue)}
    {texts : List (String × String)} (read : toTextEntries? (.table entries) = some texts)
    (key : String) : texts.lookup key = (entries.lookup key).bind toText? := by
  rw [toTextEntries?] at read
  induction entries generalizing texts with
  | nil =>
      obtain rfl := Option.some.inj read
      rfl
  | cons entry rest inductionHypothesis =>
      rw [List.mapM_cons] at read
      obtain ⟨first, readFirst, read⟩ := Option.bind_eq_some_iff.mp read
      obtain ⟨others, readOthers, read⟩ := Option.bind_eq_some_iff.mp read
      obtain rfl := Option.some.inj read
      obtain ⟨text, readText, rfl⟩ := Option.map_eq_some_iff.mp readFirst
      rw [lookup_cons_eq_ite, ← Prod.eta entry, lookup_cons_eq_ite, inductionHypothesis readOthers]
      split
      · exact readText.symm
      · rfl

end Settings

end Telemetry
