import Telemetry.Json.Reader
import Telemetry.Json.Writer
import Telemetry.Proofs.Text.Digits

/-!
Contract: the compact text of a document is read back as that document.

Owns:
- `Json.Written`, documents of texts, natural numbers, arrays and objects;
- the round trip of numbers, of escaped strings, and of written documents.

Everything is stated for a text that goes on after the document, so that the
parts of a document can be read one after the other. What goes on is closed: it
cannot be taken for more of a number.

Does not own: the digits of a number; see `Proofs.Text.Digits`. What a document
means; see `Json.Decoding`.
-/

namespace Telemetry

namespace Json

/-! ### Blanks and digits -/

theorem skipBlanks_cons (character : Char) (solid : isJsonBlank character = false)
    (rest : List Char) : skipBlanks (character :: rest) = character :: rest := by
  simp [skipBlanks, solid]

/-- What follows a value inside a document, or nothing. -/
def Closed (rest : List Char) : Prop :=
  rest = [] ∨ ∃ mark tail, rest = mark :: tail ∧ (mark = ',' ∨ mark = ']' ∨ mark = '\x7d')

theorem closed_cons {mark : Char} (tail : List Char)
    (closing : mark = ',' ∨ mark = ']' ∨ mark = '\x7d') : Closed (mark :: tail) :=
  .inr ⟨mark, tail, rfl, closing⟩

/-- No digit, point or exponent follows. -/
theorem Closed.ends_number {rest : List Char} (closed : Closed rest) :
    rest.takeWhile Text.isDigit = [] ∧ rest.dropWhile Text.isDigit = rest ∧
      readFraction? rest = some ([], rest) ∧ readExponent? rest = some (none, rest) := by
  rcases closed with rfl | ⟨mark, tail, rfl, rfl | rfl | rfl⟩
  · exact ⟨rfl, rfl, rfl, rfl⟩
  · refine ⟨?_, ?_, rfl, rfl⟩ <;> simp [Text.isDigit]
  · refine ⟨?_, ?_, rfl, rfl⟩ <;> simp [Text.isDigit]
  · refine ⟨?_, ?_, rfl, rfl⟩ <;> simp [Text.isDigit]

theorem readWhole?_toDigits (value : Nat) {rest : List Char} (closed : Closed rest) :
    readWhole? (Nat.toDigits 10 value ++ rest) = some (Nat.toDigits 10 value, rest) := by
  obtain ⟨noDigits, allLeft, -⟩ := closed.ends_number
  by_cases zero : value = 0
  · subst zero
    rcases closed with rfl | ⟨mark, tail, rfl, rfl | rfl | rfl⟩ <;> rfl
  · obtain ⟨first, digits, written, nonzero⟩ := Text.toDigits_eq_cons (Nat.pos_of_ne_zero zero)
    have digitLike : ∀ digit ∈ first :: digits, Text.isDigit digit = true := by
      intro digit member
      rw [← written] at member
      exact Text.isDigit_of_mem_toDigits member
    rw [List.forall_mem_cons] at digitLike
    rw [written, List.cons_append]
    simp only [readWhole?, if_neg nonzero, if_pos digitLike.1]
    rw [List.takeWhile_append_of_pos digitLike.2, List.dropWhile_append_of_pos digitLike.2,
      noDigits, allLeft, List.append_nil]

theorem readNumber?_toDigits (value : Nat) {rest : List Char} (closed : Closed rest) :
    readNumber? (Nat.toDigits 10 value ++ rest) = some (.ofNat value, rest) := by
  have whole := readWhole?_toDigits value closed
  obtain ⟨-, -, fraction, exponent⟩ := closed.ends_number
  cases digits : Nat.toDigits 10 value with
  | nil => exact absurd digits Nat.toDigits_ne_nil
  | cons first others =>
      have digitLike : Text.isDigit first = true :=
        Text.isDigit_of_mem_toDigits (digits ▸ List.mem_cons_self)
      have unsigned : first ≠ '-' := by
        rintro rfl
        cases digitLike
      rw [digits] at whole
      simp only [List.cons_append] at whole ⊢
      simp [readNumber?, unsigned, whole, fraction, exponent, JsonNumber.ofNat, digits]

/-! ### Strings -/

theorem codeUnit?_hexDigits : ∀ unit < 0x20,
    codeUnit? '0' '0' (hexDigit (unit / 16)) (hexDigit (unit % 16)) = some unit := by
  decide

/-- A code unit that is no surrogate stands for itself, whatever follows. -/
theorem decodeUnits?_codeUnit {unit : Nat} (low : unit < 0xd800) (units : List StringUnit) :
    decodeUnits? (.codeUnit unit :: units) = (decodeUnits? units).map (Char.ofNat unit :: ·) := by
  have notLead : isLeadSurrogate unit = false := by
    simp only [isLeadSurrogate, Bool.and_eq_false_imp, decide_eq_true_eq, decide_eq_false_iff_not]
    omega
  have notTrail : isTrailSurrogate unit = false := by
    simp only [isTrailSurrogate, Bool.and_eq_false_imp, decide_eq_true_eq, decide_eq_false_iff_not]
    omega
  cases units with
  | nil => simp [decodeUnits?, notLead, notTrail]
  | cons next rest => cases next <;> simp [decodeUnits?, notLead, notTrail]

theorem readUnits?_short {letter character : Char} (short : shortEscape? letter = some character)
    (rest : List Char) :
    readUnits? ('\\' :: letter :: rest) =
      (readUnits? rest).map fun read => (.character character :: read.1, read.2) := by
  have notNumeric : letter ≠ 'u' := by
    rintro rfl
    cases short
  rw [readUnits?.eq_def]
  cases read : readUnits? rest <;> simp [notNumeric, short, read]

theorem readUnits?_numeric {a b c d : Char} {unit : Nat} (code : codeUnit? a b c d = some unit)
    (rest : List Char) :
    readUnits? ('\\' :: 'u' :: a :: b :: c :: d :: rest) =
      (readUnits? rest).map fun read => (.codeUnit unit :: read.1, read.2) := by
  rw [readUnits?, code]
  cases readUnits? rest <;> rfl

theorem readUnits?_plain {character : Char} (notQuote : character ≠ '"')
    (notBackslash : character ≠ '\\') (visible : ¬character.toNat < 0x20) (rest : List Char) :
    readUnits? (character :: rest) =
      (readUnits? rest).map fun read => (.character character :: read.1, read.2) := by
  rw [readUnits?.eq_def]
  cases read : readUnits? rest <;> simp [notBackslash, visible, read]

/-- An escaped character is read as one unit that stands for it. -/
theorem readUnits?_escapedCharacter (character : Char) :
    ∃ unit, (∀ rest, readUnits? (escapedCharacter character ++ rest) =
        (readUnits? rest).map fun read => (unit :: read.1, read.2)) ∧
      ∀ units, decodeUnits? (unit :: units) = (decodeUnits? units).map (character :: ·) := by
  have short {letter : Char} (escapes : shortEscape? letter = some character)
      (written : escapedCharacter character = ['\\', letter]) :
      ∃ unit, (∀ rest, readUnits? (escapedCharacter character ++ rest) =
          (readUnits? rest).map fun read => (unit :: read.1, read.2)) ∧
        ∀ units, decodeUnits? (unit :: units) = (decodeUnits? units).map (character :: ·) := by
    rw [written]
    exact ⟨.character character, readUnits?_short escapes, fun _ => rfl⟩
  by_cases quote : character = '"'
  · subst quote
    exact short rfl rfl
  by_cases backslash : character = '\\'
  · subst backslash
    exact short rfl rfl
  by_cases lineFeed : character = '\n'
  · subst lineFeed
    exact short rfl rfl
  by_cases carriageReturn : character = '\r'
  · subst carriageReturn
    exact short rfl rfl
  by_cases tab : character = '\t'
  · subst tab
    exact short rfl rfl
  by_cases backspace : character.toNat = 0x8
  · obtain rfl : character = Char.ofNat 0x8 := by rw [← backspace, Char.ofNat_toNat]
    exact short rfl rfl
  by_cases formFeed : character.toNat = 0xc
  · obtain rfl : character = Char.ofNat 0xc := by rw [← formFeed, Char.ofNat_toNat]
    exact short rfl rfl
  simp only [escapedCharacter, quote, backslash, lineFeed, carriageReturn, tab, backspace, formFeed,
    if_false]
  by_cases control : character.toNat < 0x20
  · rw [if_pos control]
    refine ⟨.codeUnit character.toNat, ?_, ?_⟩
    · exact readUnits?_numeric (codeUnit?_hexDigits _ control)
    · intro units
      rw [decodeUnits?_codeUnit (by omega), Char.ofNat_toNat]
  · rw [if_neg control]
    exact ⟨.character character, readUnits?_plain quote backslash control, fun _ => rfl⟩

theorem readText?_escaped (characters rest : List Char) :
    readText? (escaped characters ++ '"' :: rest) =
      some (some (String.ofList characters), rest) := by
  have units : ∃ units, readUnits? (escaped characters ++ '"' :: rest) = some (units, rest) ∧
      decodeUnits? units = some characters := by
    induction characters with
    | nil => exact ⟨[], rfl, rfl⟩
    | cons character characters inductionHypothesis =>
        obtain ⟨units, read, decoded⟩ := inductionHypothesis
        obtain ⟨unit, readOne, decodeOne⟩ := readUnits?_escapedCharacter character
        refine ⟨unit :: units, ?_, ?_⟩
        · rw [escaped, List.flatMap_cons, List.append_assoc, readOne]
          rw [escaped] at read
          rw [read]
          rfl
        · rw [decodeOne, decoded]
          rfl
  obtain ⟨units, read, decoded⟩ := units
  simp only [readText?, read, Option.map_some, decoded]

/-! ### Documents -/

/-- Documents of texts, natural numbers, arrays and objects. Every string has a text. -/
inductive Written : Json → Prop where
  | nat (value : Nat) : Written (.nat value)
  | text (value : String) : Written (.text value)
  | array {items : List Json} (each : ∀ item ∈ items, Written item) : Written (.array items)
  | fields {entries : List (String × Json)} (each : ∀ entry ∈ entries, Written entry.2) :
      Written (.fields entries)

/-- The compact text of a document is read back, whatever closed text follows. -/
structure ReadsBack (document : Json) : Prop where
  grows : ∀ rest, rest.length < (document.compactOnto rest).length
  /-- The text can be told from a blank and from the end of an array. -/
  starts : ∀ rest, ∃ first tail, document.compactOnto rest = first :: tail ∧
    isJsonBlank first = false ∧ first ≠ ']'
  reads : ∀ rest depth, Closed rest → 2 * (document.compactOnto rest).length < depth →
    readValue? depth (document.compactOnto rest) = some (document, rest)

theorem ne_of_isDigit {digit : Char} (digitLike : Text.isDigit digit = true) (other : Char)
    (notDigit : Text.isDigit other = false) : digit ≠ other := by
  rintro rfl
  rw [digitLike] at notDigit
  cases notDigit

theorem isJsonBlank_of_isDigit {digit : Char} (digitLike : Text.isDigit digit = true) :
    isJsonBlank digit = false := by
  simp [isJsonBlank, ne_of_isDigit digitLike ' ' rfl, ne_of_isDigit digitLike '\t' rfl,
    ne_of_isDigit digitLike '\r' rfl, ne_of_isDigit digitLike '\n' rfl]

theorem readValue?_digit {digit : Char} (digitLike : Text.isDigit digit = true) (depth : Nat)
    (rest : List Char) :
    readValue? (depth + 1) (digit :: rest) =
      (readNumber? (digit :: rest)).map fun read => (.number read.1, read.2) := by
  rw [readValue?, skipBlanks_cons digit (isJsonBlank_of_isDigit digitLike)]
  split
  case h_8 => rfl
  all_goals
    rename_i shape
    cases shape
  all_goals cases digitLike

namespace ReadsBack

theorem nat (value : Nat) : ReadsBack (.nat value) := by
  have written (rest : List Char) :
      compactOnto (.nat value) rest = Nat.toDigits 10 value ++ rest := by
    simp [Json.nat, compactOnto, numberLiteral, JsonNumber.ofNat]
  have digitFirst (rest : List Char) : ∃ first tail,
      Nat.toDigits 10 value ++ rest = first :: tail ∧ Text.isDigit first = true := by
    cases digits : Nat.toDigits 10 value with
    | nil => exact absurd digits Nat.toDigits_ne_nil
    | cons first tail =>
        exact ⟨first, tail ++ rest, rfl,
          Text.isDigit_of_mem_toDigits (digits ▸ List.mem_cons_self)⟩
  constructor
  · intro rest
    have positive : 0 < (Nat.toDigits 10 value).length := Nat.length_toDigits_pos
    rw [written, List.length_append]
    omega
  · intro rest
    obtain ⟨first, tail, split, digitLike⟩ := digitFirst rest
    rw [written]
    exact ⟨first, tail, split, isJsonBlank_of_isDigit digitLike, ne_of_isDigit digitLike ']' rfl⟩
  · intro rest depth closed enough
    obtain ⟨first, tail, split, digitLike⟩ := digitFirst rest
    have number := readNumber?_toDigits value closed
    rw [written] at enough ⊢
    cases depth with
    | zero => simp at enough
    | succ depth =>
        rw [split] at number ⊢
        rw [readValue?_digit digitLike, number]
        rfl

theorem text (value : String) : ReadsBack (.text value) := by
  have written (rest : List Char) : compactOnto (.text value) rest =
      '"' :: (escaped value.toList ++ '"' :: rest) := by
    simp [Json.text, compactOnto, stringLiteral]
  constructor
  · intro rest
    rw [written]
    simp only [List.length_cons, List.length_append]
    omega
  · intro rest
    exact ⟨'"', _, written rest, rfl, by decide⟩
  · intro rest depth _ enough
    rw [written] at enough ⊢
    cases depth with
    | zero => simp at enough
    | succ depth =>
        rw [readValue?, skipBlanks_cons '"' rfl]
        simp only [readText?_escaped, String.ofList_toList, Option.map_some, Json.text]

theorem itemsOnto_grows {items : List Json} (each : ∀ item ∈ items, ReadsBack item)
    (rest : List Char) : rest.length < (compactOnto.itemsOnto items rest).length := by
  induction items with
  | nil => exact Nat.lt_succ_self _
  | cons item items inductionHypothesis =>
      rw [List.forall_mem_cons] at each
      have first := each.1.grows (compactOnto.itemsOnto items rest)
      have others := inductionHypothesis each.2
      rw [compactOnto.itemsOnto, List.length_cons]
      omega

/-- The items of an array up to its end. -/
theorem readItems {item : Json} {items : List Json} (first : ReadsBack item)
    (others : ∀ other ∈ items, ReadsBack other) (rest : List Char) (depth : Nat)
    (enough : 2 * (item.compactOnto (compactOnto.itemsOnto items rest)).length + 1 < depth) :
    readItems? depth (item.compactOnto (compactOnto.itemsOnto items rest)) =
      some (item :: items, rest) := by
  induction items generalizing item depth with
  | nil =>
      cases depth with
      | zero => omega
      | succ depth =>
          rw [compactOnto.itemsOnto] at enough ⊢
          rw [readItems?, first.reads _ depth (closed_cons rest (by decide)) (by omega)]
          simp only [skipBlanks_cons ']' rfl]
  | cons next items inductionHypothesis =>
      rw [List.forall_mem_cons] at others
      cases depth with
      | zero => omega
      | succ depth =>
          rw [compactOnto.itemsOnto] at enough ⊢
          have shorter := first.grows (',' :: next.compactOnto (compactOnto.itemsOnto items rest))
          rw [List.length_cons] at shorter
          rw [readItems?, first.reads _ depth (closed_cons _ (by decide)) (by omega)]
          simp only [skipBlanks_cons ',' rfl]
          rw [inductionHypothesis others.1 others.2 depth (by omega)]
          rfl

theorem array {items : List Json} (each : ∀ item ∈ items, ReadsBack item) :
    ReadsBack (.array items) := by
  cases items with
  | nil =>
      constructor
      · intro rest
        simp only [compactOnto, List.length_cons]
        omega
      · intro rest
        exact ⟨'[', _, rfl, rfl, by decide⟩
      · intro rest depth _ enough
        cases depth with
        | zero => simp at enough
        | succ depth =>
            rw [compactOnto, readValue?, skipBlanks_cons '[' rfl]
            simp only [skipBlanks_cons ']' rfl]
  | cons item items =>
      rw [List.forall_mem_cons] at each
      constructor
      · intro rest
        have first := each.1.grows (compactOnto.itemsOnto items rest)
        have others := itemsOnto_grows each.2 rest
        simp only [compactOnto, List.length_cons]
        omega
      · intro rest
        exact ⟨'[', _, rfl, rfl, by decide⟩
      · intro rest depth _ enough
        cases depth with
        | zero => simp at enough
        | succ depth =>
            rw [compactOnto] at enough ⊢
            rw [List.length_cons] at enough
            obtain ⟨first, tail, split, solid, notEnd⟩ :=
              each.1.starts (compactOnto.itemsOnto items rest)
            have read := readItems each.1 each.2 rest depth (by omega)
            rw [split] at read
            rw [readValue?, skipBlanks_cons '[' rfl, split]
            simp [skipBlanks_cons first solid, notEnd, read]

/-- The entries of an object as the writer holds them. -/
def held (entries : List (String × Json)) : List (Option String × Json) :=
  entries.map fun entry => (some entry.1, entry.2)

theorem entriesOnto_grows {entries : List (String × Json)}
    (each : ∀ entry ∈ entries, ReadsBack entry.2) (rest : List Char) :
    rest.length < (compactOnto.entriesOnto (held entries) rest).length := by
  induction entries with
  | nil => exact Nat.lt_succ_self _
  | cons entry entries inductionHypothesis =>
      rw [List.forall_mem_cons] at each
      have first := each.1.grows (compactOnto.entriesOnto (held entries) rest)
      have others := inductionHypothesis each.2
      rw [held, List.map_cons, compactOnto.entriesOnto, ← held]
      simp only [List.length_cons, List.length_append]
      omega

theorem stringLiteral_append (key : String) (rest : List Char) :
    stringLiteral (some key) ++ rest = '"' :: (escaped key.toList ++ '"' :: rest) := by
  simp [stringLiteral]

/-- The last entry of an object. -/
theorem readEntry_last {value : Json} (back : ReadsBack value) (key : String) (rest : List Char)
    {depth : Nat} (enough : 2 * (value.compactOnto ('\x7d' :: rest)).length < depth) :
    readEntries? (depth + 1)
        (stringLiteral (some key) ++ ':' :: value.compactOnto ('\x7d' :: rest)) =
      some ([(some key, value)], rest) := by
  have read := back.reads _ depth (closed_cons rest (by decide)) enough
  rw [stringLiteral_append, readEntries?, skipBlanks_cons '"' rfl]
  simp only [readText?_escaped, String.ofList_toList, skipBlanks_cons ':' rfl, read,
    skipBlanks_cons '\x7d' rfl]

/-- An entry of an object that is followed by another. -/
theorem readEntry_next {value : Json} (back : ReadsBack value) (key : String) (rest : List Char)
    {depth : Nat} (enough : 2 * (value.compactOnto (',' :: rest)).length < depth) :
    readEntries? (depth + 1) (stringLiteral (some key) ++ ':' :: value.compactOnto (',' :: rest)) =
      (readEntries? depth rest).map fun read => ((some key, value) :: read.1, read.2) := by
  have read := back.reads _ depth (closed_cons rest (by decide)) enough
  rw [stringLiteral_append, readEntries?, skipBlanks_cons '"' rfl]
  simp only [readText?_escaped, String.ofList_toList, skipBlanks_cons ':' rfl, read,
    skipBlanks_cons ',' rfl]

/-- The entries of an object up to its end. -/
theorem readEntries {value : Json} {entries : List (String × Json)} (first : ReadsBack value)
    (others : ∀ entry ∈ entries, ReadsBack entry.2) (key : String) (rest : List Char) (depth : Nat)
    (enough : 2 * (value.compactOnto (compactOnto.entriesOnto (held entries) rest)).length + 1 <
      depth) :
    readEntries? depth (stringLiteral (some key) ++
        ':' :: value.compactOnto (compactOnto.entriesOnto (held entries) rest)) =
      some (held ((key, value) :: entries), rest) := by
  induction entries generalizing key value depth with
  | nil =>
      cases depth with
      | zero => omega
      | succ depth =>
          simp only [held, List.map_nil, compactOnto.entriesOnto] at enough ⊢
          exact readEntry_last first key rest (by omega)
  | cons next entries inductionHypothesis =>
      obtain ⟨nextKey, nextValue⟩ := next
      obtain ⟨second, others⟩ : ReadsBack nextValue ∧ ∀ entry ∈ entries, ReadsBack entry.2 :=
        List.forall_mem_cons.mp others
      cases depth with
      | zero => omega
      | succ depth =>
          have unfolded : compactOnto.entriesOnto (held ((nextKey, nextValue) :: entries)) rest =
              ',' :: (stringLiteral (some nextKey) ++ ':' ::
                nextValue.compactOnto (compactOnto.entriesOnto (held entries) rest)) := by
            simp only [held, List.map_cons, compactOnto.entriesOnto]
          rw [unfolded] at enough ⊢
          have shorter := first.grows (',' :: (stringLiteral (some nextKey) ++ ':' ::
            nextValue.compactOnto (compactOnto.entriesOnto (held entries) rest)))
          simp only [List.length_cons, List.length_append] at shorter
          rw [readEntry_next first key _ (by omega),
            inductionHypothesis second others nextKey depth (by omega)]
          rfl

theorem fields {entries : List (String × Json)} (each : ∀ entry ∈ entries, ReadsBack entry.2) :
    ReadsBack (.fields entries) := by
  cases entries with
  | nil =>
      constructor
      · intro rest
        simp only [Json.fields, List.map_nil, compactOnto, List.length_cons]
        omega
      · intro rest
        exact ⟨'\x7b', _, rfl, rfl, by decide⟩
      · intro rest depth _ enough
        cases depth with
        | zero => simp at enough
        | succ depth =>
            simp only [Json.fields, List.map_nil, compactOnto]
            rw [readValue?, skipBlanks_cons '\x7b' rfl]
            simp only [skipBlanks_cons '\x7d' rfl]
  | cons entry entries =>
      obtain ⟨key, value⟩ := entry
      obtain ⟨first, others⟩ : ReadsBack value ∧ ∀ entry ∈ entries, ReadsBack entry.2 :=
        List.forall_mem_cons.mp each
      have written (rest : List Char) : compactOnto (.fields ((key, value) :: entries)) rest =
          '\x7b' :: (stringLiteral (some key) ++ ':' ::
            value.compactOnto (compactOnto.entriesOnto (held entries) rest)) := by
        simp only [Json.fields, List.map_cons, compactOnto, held]
      constructor
      · intro rest
        have firstGrows := first.grows (compactOnto.entriesOnto (held entries) rest)
        have othersGrow := entriesOnto_grows others rest
        simp only [written, List.length_cons, List.length_append]
        omega
      · intro rest
        exact ⟨'\x7b', _, written rest, rfl, by decide⟩
      · intro rest depth _ enough
        rw [written] at enough ⊢
        simp only [List.length_cons, List.length_append] at enough
        cases depth with
        | zero => omega
        | succ depth =>
            have read := readEntries first others key rest depth (by omega)
            rw [readValue?, skipBlanks_cons '\x7b' rfl]
            simp only [stringLiteral, List.cons_append, skipBlanks_cons '"' rfl] at read ⊢
            exact congrArg (Option.map fun entries => (Json.object entries.1, entries.2)) read

end ReadsBack

theorem Written.readsBack {document : Json} (written : Written document) : ReadsBack document := by
  induction written with
  | nat value => exact .nat value
  | text value => exact .text value
  | array _ inductionHypothesis => exact .array inductionHypothesis
  | fields _ inductionHypothesis => exact .fields inductionHypothesis

/-- The compact text of a written document is that document. -/
theorem Written.parse?_compact {document : Json} (written : Written document) :
    parse? document.compact = some document := by
  have read := written.readsBack.reads [] (2 * (document.compactOnto []).length + 2) (.inl rfl)
    (by omega)
  simp only [parse?, compact, String.toList_ofList, read]
  rfl

end Json

end Telemetry
