import NotebookSlice.Codec.Slice
import NotebookSlice.Codec.Transcript
import NotebookSlice.Proofs.Json.Reading

/-!
# Decoding undoes encoding

What is encoded as a JSON text can be decoded from it. A written text is read as the document of the
encoded value, so it is enough to follow the decoders on documents of encoded values. There they
meet each entry of an object once and in the order in which it was written; no decoder looks at the
place of what it decodes, but the one for the entries of a transcript, which allows only so many
containers around each other.

Numbers of statements and lines are written in full and read back if they fit into 64 bits. The
source of a cell is written as one string, and it may as well be given by any strings that are
joined to it.
-/

namespace NotebookSlice

namespace Json

theorem ok_bind {α β ε : Type} (value : α) (next : α → Except ε β) :
    (Except.ok value >>= next) = next value := rfl

namespace Decode

variable {α : Type} {decode : Decoder α} {encode : α → Value} {place : Place}

theorem natural_document {type : String} {bound value : Nat} (small : value < bound) :
    natural type bound place (Value.natural value).document = .ok value := by
  simp [natural, Value.document, small]

theorem option_document {item : Option α} (notNull : ∀ value, (encode value).document ≠ .null)
    (each : ∀ value ∈ item, decode place (encode value).document = .ok value) :
    option decode place (Value.ofOption encode item).document = .ok item := by
  cases item with
  | none => rfl
  | some value =>
      rw [Value.ofOption, option]
      · simp [each value rfl, Except.map]
      · exact notNull value

theorem array_document_map {β : Type} {encode : β → Value} {view : β → α} {items : List β}
    (each : ∀ item ∈ items, decode place.inner (encode item).document = .ok (view item)) :
    array decode place (Value.array (items.map encode)).document = .ok (items.map view) := by
  have all : (items.map fun item => (encode item).document).mapM (decode place.inner) =
      .ok (items.map view) := by
    induction items with
    | nil => rfl
    | cons item items ih =>
        have first := each item (by simp)
        have others := ih fun other member => each other (by simp [member])
        simp [first, others, ok_bind]
  simp [array, Value.document, Function.comp_def, all, check, ok_bind]

theorem array_document {items : List α}
    (each : ∀ item ∈ items, decode place.inner (encode item).document = .ok item) :
    array decode place (Value.array (items.map encode)).document = .ok items := by
  have mapped : array decode place (Value.array (items.map encode)).document = .ok (items.map id) :=
    array_document_map each
  simpa using mapped

theorem settle_of_readFault_eq_none {document : Document}
    (sound : document.readFault place.room = none) :
    settle place document = .ok () := by
  simp [settle, sound, check]

end Decode

namespace Fields

variable {δ : Type} (fields : Fields δ) (place : Place) {entries : List (String × Value)}

/-- The entries of an encoded structure are visited in order. -/
theorem readEntries_document (draft : δ) (known : ∀ entry ∈ entries, entry.1 ∈ fields.all) :
    fields.readEntries place draft (Value.documentEntries entries) =
      entries.foldlM
        (fun draft entry => fields.visit place entry.1 entry.2.document draft) draft := by
  induction entries generalizing draft with
  | nil => rfl
  | cons entry entries ih =>
      simp only [Value.documentEntries, readEntries, known entry (by simp), if_true,
        List.foldlM_cons]
      apply bind_congr
      intro draft
      exact ih draft fun other member => known other (by simp [member])

theorem read_document (start : δ) (known : ∀ entry ∈ entries, entry.1 ∈ fields.all) :
    fields.read start place (Value.object entries).document =
      entries.foldlM
        (fun draft entry => fields.visit place.inner entry.1 entry.2.document draft) start := by
  simp only [read, Value.document, readEntries_document fields _ _ known, Decode.check, ok_bind]
  exact bind_pure _

end Fields

end Json

open Json

/-! ### Records, facts and slices -/

theorem decodeCount_document (count : Option UInt32) (place : Place) :
    Decode.option decodeCount place (encodeCount count).document = .ok count := by
  apply Decode.option_document
  · simp [Value.document]
  · intro value _
    rw [decodeCount, Decode.natural_document value.toNat_lt]
    simp [Except.map]

theorem Record.decode_document (record : Record) (place : Place) :
    Record.decode place record.encode.document = .ok record := by
  rw [Record.decode, Record.encode, Fields.read_document _ _ _ (by simp [Fields.all, fields])]
  simp only [List.foldlM_cons, fields, decodeCount_document]
  rfl

theorem decodeIndex_document {index : Nat} (small : index < UInt64.size) (place : Place) :
    decodeIndex place (Value.natural index).document = .ok index := Decode.natural_document small

theorem NameSet.ofList_toList (names : NameSet) : ofList names.toList = names := by
  ext name
  exact mem_ofList

theorem NameSet.decode_document (names : NameSet) (place : Place) :
    NameSet.decode place names.encode.document = .ok names := by
  rw [NameSet.decode, NameSet.encode, Decode.array_document]
  · simp [Except.map, ofList_toList]
  · intros
    rfl

/-- The numbers of a statement fit into 64 bits. -/
structure Statement.Fits (statement : Statement) : Prop where
  index : statement.index < UInt64.size
  startLine : statement.startLine < UInt64.size
  endLine : statement.endLine < UInt64.size

theorem Statement.decode_document {statement : Statement} (fits : statement.Fits) (place : Place) :
    Statement.decode place statement.encode.document = .ok statement := by
  rw [Statement.decode, Statement.encode, Fields.read_document _ _ _ (by simp [Fields.all, fields])]
  simp only [List.foldlM_cons, fields, decodeIndex_document fits.index,
    decodeIndex_document fits.startLine, decodeIndex_document fits.endLine, NameSet.decode_document]
  rfl

namespace Facts

/-- The numbers of all statements fit into 64 bits. -/
def Fits (facts : Facts) : Prop := ∀ statement ∈ facts.statements, statement.Fits

theorem decode_document {facts : Facts} (fits : facts.Fits) (place : Place) :
    Facts.decode place facts.encode.document = .ok facts := by
  have statements : Decode.array Statement.decode place.inner
      (Value.array (facts.statements.map Statement.encode)).document = .ok facts.statements :=
    Decode.array_document fun statement member =>
      Statement.decode_document (fits statement member) _
  rw [Facts.decode, encode, Fields.read_document _ _ _ (by simp [Fields.all, fields])]
  simp only [List.foldlM_cons, fields, statements]
  rfl

end Facts

namespace Slice

/-- The numbers of all kept statements fit into 64 bits. -/
def Fits (slice : Slice) : Prop :=
  ∀ group ∈ slice.groups, ∀ index ∈ group.statements, index < UInt64.size

theorem decode_document_group {group : Group}
    (fits : ∀ index ∈ group.statements, index < UInt64.size) (place : Place) :
    Group.decode place group.encode.document = .ok group := by
  have statements : Decode.array decodeIndex place.inner
      (Value.array (group.statements.map .natural)).document = .ok group.statements :=
    Decode.array_document fun index member => decodeIndex_document (fits index member) _
  have lines :
      Decode.array Decode.string place.inner (Value.array (group.lines.map .string)).document =
      .ok group.lines :=
    Decode.array_document fun line _ => rfl
  rw [Group.decode, Group.encode, Fields.read_document _ _ _ (by simp [Fields.all, Group.fields])]
  simp only [List.foldlM_cons, Group.fields, statements, lines, decodeCount_document]
  rfl

theorem decode_document {slice : Slice} (fits : slice.Fits) (place : Place) :
    Slice.decode place slice.encode.document = .ok slice := by
  have groups : Decode.array Group.decode place.inner
      (Value.array (slice.groups.map Group.encode)).document = .ok slice.groups :=
    Decode.array_document fun group member => decode_document_group (fits group member) _
  have target : Decode.option EventId.decode place.inner
      (Value.ofOption (fun event => .string event.text) slice.target).document = .ok slice.target :=
    Decode.option_document (by simp [Value.document]) fun event _ => rfl
  rw [Slice.decode, encode, Fields.read_document _ _ _ (by simp [Fields.all, fields])]
  simp only [List.foldlM_cons, fields, groups, target]
  rfl

end Slice

/-! ### Transcripts -/

namespace Json.Value

/-- The value with a replacement for what stands under a key, if it is an object. -/
def replace (value : Value) (key : String) (replacement : Value) : Value :=
  match value with
  | .object entries =>
    .object (entries.map fun (name, value) => (name, if name = key then replacement else value))
  | other => other

/-- An array of strings. -/
def strings (texts : List String) : Value := .array (texts.map .string)

theorem documentEntries_append (first second : List (String × Value)) :
    documentEntries (first ++ second) = documentEntries first ++ documentEntries second := by
  simp

theorem readFault_document_strings (texts : List String) {room : Nat} (positive : 0 < room) :
    (strings texts).document.readFault room = none := by
  have items : ∀ room, Document.readFaultOfItems room (texts.map Document.string) = none := by
    intro room
    induction texts with
    | nil => rfl
    | cons text texts ih => simpa [Document.readFaultOfItems, Document.readFault] using ih
  simp [strings, document, Document.readFault, Function.comp_def, items, Nat.ne_of_gt positive]

end Json.Value

namespace Cell

theorem joinStrings_document (pieces : List String) :
    joinStrings (pieces.map Document.string) = some (String.join pieces) := by
  induction pieces with
  | nil => rfl
  | cons piece pieces ih => simp [joinStrings, ih, String.join_cons]

/-- The entries of an encoded cell, with the given value for its source. -/
def entriesWith (cell : Cell) (source : Value) : List (String × Value) :=
  [("id", .string cell.id.text), ("cell_type", .string cell.kind.name), ("source", source),
    ("execution_count", encodeCount cell.count), ("state", .string cell.state.name)]

theorem decode_document_kind (kind : CellKind) (place : Place) :
    Decode.choice CellKind.names place (Value.string kind.name).document = .ok kind := by
  cases kind <;> rfl

theorem decode_document_state (state : CellState) (place : Place) :
    Decode.choice CellState.names place (Value.string state.name).document = .ok state := by
  cases state <;> rfl

theorem ofDraft_readEntries (cell : Cell) (place : Place) {source : Value}
    (reads : decodeSource place source.document = .ok cell.source) :
    (do ofDraft (← fields.readEntries place {} (Value.documentEntries (cell.entriesWith source)))) =
      .ok cell := by
  rw [entriesWith, Fields.readEntries_document _ _ _ (by simp [Fields.all, fields])]
  simp only [List.foldlM_cons, fields, reads, decode_document_kind, decode_document_state,
    decodeCount_document]
  rfl

end Cell

namespace Transcript.Entry

variable (entry : Entry) (pieces : Option (List String))

/-- The source of an entry as a string, or in pieces if any are given. -/
def sourceIn : Value :=
  match pieces with
  | none => .string entry.cell.source
  | some pieces => .strings pieces

/-- The encoded entry, in which the pieces take the place of the source if any are given. -/
def encodeIn : Value :=
  match pieces with
  | none => entry.encode
  | some pieces => entry.encode.replace "source" (.strings pieces)

/-- The entry for the identity, if the execution is named. -/
def eventEntries : List (String × Value) :=
  match entry.event with
  | some event => [(eventField, .string event.text)]
  | none => []

theorem encodeIn_eq :
    entry.encodeIn pieces =
      .object (entry.cell.entriesWith (entry.sourceIn pieces) ++ entry.eventEntries) := by
  cases pieces with
  | none => rfl
  | some pieces =>
      cases event : entry.event <;>
        simp [encodeIn, encode, event, Value.replace, Cell.entries, Cell.entriesWith,
          sourceIn, eventEntries, eventField]

theorem decodeSource_sourceIn (joined : ∀ parts ∈ pieces, String.join parts = entry.cell.source) :
    Cell.decodeSource { origin := .aside } (entry.sourceIn pieces).document =
      .ok entry.cell.source := by
  cases pieces with
  | none => rfl
  | some pieces =>
      simp [Cell.decodeSource, sourceIn, Value.strings, Value.document, Decode.settle,
        Function.comp_def, Cell.joinStrings_document, joined pieces rfl]

theorem settle_entriesWith {place : Place} (shallow : place.depth < 127) :
    ∀ item ∈ entry.cell.entriesWith (entry.sourceIn pieces),
      item.1 ≠ eventField ∧ Decode.settle place item.2.document = .ok () := by
  have positive : 0 < place.room := Nat.sub_pos_of_lt shallow
  have text : ∀ text, Decode.settle place (Value.string text).document = .ok () :=
    fun text => Decode.settle_of_readFault_eq_none rfl
  have count : Decode.settle place (encodeCount entry.cell.count).document = .ok () := by
    apply Decode.settle_of_readFault_eq_none
    cases entry.cell.count <;> rfl
  have source : Decode.settle place (entry.sourceIn pieces).document = .ok () := by
    cases pieces with
    | none => exact text _
    | some pieces =>
        exact Decode.settle_of_readFault_eq_none (Value.readFault_document_strings pieces positive)
  simp [Cell.entriesWith, eventField, text, count, source]

variable {entry pieces}

/-- All entries but the one for the identity are set aside. -/
theorem foldlM_visit_of_settle {place : Place} {items : List (String × Value)} {draft : Draft}
    (others : ∀ item ∈ items, item.1 ≠ eventField ∧ Decode.settle place item.2.document = .ok ()) :
    (Value.documentEntries items).foldlM (visit place) draft =
      .ok { draft with aside := (Value.documentEntries items).reverse ++ draft.aside } := by
  induction items generalizing draft with
  | nil => rfl
  | cons item items ih =>
      have first := others item (by simp)
      have step : visit place draft (some item.1, item.2.document) =
          .ok { draft with aside := (some item.1, item.2.document) :: draft.aside } := by
        simp [visit, first.1, first.2]
      rw [Value.documentEntries, List.foldlM_cons, step, ok_bind,
        ih fun other member => others other (by simp [member])]
      simp

theorem foldlM_visit_eventEntries (entry : Entry) (place : Place)
    (aside : List (Option String × Document)) :
    (Value.documentEntries entry.eventEntries).foldlM (visit place) { aside } =
      .ok { event := entry.event.map some, aside } := by
  rcases entry with ⟨cell, event⟩
  cases event <;> rfl

theorem decode_document {place : Place} (shallow : place.depth < 126)
    (joined : ∀ parts ∈ pieces, String.join parts = entry.cell.source) :
    Entry.decode place (entry.encodeIn pieces).document = .ok entry := by
  have deeper : place.inner.depth < 127 := Nat.succ_lt_succ shallow
  have aside :=
    entry.cell.ofDraft_readEntries { origin := .aside } (entry.decodeSource_sourceIn pieces joined)
  have event : (entry.event.map some).join = entry.event := by
    cases entry.event <;> rfl
  rw [encodeIn_eq, Value.document, Value.documentEntries_append, Entry.decode, List.foldlM_append,
    foldlM_visit_of_settle (entry.settle_entriesWith pieces deeper), ok_bind, List.append_nil,
    foldlM_visit_eventEntries]
  simp only [ok_bind, Decode.check, List.reverse_reverse, event]
  rw [← bind_assoc, aside]
  rfl

end Transcript.Entry

namespace Transcript

/-- The encoded transcript, in which the pieces for entry number `n` take the place of its source if
any are given. -/
def encodeIn (transcript : Transcript) (pieces : Nat → Option (List String)) : Value :=
  .object
    [("cells",
      .array (transcript.entries.zipIdx.map fun (entry, number) => entry.encodeIn (pieces number)))]

/-- The pieces for each entry, if any are given, are joined to its source. -/
def SplitInto (transcript : Transcript) (pieces : Nat → Option (List String)) : Prop :=
  ∀ number entry, transcript.entries[number]? = some entry →
    ∀ parts ∈ pieces number, String.join parts = entry.cell.source

theorem encodeIn_none (transcript : Transcript) :
    transcript.encodeIn (fun _ => none) = transcript.encode := by
  have same : transcript.entries.zipIdx.map (Entry.encode ∘ Prod.fst) =
      transcript.entries.map Entry.encode := by
    rw [← List.map_map, List.zipIdx_map_fst]
  rw [encode, ← same]
  rfl

theorem decode_document {transcript : Transcript} {pieces : Nat → Option (List String)}
    (split : transcript.SplitInto pieces) :
    Transcript.decode { origin := .text } (transcript.encodeIn pieces).document =
      .ok transcript := by
  have entries : Decode.array Entry.decode { origin := .text, depth := 1 }
      (Value.array (transcript.entries.zipIdx.map fun (entry, number) =>
        entry.encodeIn (pieces number))).document =
        .ok (transcript.entries.zipIdx.map Prod.fst) := by
    apply Decode.array_document_map
    rintro ⟨entry, number⟩ member
    apply Entry.decode_document
    · decide
    · exact split number entry (List.mem_zipIdx_iff_getElem?.mp member)
  rw [List.zipIdx_map_fst] at entries
  rw [Transcript.decode, encodeIn, Fields.read_document _ _ _ (by simp [Fields.all, fields])]
  simp only [List.foldlM_cons, fields, Place.inner, Nat.zero_add, entries]
  rfl

end Transcript

/-! ### Encoded values fit -/

theorem fits_encodeCount (count : Option UInt32) : (encodeCount count).Fits := by
  cases count with
  | none => trivial
  | some count => exact Nat.lt_trans count.toNat_lt (by decide)

theorem Record.fits_encode (record : Record) : record.encode.Fits := by
  simp [encode, Value.Fits, fits_encodeCount]

theorem Facts.Fits.fits_encode {facts : Facts} (fits : facts.Fits) : facts.encode.Fits := by
  have names : ∀ names : NameSet, names.encode.Fits := by
    simp [NameSet.encode, Value.Fits]
  simp only [encode, Value.Fits, Value.fitEntries_iff, Value.fitAll_iff,
    List.mem_singleton, forall_eq, List.forall_mem_map]
  intro statement member
  simp [Statement.encode, Value.Fits, names, (fits statement member).index,
    (fits statement member).startLine, (fits statement member).endLine]

theorem Slice.Fits.fits_encode {slice : Slice} (fits : slice.Fits) : slice.encode.Fits := by
  have target : (Value.ofOption (fun event : EventId => .string event.text) slice.target).Fits := by
    cases slice.target <;> trivial
  have groups : ∀ group ∈ slice.groups, group.encode.Fits := by
    intro group member
    simpa [Group.encode, Value.Fits, fits_encodeCount] using fits group member
  simp only [encode, Value.Fits, Value.fitEntries_iff, Value.fitAll_iff, List.forall_mem_cons,
    List.forall_mem_map]
  exact ⟨target, groups, by simp⟩

theorem Transcript.Entry.fits_encodeIn (entry : Entry) (pieces : Option (List String)) :
    (entry.encodeIn pieces).Fits := by
  have source : (entry.sourceIn pieces).Fits := by
    cases pieces <;> simp [sourceIn, Value.strings, Value.Fits]
  have event : ∀ item ∈ entry.eventEntries, item.2.Fits := by
    rcases entry with ⟨cell, event⟩
    cases event <;> simp [eventEntries, Value.Fits]
  rw [encodeIn_eq, Value.Fits, Value.fitEntries_iff, List.forall_mem_append]
  refine ⟨?_, event⟩
  simp [Cell.entriesWith, Value.Fits, source, fits_encodeCount]

theorem Transcript.fits_encodeIn (transcript : Transcript) (pieces : Nat → Option (List String)) :
    (transcript.encodeIn pieces).Fits := by
  simp only [encodeIn, Value.Fits, Value.fitEntries_iff, Value.fitAll_iff,
    List.mem_singleton, forall_eq, List.forall_mem_map]
  intro item _
  exact item.1.fits_encodeIn _

/-- A transcript is decoded from the text that it is encoded as, and still so if sources are given
by strings that are joined to them. Records are decoded from the text that lists them, and so are
facts and slices whose numbers fit into 64 bits. -/
theorem decoding_undoes_encoding :
    (∀ transcript : Transcript, Json.decode Transcript.decode transcript.encode.pretty =
      .ok transcript) ∧
      (∀ (transcript : Transcript) (pieces : Nat → Option (List String)),
        transcript.SplitInto pieces →
        Json.decode Transcript.decode (transcript.encodeIn pieces).pretty = .ok transcript) ∧
      (∀ records : List Record, Json.decode (Decode.array Record.decode)
        ((Value.array (records.map Record.encode)).pretty ++ "\n") = .ok records) ∧
      (∀ facts : Facts, facts.Fits → Json.decode Facts.decode facts.encode.pretty = .ok facts) ∧
      (∀ slice : Slice, slice.Fits → Json.decode Slice.decode slice.encode.pretty = .ok slice) := by
  have inPieces : ∀ (transcript : Transcript) (pieces : Nat → Option (List String)),
      transcript.SplitInto pieces →
      Json.decode Transcript.decode (transcript.encodeIn pieces).pretty = .ok transcript := by
    intro transcript pieces split
    rw [decode_pretty _ (transcript.fits_encodeIn pieces), Transcript.decode_document split]
  refine ⟨?_, inPieces, ?_, ?_, ?_⟩
  · intro transcript
    rw [← transcript.encodeIn_none]
    exact inPieces transcript _ (by simp [Transcript.SplitInto])
  · intro records
    rw [decode_pretty_append _ (by simp [Value.Fits, Record.fits_encode]) (Or.inr rfl)]
    exact Decode.array_document fun record _ => record.decode_document _
  · intro facts fits
    rw [decode_pretty _ fits.fits_encode, Facts.decode_document fits]
  · intro slice fits
    rw [decode_pretty _ fits.fits_encode, Slice.decode_document fits]

namespace Sample

/-- A transcript with an unusual text, a missing count and a cell that was not executed. -/
def unusual : Transcript :=
  ⟨[⟨⟨⟨"a"⟩, .code, "x = \"\\t\"\n\u0001é", some 3, .error⟩, some ⟨"e1"⟩⟩,
    ⟨⟨⟨""⟩, .markdown, "", none, .init⟩, none⟩]⟩

/-- The sources of the transcript in pieces. -/
def pieces : Nat → Option (List String)
  | 0 => some ["x = \"\\", "", "t\"\n", "\u0001é"]
  | _ => some []

theorem splitInto_pieces : unusual.SplitInto pieces := by
  intro number entry found parts member
  match number with
  | 0 =>
      simp only [unusual, List.getElem?_cons_zero, Option.some.injEq] at found
      subst found
      cases member
      decide
  | 1 =>
      simp only [unusual, List.getElem?_cons_succ, List.getElem?_cons_zero,
        Option.some.injEq] at found
      subst found
      cases member
      decide
  | number + 2 => simp [unusual] at found

end Sample

theorem decoding_undoes_encoding_sample :
    Sample.unusual.SplitInto Sample.pieces ∧
      Json.decode Transcript.decode (Sample.unusual.encodeIn Sample.pieces).pretty =
        .ok Sample.unusual ∧
      (∃ facts : Facts, facts.Fits ∧ facts.isEmpty = false ∧
        Json.decode Facts.decode facts.encode.pretty = .ok facts) ∧
      ∃ slice : Slice, slice.Fits ∧ slice.isEmpty = false ∧
        Json.decode Slice.decode slice.encode.pretty = .ok slice := by
  have facts : Facts.Fits ⟨[⟨0, 0, 2, .ofList ["b", "a"], ∅⟩]⟩ := by
    intro statement member
    cases List.mem_singleton.mp member
    exact ⟨by decide, by decide, by decide⟩
  have slice : Slice.Fits ⟨some ⟨"e1"⟩, [⟨⟨"a"⟩, ⟨"e1"⟩, none, [0, 2], ["x", ""]⟩]⟩ := by
    intro group member index
    cases List.mem_singleton.mp member
    revert index
    decide
  exact ⟨Sample.splitInto_pieces, decoding_undoes_encoding.2.1 _ _ Sample.splitInto_pieces,
    ⟨_, facts, rfl, decoding_undoes_encoding.2.2.2.1 _ facts⟩,
    ⟨_, slice, rfl, decoding_undoes_encoding.2.2.2.2 _ slice⟩⟩

end NotebookSlice
