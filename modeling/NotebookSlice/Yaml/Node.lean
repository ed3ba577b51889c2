import NotebookSlice.Yaml.Token

/-!
# YAML documents

The nodes of a document are scalars, sequences and mappings. A node may carry an anchor, to which
later references refer, and a tag.
-/

namespace NotebookSlice.Yaml

/-- A node of a document. -/
inductive Node where
  /-- A scalar; `plain` says that it stands without marks. -/
  | scalar (text : String) (plain : Bool) (tag : Option String)
  | sequence (items : List Node) (tag : Option String)
  | mapping (entries : List (Node × Node)) (tag : Option String)
deriving Repr, Inhabited

namespace Node

/-- The node that stands where nothing is written. -/
def empty : Node := .scalar "" true none

end Node

/-- What is known while the nodes of a document are found. -/
structure Known where
  /-- The tokens that follow. -/
  rest : List Token
  /-- The nodes with anchors, the last one first. -/
  anchors : List (List Char × Node) := []
  /-- The handles of tags and what they stand for. -/
  handles : List (List Char × List Char) := []
deriving Inhabited

namespace Known

/-- Whether one of the given tokens follows. -/
def follows (known : Known) (tokens : List Token) : Bool :=
  known.rest.head?.any fun token => token ∈ tokens

/-- Skips a token. -/
def next (known : Known) : Known := { known with rest := known.rest.drop 1 }

/-- Remembers the node of an anchor. -/
def bind (known : Known) (anchor : Option (List Char)) (node : Node) : Known :=
  match anchor with
  | some name => { known with anchors := (name, node) :: known.anchors }
  | none => known

/-- The whole text of a tag; none if its handle is not known. -/
def tag? (known : Known) (handle suffix : List Char) : Option String :=
  if handle.isEmpty then some (String.ofList suffix)
  else (known.handles.lookup handle).map fun beginning => String.ofList (beginning ++ suffix)

end Known

/-- The handles that are known in every document. -/
def standardHandles : List (List Char × List Char) :=
  [(['!'], ['!']), (['!', '!'], "tag:yaml.org,2002:".toList)]

/-- The anchor and the tag in front of a node. -/
structure Properties where
  anchor : Option (List Char) := none
  tag : Option String := none
deriving Inhabited

namespace Properties

/-- Whether there is an anchor or a tag. -/
def isPresent (properties : Properties) : Bool := properties.anchor.isSome || properties.tag.isSome

/-- Reads at most one anchor and one tag, in any order. -/
def read? (known : Known) : Option (Properties × Known) :=
  match known.rest with
  | .anchor name :: .tag handle suffix :: _ | .tag handle suffix :: .anchor name :: _ =>
    (known.tag? handle suffix).map fun tag => (⟨some name, some tag⟩, known.next.next)
  | .anchor name :: _ => some (⟨some name, none⟩, known.next)
  | .tag handle suffix :: _ =>
    (known.tag? handle suffix).map fun tag => (⟨none, some tag⟩, known.next)
  | _ => some ({}, known)

end Properties

/-- What is expected of a node. -/
inductive Setting where
  /-- Between brackets. -/
  | flow
  | block
  /-- In a block, where the items of a sequence need not be indented. -/
  | indentless
deriving DecidableEq, Repr, Inhabited

mutual

/-- Reads a node. -/
def readNode : Nat → Setting → Known → Option (Node × Known)
  | 0, _, _ => none
  | fuel + 1, setting, known =>
    match known.rest with
    | .reference name :: _ => (known.anchors.lookup name).map fun node => (node, known.next)
    | _ => do
      let (properties, known) ← Properties.read? known
      let (node, known) ←
        match known.rest with
        | .scalar text plain :: _ =>
          some (.scalar (String.ofList text) plain properties.tag, known.next)
        | .flowSequenceStart :: _ => do
          let (items, known) ← readFlowSequence fuel true known.next
          some (.sequence items properties.tag, known)
        | .flowMappingStart :: _ => do
          let (entries, known) ← readFlowMapping fuel true known.next
          some (.mapping entries properties.tag, known)
        | .blockEntry :: _ =>
          if setting = .indentless then do
            let (items, known) ← readIndentless fuel known
            some (.sequence items properties.tag, known)
          else if properties.isPresent then some (.scalar "" true properties.tag, known)
          else none
        | .sequenceStart :: _ =>
          if setting = .flow then none
          else do
            let (items, known) ← readSequence fuel known.next
            some (.sequence items properties.tag, known)
        | .mappingStart :: _ =>
          if setting = .flow then none
          else do
            let (entries, known) ← readMapping fuel known.next
            some (.mapping entries properties.tag, known)
        | _ =>
          if properties.isPresent then some (.scalar "" true properties.tag, known) else none
      some (node, known.bind properties.anchor node)

/-- Reads a node, or the empty node if one of the given tokens follows. -/
def readOptional : Nat → Setting → List Token → Known → Option (Node × Known)
  | 0, _, _, _ => none
  | fuel + 1, setting, ends, known =>
    if known.follows ends then some (.empty, known) else readNode fuel setting known

/-- Reads the items of a sequence in a block. -/
def readSequence : Nat → Known → Option (List Node × Known)
  | 0, _ => none
  | fuel + 1, known =>
    match known.rest with
    | .blockEntry :: _ => do
      let (item, known) ← readOptional fuel .block [.blockEntry, .blockEnd] known.next
      let (items, known) ← readSequence fuel known
      some (item :: items, known)
    | .blockEnd :: _ => some ([], known.next)
    | _ => none

/-- Reads the items of a sequence that is not indented. -/
def readIndentless : Nat → Known → Option (List Node × Known)
  | 0, _ => none
  | fuel + 1, known =>
    match known.rest with
    | .blockEntry :: _ => do
      let (item, known) ← readOptional fuel .block [.blockEntry, .key, .value, .blockEnd] known.next
      let (items, known) ← readIndentless fuel known
      some (item :: items, known)
    | _ => some ([], known)

/-- Reads the entries of a mapping in a block. -/
def readMapping : Nat → Known → Option (List (Node × Node) × Known)
  | 0, _ => none
  | fuel + 1, known =>
    match known.rest with
    | .key :: _ => do
      let ends := [.key, .value, .blockEnd]
      let (key, known) ← readOptional fuel .indentless ends known.next
      let (value, known) ←
        match known.rest with
        | .value :: _ => readOptional fuel .indentless ends known.next
        | _ => some (.empty, known)
      let (entries, known) ← readMapping fuel known
      some ((key, value) :: entries, known)
    | .blockEnd :: _ => some ([], known.next)
    | _ => none

/-- Reads the items of a sequence in brackets; after the first item there has to be a comma. -/
def readFlowSequence : Nat → Bool → Known → Option (List Node × Known)
  | 0, _, _ => none
  | fuel + 1, first, known =>
    match known.rest with
    | .flowSequenceEnd :: _ => some ([], known.next)
    | token :: _ =>
      if !first && token != .flowEntry then none
      else
        let known := if first then known else known.next
        match known.rest with
        | .flowSequenceEnd :: _ => some ([], known.next)
        | .key :: _ => do
          let (key, known) ← readOptional fuel .flow
              [.value, .flowEntry, .flowSequenceEnd] known.next
          let (value, known) ←
            match known.rest with
            | .value :: _ => readOptional fuel .flow [.flowEntry, .flowSequenceEnd] known.next
            | _ => some (.empty, known)
          let (items, known) ← readFlowSequence fuel false known
          some (.mapping [(key, value)] none :: items, known)
        | _ => do
          let (item, known) ← readNode fuel .flow known
          let (items, known) ← readFlowSequence fuel false known
          some (item :: items, known)
    | [] => none

/-- Reads the entries of a mapping in brackets; after the first entry there has to be a comma. -/
def readFlowMapping : Nat → Bool → Known → Option (List (Node × Node) × Known)
  | 0, _, _ => none
  | fuel + 1, first, known =>
    match known.rest with
    | .flowMappingEnd :: _ => some ([], known.next)
    | token :: _ =>
      if !first && token != .flowEntry then none
      else
        let known := if first then known else known.next
        match known.rest with
        | .flowMappingEnd :: _ => some ([], known.next)
        | .key :: _ => do
          let (key, known) ← readOptional fuel .flow
              [.value, .flowEntry, .flowMappingEnd] known.next
          let (value, known) ←
            match known.rest with
            | .value :: _ => readOptional fuel .flow [.flowEntry, .flowMappingEnd] known.next
            | _ => some (.empty, known)
          let (entries, known) ← readFlowMapping fuel false known
          some ((key, value) :: entries, known)
        | _ => do
          let (key, known) ← readNode fuel .flow known
          let (entries, known) ← readFlowMapping fuel false known
          some ((key, .empty) :: entries, known)
    | [] => none

end

/-- Whether a directive or a mark of a document follows, or nothing. -/
def atDocumentEdge (known : Known) : Bool :=
  match known.rest with
  | [] | .documentStart :: _ | .documentEnd :: _ | .versionDirective .. ::
    _ | .tagDirective .. :: _ => true
  | _ => false

/-- Reads the directives in front of a document; `versioned` says that there was a version
already. -/
def readDirectives : Nat → Bool → Known → Option Known
  | 0, _, _ => none
  | fuel + 1, versioned, known =>
    match known.rest with
    | .versionDirective major minor :: _ =>
      if versioned || major != 1 || (minor != 1 && minor != 2) then none
      else readDirectives fuel true known.next
    | .tagDirective handle beginning :: _ =>
      let isStandard := known.handles.lookup handle == standardHandles.lookup handle
      if (known.handles.lookup handle).isSome && !isStandard then none
      else readDirectives fuel versioned
        { known.next with handles := (handle, beginning) :: known.handles }
    | _ => some known

/-- The only document among the tokens; an outer none if they are not well formed or hold more than
one document, and an inner none if they hold no document. -/
def document? (tokens : List Token) : Option (Option Node) := do
  let fuel := 4 * tokens.length + 4
  let known : Known := { rest := tokens, handles := standardHandles }
  if known.rest.isEmpty then return none
  let known ←
    if atDocumentEdge known then do
      let known ← readDirectives fuel false known
      match known.rest with
      | .documentStart :: _ => some known.next
      | _ => none
    else some known
  let (node, known) ← if atDocumentEdge known then some (.empty, known)
      else readNode fuel .block known
  if (known.rest.dropWhile (· == .documentEnd)).isEmpty then return some node else none

end NotebookSlice.Yaml
