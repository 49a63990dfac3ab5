import Chronicle.Yaml.Token.Stream

/-!
# Events of a document

The first document of a YAML stream is a sequence of events: scalars, aliases,
and the starts and ends of collections in the order of the text.  A machine with
a stack of frames reads tokens, one event a step.  An entry that is left out is
a plain scalar without text.
-/

namespace Chronicle.Yaml

/-! ## Events -/

/-- The anchor and the complete tag of a node. -/
structure NodeName where
  anchor : Option String
  tag : Option Tag
  deriving DecidableEq, Repr

def NodeName.none : NodeName :=
  ⟨Option.none, Option.none⟩

inductive EventKind
  | alias (anchor : String)
  | scalar (name : NodeName) (text : String) (style : ScalarStyle)
  | sequenceStart (name : NodeName)
  | sequenceEnd
  | mappingStart (name : NodeName)
  | mappingEnd
  deriving DecidableEq, Repr

structure Event where
  kind : EventKind
  mark : Mark
  deriving Repr

/-! ## Frames -/

/-- What may come next inside an open collection, whose start is kept for
messages. -/
inductive Frame
  | blockEntry (start : Mark)
  | indentlessEntry
  | blockKey (start : Mark)
  | blockValue (start : Mark)
  | flowEntry (start : Mark) (first : Bool)
  | pairKey
  | pairValue
  | pairEnd
  | flowKey (start : Mark) (first : Bool)
  | flowValue (start : Mark)
  | flowMissingValue (start : Mark)
  deriving Repr

/-- The tokens that are left, the fault behind them, the tag handles of the
document, and the open frames, the innermost first. -/
structure Grammar where
  tokens : List Token
  fault : Option Malformed
  handles : List (String × Tag)
  frames : List Frame

namespace Grammar

/-- Reading past the last token is the fault that ended them. -/
def peek (grammar : Grammar) : Except Malformed Token :=
  match grammar.tokens, grammar.fault with
  | token :: _, _ => .ok token
  | [], some fault => .error fault
  | [], none => .ok ⟨.streamEnd, Mark.start, Mark.start⟩

def skip (grammar : Grammar) : Grammar :=
  { grammar with tokens := grammar.tokens.drop 1 }

def expecting (frames : List Frame) (grammar : Grammar) : Grammar :=
  { grammar with frames := frames }

abbrev Step := Except Malformed (Event × Grammar)

def emit (kind : EventKind) (mark : Mark) (grammar : Grammar) : Step :=
  .ok (⟨kind, mark⟩, grammar)

def emptyScalar (mark : Mark) (grammar : Grammar) : Step :=
  grammar.emit (.scalar NodeName.none "" .plain) mark

/-! ## Nodes -/

/-- The properties before a node, the mark of the first token, and the mark of
the tag. -/
structure Properties where
  anchor : Option String
  tag : Option (TagName × Mark)
  start : Mark

/-- An anchor and a tag in either order.  The token behind both of them must be
readable too. -/
def properties (grammar : Grammar) : Except Malformed (Properties × Grammar) := do
  let token ← grammar.peek
  match token.kind with
  | .anchor name =>
      let rest := grammar.skip
      let next ← rest.peek
      match next.kind with
      | .tag tag =>
          let _ ← rest.skip.peek
          return (⟨some name, some (tag, next.first), token.first⟩, rest.skip)
      | _ => return (⟨some name, none, token.first⟩, rest)
  | .tag tag =>
      let rest := grammar.skip
      let next ← rest.peek
      match next.kind with
      | .anchor name =>
          let _ ← rest.skip.peek
          return (⟨some name, some (tag, token.first), token.first⟩, rest.skip)
      | _ => return (⟨none, some (tag, token.first), token.first⟩, rest)
  | _ => return (⟨none, none, token.first⟩, grammar)

/-- A tag with a handle is complete once the handle is replaced by what it
stands for. -/
def completeTag (grammar : Grammar) (found : Properties) : Except Malformed (Option Tag) :=
  match found.tag with
  | none => .ok none
  | some (tag, place) =>
      if tag.handle.isEmpty then .ok (some tag.suffix)
      else
        match grammar.handles.find? fun entry => entry.1 == tag.handle with
        | some (_, expansion) => .ok (some (expansion ++ tag.suffix))
        | none =>
            .error
              ⟨"found undefined tag handle", place, some ("while parsing a node", found.start)⟩

/-- The next node.  Block collections are allowed in blocks only, and a sequence
without indentation only inside a block mapping.  A collection puts its frame on
the stack. -/
def node (inBlock indentless : Bool) (grammar : Grammar) : Step := do
  let first ← grammar.peek
  match first.kind with
  | .alias name => grammar.skip.emit (.alias name) first.first
  | _ =>
      let (found, grammar) ← grammar.properties
      let tag ← grammar.completeTag found
      let name : NodeName := ⟨found.anchor, tag⟩
      let start := found.start
      let token ← grammar.peek
      let opened := fun (frame : Frame) =>
        grammar.skip.expecting (frame :: grammar.frames)
      match token.kind with
      | .blockEntry =>
          if indentless then
            (grammar.expecting (.indentlessEntry :: grammar.frames)).emit (.sequenceStart name)
              start
          else missing name start token grammar
      | .scalar text style =>
          grammar.skip.emit (.scalar name text style) start
      | .flowSequenceStart =>
          (opened (.flowEntry token.first true)).emit (.sequenceStart name) start
      | .flowMappingStart => (opened (.flowKey token.first true)).emit (.mappingStart name) start
      | .blockSequenceStart =>
          if inBlock then (opened (.blockEntry token.first)).emit (.sequenceStart name) start
          else missing name start token grammar
      | .blockMappingStart =>
          if inBlock then (opened (.blockKey token.first)).emit (.mappingStart name) start
          else missing name start token grammar
      | _ => missing name start token grammar
where
  /-- Properties without content are an empty scalar; without properties content
  is missing. -/
  missing (name : NodeName) (start : Mark) (token : Token) (grammar : Grammar) : Step :=
    if name.anchor.isSome || name.tag.isSome then grammar.emit (.scalar name "" .plain) start
    else
      let construct :=
        if inBlock then "while parsing a block node" else "while parsing a flow node"
      .error ⟨"did not find expected node content", token.first, some (construct, start)⟩

/-! ## Block collections -/

/-- A node unless one of the given tokens follows, in which case it is left
out. -/
def nodeUnless (ends : TokenKind → Bool) (indentless : Bool) (mark : Mark) (grammar : Grammar) :
    Step := do
  let token ← grammar.peek
  if ends token.kind then grammar.emptyScalar mark else grammar.node true indentless

def blockEntry (start : Mark) (rest : List Frame) (grammar : Grammar) : Step := do
  let token ← grammar.peek
  match token.kind with
  | .blockEntry =>
      let ends := fun kind => kind == .blockEntry || kind == .blockEnd
      (grammar.skip.expecting (.blockEntry start :: rest)).nodeUnless ends false token.last
  | .blockEnd => (grammar.skip.expecting rest).emit .sequenceEnd token.first
  | _ =>
      throw
        ⟨"did not find expected '-' indicator", token.first,
          some ("while parsing a block collection", start)⟩

def indentlessEntry (rest : List Frame) (grammar : Grammar) : Step := do
  let token ← grammar.peek
  match token.kind with
  | .blockEntry =>
      let ends := fun kind =>
        kind == .blockEntry || kind == .key || kind == .value || kind == .blockEnd
      (grammar.skip.expecting (.indentlessEntry :: rest)).nodeUnless ends false token.last
  | _ => (grammar.expecting rest).emit .sequenceEnd token.first

def endsPair (kind : TokenKind) : Bool :=
  kind == .key || kind == .value || kind == .blockEnd

def blockKey (start : Mark) (rest : List Frame) (grammar : Grammar) : Step := do
  let token ← grammar.peek
  match token.kind with
  | .key =>
      (grammar.skip.expecting (.blockValue start :: rest)).nodeUnless endsPair true token.last
  | .blockEnd => (grammar.skip.expecting rest).emit .mappingEnd token.first
  | _ =>
      throw
        ⟨"did not find expected key", token.first, some ("while parsing a block mapping", start)⟩

def blockValue (start : Mark) (rest : List Frame) (grammar : Grammar) : Step := do
  let token ← grammar.peek
  let after := grammar.expecting (.blockKey start :: rest)
  match token.kind with
  | .value => after.skip.nodeUnless endsPair true token.last
  | _ => after.emptyScalar token.first

/-! ## Flow collections -/

def endsFlowEntry (kind : TokenKind) : Bool :=
  kind == .flowEntry || kind == .flowSequenceEnd

def endsFlowPair (kind : TokenKind) : Bool :=
  kind == .flowEntry || kind == .flowMappingEnd

/-- Between two entries a comma is required. -/
def separator (first : Bool) (problem construct : String) (start : Mark) (grammar : Grammar) :
    Except Malformed Grammar := do
  if first then return grammar
  let token ← grammar.peek
  match token.kind with
  | .flowEntry => return grammar.skip
  | _ => throw ⟨problem, token.first, some (construct, start)⟩

def flowEntry (start : Mark) (first : Bool) (rest : List Frame) (grammar : Grammar) :
    Step := do
  let token ← grammar.peek
  let close := fun (token : Token) (grammar : Grammar) =>
    (grammar.skip.expecting rest).emit .sequenceEnd token.first
  if token.kind == .flowSequenceEnd then close token grammar
  else
    let grammar ←
      grammar.separator first "did not find expected ',' or ']'" "while parsing a flow sequence"
        start
    let token ← grammar.peek
    let after := grammar.expecting (.flowEntry start false :: rest)
    if token.kind == .key then
      (after.skip.expecting (.pairKey :: after.frames)).emit (.mappingStart NodeName.none)
        token.first
    else if token.kind == .flowSequenceEnd then close token grammar
    else after.node false false

/-- A key that is left out takes the token after it along. -/
def pairKey (rest : List Frame) (grammar : Grammar) : Step := do
  let token ← grammar.peek
  let after := grammar.expecting (.pairValue :: rest)
  if token.kind == .value || endsFlowEntry token.kind then after.skip.emptyScalar token.last
  else after.node false false

def pairValue (rest : List Frame) (grammar : Grammar) : Step := do
  let token ← grammar.peek
  let after := grammar.expecting (.pairEnd :: rest)
  if token.kind == .value then
    let value ← after.skip.peek
    if endsFlowEntry value.kind then after.skip.emptyScalar value.first
    else after.skip.node false false
  else after.emptyScalar token.first

def pairEnd (rest : List Frame) (grammar : Grammar) : Step := do
  let token ← grammar.peek
  (grammar.expecting rest).emit .mappingEnd token.first

def flowKey (start : Mark) (first : Bool) (rest : List Frame) (grammar : Grammar) :
    Step := do
  let token ← grammar.peek
  let close := fun (token : Token) (grammar : Grammar) =>
    (grammar.skip.expecting rest).emit .mappingEnd token.first
  if token.kind == .flowMappingEnd then close token grammar
  else
    let grammar ←
      grammar.separator first "did not find expected ',' or '\x7d'" "while parsing a flow mapping"
        start
    let token ← grammar.peek
    if token.kind == .key then
      let after := grammar.skip.expecting (.flowValue start :: rest)
      let next ← after.peek
      if next.kind == .value || endsFlowPair next.kind then after.emptyScalar next.first
      else after.node false false
    else if token.kind == .flowMappingEnd then close token grammar
    else (grammar.expecting (.flowMissingValue start :: rest)).node false false

def flowValue (start : Mark) (rest : List Frame) (grammar : Grammar) : Step := do
  let token ← grammar.peek
  let after := grammar.expecting (.flowKey start false :: rest)
  if token.kind == .value then
    let value ← after.skip.peek
    if endsFlowPair value.kind then after.skip.emptyScalar value.first
    else after.skip.node false false
  else after.emptyScalar token.first

def flowMissingValue (start : Mark) (rest : List Frame) (grammar : Grammar) : Step := do
  let token ← grammar.peek
  (grammar.expecting (.flowKey start false :: rest)).emptyScalar token.first

/-- One event, as the innermost frame asks. -/
def step (frame : Frame) (rest : List Frame) (grammar : Grammar) : Step :=
  match frame with
  | .blockEntry start => grammar.blockEntry start rest
  | .indentlessEntry => grammar.indentlessEntry rest
  | .blockKey start => grammar.blockKey start rest
  | .blockValue start => grammar.blockValue start rest
  | .flowEntry start first => grammar.flowEntry start first rest
  | .pairKey => grammar.pairKey rest
  | .pairValue => grammar.pairValue rest
  | .pairEnd => grammar.pairEnd rest
  | .flowKey start first => grammar.flowKey start first rest
  | .flowValue start => grammar.flowValue start rest
  | .flowMissingValue start => grammar.flowMissingValue start rest

/-! ## Documents -/

/-- Steps until nothing is expected any more.  No token is passed by more than
three events. -/
def run : Nat → Grammar → List Event → List Event × Except Malformed Grammar
  | 0, grammar, events => (events.reverse, .ok grammar)
  | fuel + 1, grammar, events =>
      match grammar.frames with
      | [] => (events.reverse, .ok grammar)
      | frame :: rest =>
          match grammar.step frame rest with
          | .ok (event, next) => run fuel next (event :: events)
          | .error fault => (events.reverse, .error fault)

def isDirective (kind : TokenKind) : Bool :=
  match kind with
  | .versionDirective _ _ => true
  | .tagDirective _ _ => true
  | _ => false

/-- The handles that every document has, unless it defines them itself. -/
def standardHandles : List (String × Tag) :=
  [("!", Tag.ofText "!"), ("!!", Tag.standard "")]

/-- Reads directives: one version at most, which must be 1.1 or 1.2, and each
handle once. -/
def directives : List Token → Bool → List (String × Tag) →
    Except Malformed (List Token × List (String × Tag))
  | [], _, handles => .ok ([], handles)
  | token :: rest, versioned, handles =>
      match token.kind with
      | .versionDirective major minor =>
          if versioned then .error ⟨"found duplicate %YAML directive", token.first, none⟩
          else if major ≠ 1 ∨ (minor ≠ 1 ∧ minor ≠ 2) then
            .error ⟨"found incompatible YAML document", token.first, none⟩
          else directives rest true handles
      | .tagDirective handle expansion =>
          if handles.any fun entry => entry.1 == handle then
            .error ⟨"found duplicate %TAG directive", token.first, none⟩
          else directives rest versioned (handles ++ [(handle, expansion)])
      | _ => .ok (token :: rest, handles)

end Grammar

/-- The events of the first document, the fault that ended them, and whether the
stream goes on after the document.  Without a document there is the place where
the stream ends instead. -/
inductive EventStream
  | empty (mark : Mark)
  | document (events : List Event) (fault : Option Malformed) (goesOn : Bool)

namespace EventStream

/-- A document without content, between its boundaries. -/
def isEmptyContent (kind : TokenKind) : Bool :=
  Grammar.isDirective kind || kind == .documentStart || kind == .documentEnd || kind == .streamEnd

/-- Anything but the end of the stream after the document, a fault included, is
a second document. -/
def goesOn (grammar : Grammar) : Bool :=
  let rest := grammar.tokens.dropWhile fun token => token.kind == .documentEnd
  match rest.head? with
  | some token => token.kind != .streamEnd
  | none => grammar.fault.isSome

/-- The rest of a document whose first event is known, up to its boundary. -/
def finish (first : Except Malformed (Event × Grammar)) : EventStream :=
  match first with
  | .error fault => .document [] (some fault) false
  | .ok (event, grammar) =>
      match Grammar.run (3 * grammar.tokens.length + 3) grammar [event] with
      | (events, .error fault) => .document events (some fault) false
      | (events, .ok after) =>
          match after.peek with
          | .error fault => .document events (some fault) false
          | .ok _ => .document events none (goesOn after)

/-- A document starts with its content, or with directives and a boundary. -/
def ofGrammar (grammar : Grammar) : EventStream :=
  match grammar.peek with
  | .error fault => .document [] (some fault) false
  | .ok token =>
      if token.kind == .streamEnd then .empty token.first
      else if !Grammar.isDirective token.kind && token.kind != .documentStart then
        finish ({ grammar with handles := Grammar.standardHandles }.node true false)
      else
        match Grammar.directives grammar.tokens false [] with
        | .error fault => .document [] (some fault) false
        | .ok (tokens, handles) =>
            let grammar :=
              { grammar with tokens := tokens, handles := handles ++ Grammar.standardHandles }
            finish do
              let start ← grammar.peek
              if start.kind != .documentStart then
                throw ⟨"did not find expected <document start>", start.first, none⟩
              let content ← grammar.skip.peek
              if isEmptyContent content.kind then grammar.skip.emptyScalar content.first
              else grammar.skip.node true false

def ofText (text : List Char) : EventStream :=
  let (tokens, fault) := tokens text
  ofGrammar ⟨tokens.drop 1, fault, [], []⟩

end EventStream

end Chronicle.Yaml
