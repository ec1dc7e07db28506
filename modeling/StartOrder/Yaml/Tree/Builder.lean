import StartOrder.NameMap
import StartOrder.Yaml.Token.Reader
import StartOrder.Yaml.Tree

/-!
# Building trees from tokens

A document is built token by token. The collections that are open form a stack of frames; each frame
has a slot that says what comes next in it.

Nodes may be missing almost everywhere, and a token may be the first to show it: a comma where a
value should be, or the end of a block behind a dash. So a token is taken in two steps. First it
settles what is missing before it, which puts empty scalars into slots and may close a collection
that has no end of its own (`Builder.settle`). Then it is consumed by the frame that is open, of
which every slot knows the tokens that may follow (`Builder.consume`).
-/

namespace StartOrder.Yaml

/-- Properties that stand before a node. -/
structure Properties where
  start : Mark
  anchor : Option String := none
  tag : Option Tag := none

/-- What is known of a collection when it is opened. -/
structure Head where
  mark : Mark
  tag : Option Tag
  anchor : Option Nat

/-- What comes next in a mapping. A key or value that is missing would stand at the place given. -/
inductive MappingSlot where
  | beforeKey
  | key (missing : Mark)
  | beforeValue (key : Tree)
  | value (key : Tree) (missing : Mark)

/-- What comes next in a mapping within brackets: an entry, a comma, a marked key, a value. -/
inductive FlowSlot where
  | entry
  | comma
  | key
  | bareKey (key : Tree)
  | beforeValue (key : Tree)
  | value (key : Tree)

/-- What comes next in a single pair within square brackets. -/
inductive PairSlot where
  | key
  | beforeValue (key : Tree)
  | value (key : Tree)

/-- An open collection, its items or entries last first. -/
inductive Frame where
  /-- The document, which lacks its root. -/
  | document
  /-- A block sequence. With `dashes` alone it ends without an end token. `missing` is the place of
  the item behind a dash. -/
  | blockSequence (dashes : Bool) (head : Head) (items : List Tree) (missing : Option Mark)
  | blockMapping (head : Head) (entries : List (Tree × Tree)) (slot : MappingSlot)
  /-- A sequence in brackets, which lacks an item or else a comma. -/
  | flowSequence (head : Head) (items : List Tree) (comma : Bool)
  | flowPair (mark : Mark) (slot : PairSlot)
  | flowMapping (head : Head) (entries : List (Tree × Tree)) (slot : FlowSlot)

namespace Frame

/-- Whether a frame lacks a node, and if so whether it may be a block collection and whether a
sequence may begin with its first dash. -/
def lacksNode : Frame → Option (Bool × Bool)
  | .document => some (true, false)
  | .blockSequence _ _ _ (some _) => some (true, false)
  | .blockSequence _ _ _ none => none
  | .blockMapping _ _ (.key _) => some (true, true)
  | .blockMapping _ _ (.value _ _) => some (true, true)
  | .blockMapping .. => none
  | .flowSequence _ _ comma => if comma then none else some (false, false)
  | .flowPair _ .key => some (false, false)
  | .flowPair _ (.value _) => some (false, false)
  | .flowPair .. => none
  | .flowMapping _ _ .entry => some (false, false)
  | .flowMapping _ _ .key => some (false, false)
  | .flowMapping _ _ (.value _) => some (false, false)
  | .flowMapping .. => none

/-- What a node makes of the frame that lacks it: the frame with the node in it, or, for the
document and a pair, the node that is now complete. -/
def place (node : Tree) : Frame → Frame ⊕ Tree
  | .document => .inr node
  | .blockSequence dashes head items _ => .inl (.blockSequence dashes head (node :: items) none)
  | .blockMapping head entries (.key _) => .inl (.blockMapping head entries (.beforeValue node))
  | .blockMapping head entries (.value key _) =>
    .inl (.blockMapping head ((key, node) :: entries) .beforeKey)
  | .blockMapping head entries slot => .inl (.blockMapping head entries slot)
  | .flowSequence head items _ => .inl (.flowSequence head (node :: items) true)
  | .flowPair mark .key => .inl (.flowPair mark (.beforeValue node))
  | .flowPair mark (.beforeValue key) | .flowPair mark (.value key) =>
    .inr (.mapping mark none [(key, node)])
  | .flowMapping head entries .key => .inl (.flowMapping head entries (.beforeValue node))
  | .flowMapping head entries (.value key) | .flowMapping head entries (.bareKey key)
  | .flowMapping head entries (.beforeValue key) =>
    .inl (.flowMapping head ((key, node) :: entries) .comma)
  | .flowMapping head entries _ => .inl (.flowMapping head entries (.bareKey node))

/-- What a token says about nodes that are missing in a frame: the frame without the gap, or the
collection that ends before the token. -/
def settle (t : Token) (f : Frame) : Frame ⊕ Tree :=
  match f, t.kind with
  | .blockSequence false head items (some m), .blockEntry
  | .blockSequence false head items (some m), .blockEnd =>
    .inl (.blockSequence false head (.empty m :: items) none)
  | .blockSequence true head items (some m), .blockEntry =>
    .inl (.blockSequence true head (.empty m :: items) none)
  | .blockSequence true head items (some m), .key
  | .blockSequence true head items (some m), .value
  | .blockSequence true head items (some m), .blockEnd =>
    .inr (.sequence head.mark head.tag (.empty m :: items).reverse)
  | .blockSequence true head items none, kind =>
    if kind = .blockEntry then .inl f else .inr (.sequence head.mark head.tag items.reverse)
  | .blockMapping head entries (.key m), .value =>
    .inl (.blockMapping head entries (.beforeValue (.empty m)))
  | .blockMapping head entries (.key m), .key
  | .blockMapping head entries (.key m), .blockEnd =>
    .inl (.blockMapping head ((.empty m, .empty t.start) :: entries) .beforeKey)
  | .blockMapping head entries (.beforeValue key), kind =>
    if kind = .value then .inl f
    else .inl (.blockMapping head ((key, .empty t.start) :: entries) .beforeKey)
  | .blockMapping head entries (.value key m), .key
  | .blockMapping head entries (.value key m), .value
  | .blockMapping head entries (.value key m), .blockEnd =>
    .inl (.blockMapping head ((key, .empty m) :: entries) .beforeKey)
  | .flowPair mark (.beforeValue key), kind =>
    if kind = .value then .inl f else .inr (.mapping mark none [(key, .empty t.start)])
  | .flowPair mark (.value key), .flowEntry
  | .flowPair mark (.value key), .flowSequenceEnd =>
    .inr (.mapping mark none [(key, .empty t.start)])
  | .flowMapping head entries .key, .value =>
    .inl (.flowMapping head entries (.beforeValue (.empty t.start)))
  | .flowMapping head entries .key, .flowEntry
  | .flowMapping head entries .key, .flowMappingEnd =>
    .inl (.flowMapping head ((.empty t.start, .empty t.start) :: entries) .comma)
  | .flowMapping head entries (.bareKey key), _ =>
    .inl (.flowMapping head ((key, .empty t.start) :: entries) .comma)
  | .flowMapping head entries (.beforeValue key), kind =>
    if kind = .value then .inl f
    else .inl (.flowMapping head ((key, .empty t.start) :: entries) .comma)
  | .flowMapping head entries (.value key), .flowEntry
  | .flowMapping head entries (.value key), .flowMappingEnd =>
    .inl (.flowMapping head ((key, .empty t.start) :: entries) .comma)
  | _, _ => .inl f

end Frame

/-! ## The builder -/

/-- How far a text has been read. -/
inductive Stage where
  /-- Before the first document, with the directives declared. -/
  | before
  /-- Behind `---`, where the root may be missing. -/
  | marked
  | inside
  | behind (root : Tree)

/-- A document that is being built. -/
structure Builder where
  stage : Stage := .before
  version : Bool := false
  /-- The declared tag handles and what they stand for. -/
  handles : List (String × List UInt8) := []
  /-- The open collections, innermost first. -/
  frames : List Frame := []
  properties : Option Properties := none
  /-- The anchors by name, and the complete nodes that have one. -/
  names : NameMap Nat := ∅
  anchors : List (Nat × Tree) := []

namespace Builder

/-- Number an anchor: the number of names there are, whether the name is among them or not. -/
def declare (b : Builder) (name : Option String) : Builder × Option Nat :=
  match name with
  | none => (b, none)
  | some name => ({ b with names := b.names.insert name b.names.size }, some b.names.size)

/-- Note a complete node under the number of its anchor. -/
def note (b : Builder) (anchor : Option Nat) (node : Tree) : Builder :=
  match anchor with
  | none => b
  | some n => { b with anchors := (n, node) :: b.anchors }

/-- The anchor of a collection. -/
def Frame.anchor : Frame → Option Nat
  | .blockSequence _ head _ _ => head.anchor
  | .blockMapping head _ _ => head.anchor
  | .flowSequence head _ _ => head.anchor
  | .flowMapping head _ _ => head.anchor
  | _ => none

/-- Put a complete node into the innermost frame. A pair that it completes goes on to the next. -/
def place (b : Builder) (node : Tree) : Builder :=
  match b.frames with
  | [] => { b with stage := .behind node }
  | f :: rest => match f.place node with
    | .inl f => { b with frames := f :: rest }
    | .inr root => match rest with
      | [] => { b with frames := [], stage := .behind root }
      | g :: rest => match g.place root with
        | .inl g => { b with frames := g :: rest }
        | .inr _ => b

/-- Close the innermost frame with its node. -/
def close (b : Builder) (f : Frame) (node : Tree) : Builder :=
  { b with frames := b.frames.tail }.note (Frame.anchor f) node |>.place node

/-- Fill the gaps that a token shows, and end the collections that it ends. -/
def settle (b : Builder) (t : Token) : Builder :=
  match b.frames with
  | [] => b
  | f :: rest => match f.settle t with
    | .inl f => { b with frames := f :: rest }
    | .inr node =>
      -- only pairs and sequences of dashes end so, and neither contains the other
      let b := b.close f node
      match b.frames with
      | [] => b
      | g :: rest => match g.settle t with
        | .inl g => { b with frames := g :: rest }
        | .inr _ => b

/-- Whether a token belongs to the node whose properties were read. -/
def continues (p : Properties) (block dash : Bool) : TokenKind → Bool
  | .anchor _ => p.anchor.isNone
  | .tag .. => p.tag.isNone
  | .scalar .. | .flowSequenceStart | .flowMappingStart => true
  | .blockSequenceStart | .blockMappingStart => block
  | .blockEntry => dash
  | _ => false

/-- Place an empty scalar where properties were read and the token does not go on with their
node. -/
def settleProperties (b : Builder) (t : Token) : Builder :=
  match b.properties with
  | none => b
  | some p =>
    let (block, dash) := (b.frames.head?.bind Frame.lacksNode).getD (false, false)
    if continues p block dash t.kind then b
    else
      let node := Tree.scalar p.start p.tag .plain ""
      let (b, anchor) := { b with properties := none }.declare p.anchor
      (b.note anchor node).place node

/-- The octets that a handle stands for, where it is declared or has a meaning without that. -/
def handle? (b : Builder) (handle : String) : Option (List UInt8) :=
  (b.handles.lookup handle).or (
    if handle = "!" then some (Tag.octetsOf "!")
    else if handle = "!!" then some (Tag.octetsOf "tag:yaml.org,2002:")
    else none)

/-- What a tag says: a verbatim one as it is, another with its handle replaced. -/
def resolveTag (b : Builder) (start : Mark) (handle : String) (suffix : List UInt8) :
    Except Unreadable Tag :=
  if handle = "" then .ok (.ofOctets suffix)
  else match b.handle? handle with
    | some lead => .ok (.ofOctets (Tag.counting lead ++ suffix))
    | none => .error (.undefinedTagHandle start)

/-- Open a collection with the properties read for it. -/
def openWith (b : Builder) (start : Mark) (frame : Head → Frame) : Builder :=
  let p := b.properties.getD { start }
  let (b, anchor) := { b with properties := none }.declare p.anchor
  { b with frames := frame ⟨p.start, p.tag, anchor⟩ :: b.frames }

/-- Take a token where a node is lacking. -/
def consumeNode (b : Builder) (t : Token) (block dash : Bool) : Except Unreadable Builder :=
  let p := b.properties.getD { start := t.start }
  match t.kind with
  | .alias name => match b.names.find? name with
    | some anchor => .ok (b.place (.alias t.start anchor))
    | none => .error (.unknownAnchor t.start)
  | .anchor name => .ok { b with properties := some { p with anchor := some name } }
  | .tag handle suffix => match b.resolveTag t.start handle suffix with
    | .ok tag => .ok { b with properties := some { p with tag := some tag } }
    | .error e => .error e
  | .scalar style text =>
    let node := Tree.scalar p.start p.tag style text
    let (b, anchor) := { b with properties := none }.declare p.anchor
    .ok ((b.note anchor node).place node)
  | .flowSequenceStart => .ok (b.openWith t.start (.flowSequence · [] false))
  | .flowMappingStart => .ok (b.openWith t.start (.flowMapping · [] .entry))
  | .blockSequenceStart =>
    if block then .ok (b.openWith t.start (.blockSequence false · [] none))
    else .error (.unexpectedToken t.start)
  | .blockMappingStart =>
    if block then .ok (b.openWith t.start (.blockMapping · [] .beforeKey))
    else .error (.unexpectedToken t.start)
  | .blockEntry =>
    if dash then .ok (b.openWith t.start (.blockSequence true · [] (some t.stop)))
    else .error (.unexpectedToken t.start)
  | _ => .error (.unexpectedToken t.start)

/-- Take a token within a document. -/
def consume (b : Builder) (t : Token) : Except Unreadable Builder :=
  match b.frames with
  | [] => .error .severalDocuments
  | f :: rest =>
    let next (f : Frame) : Except Unreadable Builder := .ok { b with frames := f :: rest }
    match f, t.kind with
    | .blockSequence dashes head items none, .blockEntry =>
      next (.blockSequence dashes head items (some t.stop))
    | .blockSequence false head items none, .blockEnd =>
      .ok (b.close f (.sequence head.mark head.tag items.reverse))
    | .blockMapping head entries .beforeKey, .key => next (.blockMapping head entries (.key t.stop))
    | .blockMapping head entries .beforeKey, .blockEnd =>
      .ok (b.close f (.mapping head.mark head.tag entries.reverse))
    | .blockMapping head entries (.beforeValue key), .value =>
      next (.blockMapping head entries (.value key t.stop))
    | .flowSequence head items true, .flowEntry => next (.flowSequence head items false)
    | .flowSequence head items _, .flowSequenceEnd =>
      .ok (b.close f (.sequence head.mark head.tag items.reverse))
    | .flowSequence _ _ false, .key =>
      .ok { b with frames := .flowPair t.start .key :: b.frames }
    -- the indicator behind a key that is missing is passed over
    | .flowPair mark .key, .value | .flowPair mark .key, .flowEntry
    | .flowPair mark .key, .flowSequenceEnd => next (.flowPair mark (.beforeValue (.empty t.stop)))
    | .flowPair mark (.beforeValue key), .value => next (.flowPair mark (.value key))
    | .flowMapping head entries .comma, .flowEntry => next (.flowMapping head entries .entry)
    | .flowMapping head entries .comma, .flowMappingEnd
    | .flowMapping head entries .entry, .flowMappingEnd =>
      .ok (b.close f (.mapping head.mark head.tag entries.reverse))
    | .flowMapping head entries .entry, .key => next (.flowMapping head entries .key)
    | .flowMapping head entries (.beforeValue key), .value =>
      next (.flowMapping head entries (.value key))
    | f, _ => match f.lacksNode with
      | some (block, dash) => b.consumeNode t block dash
      | none => .error (.unexpectedToken t.start)

/-- Take a token of a document: settle what it shows to be missing, then add it. -/
def step (b : Builder) (t : Token) : Except Unreadable Builder :=
  ((b.settleProperties t).settle t).consume t

/-! ## Documents -/

/-- Take a directive. -/
def direct (b : Builder) (t : Token) : Except Unreadable Builder :=
  match t.kind with
  | .versionDirective major minor =>
    if b.version || major ≠ 1 || (minor ≠ 1 && minor ≠ 2) then .error (.badDirective t.start)
    else .ok { b with version := true }
  | .tagDirective handle lead =>
    if (b.handles.lookup handle).isSome then .error (.badDirective t.start)
    else .ok { b with handles := (handle, lead) :: b.handles }
  | _ => .error (.badDirective t.start)

/-- Whether a token stands between documents. -/
def isOutside : TokenKind → Bool
  | .versionDirective .. | .tagDirective .. | .documentStart | .documentEnd | .streamEnd => true
  | _ => false

/-- Take a token that stands within or behind the root. A marker ends the root; behind it only end
markers may follow. -/
def within (b : Builder) (t : Token) : Except Unreadable Builder :=
  let b := if isOutside t.kind then b.settleProperties t else b
  match b.stage with
  | .behind _ => match t.kind with
    | .documentEnd | .streamEnd => .ok b
    | _ => .error .severalDocuments
  | _ => b.step t

/-- Take a token of a text. -/
def take (b : Builder) (t : Token) : Except Unreadable Builder :=
  let declared := b.version || !b.handles.isEmpty
  match b.stage, t.kind with
  | .before, .versionDirective .. | .before, .tagDirective .. => b.direct t
  | .before, .documentStart => .ok { b with stage := .marked, frames := [.document] }
  | .before, .streamEnd =>
    if declared then .error (.unexpectedToken t.start)
    else .ok { b with stage := .behind (.empty {}) }
  | .before, _ =>
    if declared then .error (.unexpectedToken t.start)
    else { b with stage := .inside, frames := [.document] }.within t
  | .marked, kind =>
    if isOutside kind then
      { b with stage := .behind (.empty t.start), frames := [] }.within t
    else { b with stage := .inside }.within t
  | _, _ => b.within t

end Builder

/-- The document that a text holds. A text without any has an empty scalar as root. -/
def Document.ofText? (text : String) : Except Unreadable Document := do
  let b ← (← tokens text.toList).foldlM Builder.take {}
  match b.stage with
  | .behind root => pure ⟨root, b.anchors⟩
  | _ => throw (.unexpectedToken {})

end StartOrder.Yaml
