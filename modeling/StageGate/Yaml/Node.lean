import StageGate.Yaml.Tag
import StageGate.Yaml.TokenStream

/-!
Nodes of documents: what a document is made of before its scalars are read. Aliases are resolved to
copies of the nodes they name; only an alias of a container around it stays a reference.
-/

namespace StageGate.Yaml

inductive Node where
  | scalar (tag : Tag) (text : String)
  | sequence (tag : Tag) (items : List Node)
  | mapping (tag : Tag) (entries : List (Node × Node))
  /-- The container that many levels up. -/
  | back (levels : Nat)
deriving Inhabited

namespace Node

mutual

/-- Lengthens the references that leave a node, `depth` levels inside which one stands. -/
def shift (levels depth : Nat) : Node → Node
  | .scalar tag text => .scalar tag text
  | .sequence tag items => .sequence tag (shiftItems levels (depth + 1) items)
  | .mapping tag entries => .mapping tag (shiftEntries levels (depth + 1) entries)
  | .back n => .back (if n > depth then n + levels else n)

def shiftItems (levels depth : Nat) : List Node → List Node
  | [] => []
  | n :: ns => shift levels depth n :: shiftItems levels depth ns

def shiftEntries (levels depth : Nat) : List (Node × Node) → List (Node × Node)
  | [] => []
  | (k, v) :: es =>
    (shift levels depth k, shift levels depth v) :: shiftEntries levels depth es

end

end Node

/-- What an anchor names: a container that is still open, or a finished node, and its depth. -/
inductive Anchored where
  | opened (depth : Nat)
  | finished (depth : Nat) (node : Node)

/-- The tokens left and what the document has settled so far. -/
structure NodeReader where
  tokens : List Placed
  anchors : List (String × Anchored)
  handles : List (String × String)
  oldRules : Bool

namespace NodeReader

def lastLine (r : NodeReader) : Nat :=
  match r.tokens with
  | p :: _ => p.line
  | [] => 0

/-- The token that comes next. -/
def peek (r : NodeReader) : Except Refusal Token :=
  match r.tokens with
  | [] => .ok .streamEnd
  | ⟨.invalid why, _⟩ :: _ => .error why
  | ⟨t, _⟩ :: _ => .ok t

def drop (r : NodeReader) : NodeReader :=
  { r with tokens := r.tokens.drop 1 }

/-- Takes the next token if it is `t`. -/
def accept (r : NodeReader) (t : Token) : Except Refusal (Bool × NodeReader) := do
  if (← r.peek) == t then return (true, r.drop) else return (false, r)

def expect (r : NodeReader) (t : Token) : Except Refusal NodeReader := do
  if (← r.peek) == t then return r.drop else .error .malformed

def nextIs (r : NodeReader) (ts : List Token) : Except Refusal Bool := do
  return ts.contains (← r.peek)

def note (r : NodeReader) (name : Option String) (a : Anchored) : NodeReader :=
  match name with
  | none => r
  | some n => { r with anchors := (n, a) :: r.anchors }

/-- Settles the anchor of a container that ends here, unless its name has been given away since. -/
def settle (r : NodeReader) (name : Option String) (depth : Nat) (node : Node) : NodeReader :=
  match name with
  | none => r
  | some n =>
    { r with anchors := r.anchors.map fun (m, a) =>
        match a with
        | .opened d => if m == n && d == depth then (m, .finished depth node) else (m, a)
        | _ => (m, a) }

/-- The node that an alias at the given depth stands for. -/
def target (r : NodeReader) (name : String) (depth : Nat) : Except Refusal Node :=
  match r.anchors.lookup name with
  | none => .error .malformed
  | some (.opened d) => .ok (.back (depth - d))
  | some (.finished d node) => .ok (node.shift (depth - d) 0)

structure Properties where
  anchor : Option String
  /-- The full text of the tag. -/
  tag : Option String

def takeAnchor (r : NodeReader) : Except Refusal (Option String × NodeReader) := do
  match ← r.peek with
  | .anchor name => return (some name, r.drop)
  | _ => return (none, r)

def takeTag (r : NodeReader) :
    Except Refusal (Option (Option String × String) × NodeReader) := do
  match ← r.peek with
  | .tag handle suffix => return (some (handle, suffix), r.drop)
  | _ => return (none, r)

def fullTag (r : NodeReader) : Option (Option String × String) → Except Refusal (Option String)
  | none => .ok none
  | some (none, text) => .ok (some text)
  | some (some handle, suffix) =>
    match r.handles.lookup handle with
    | none => .error .malformed
    | some start => .ok (some (start ++ suffix))

/-- An anchor and a tag in either order. -/
def properties (r : NodeReader) : Except Refusal (Properties × NodeReader) := do
  let (first, r) ← r.takeAnchor
  let (tag, r) ← r.takeTag
  let (anchor, r) ← if first.isNone && tag.isSome then r.takeAnchor else .ok (first, r)
  let tag ← r.fullTag tag
  return (⟨anchor, tag⟩, r)

/-- The tag that leaves the type open. -/
def openTag : String := "!"

/-- The type of a node: the stated one, or `default` where none is stated. -/
def tagOr (stated : Option String) (default : Tag) : Tag :=
  match stated with
  | none => default
  | some t => if t == openTag then default else .ofText t

def scalarTag (r : NodeReader) (stated : Option String) (text : String) (isPlain : Bool) : Tag :=
  if isPlain || stated == some openTag then tagOr stated (.ofPlain r.oldRules text)
  else tagOr stated .str

def emptyNode : Node := .scalar .null ""

mutual

/-- A node at the given depth; block collections only where `block` holds. -/
def node (block indentless : Bool) (depth : Nat) :
    Nat → NodeReader → Except Refusal (Node × NodeReader)
  | 0, _ => .error .malformed
  | fuel + 1, r => do
    match ← r.peek with
    | .reference name => return (← r.target name depth, r.drop)
    | _ =>
      let (p, r) ← r.properties
      let t ← r.peek
      let opened := r.note p.anchor (.opened depth)
      if t == .blockEntry && indentless then
        let (items, r) ← indentlessItems (depth + 1) fuel opened
        let n := Node.sequence (tagOr p.tag .seq) items
        return (n, r.settle p.anchor depth n)
      else
        match t with
        | .scalar text isPlain =>
          let n := Node.scalar (r.scalarTag p.tag text isPlain) text
          return (n, r.drop.note p.anchor (.finished depth n))
        | .flowSequenceStart =>
          let (items, r) ← flowItems true (depth + 1) fuel opened.drop
          let n := Node.sequence (tagOr p.tag .seq) items
          return (n, r.settle p.anchor depth n)
        | .flowMappingStart =>
          let (entries, r) ← flowEntries true (depth + 1) fuel opened.drop
          let n := Node.mapping (tagOr p.tag .map) entries
          return (n, r.settle p.anchor depth n)
        | .blockSequenceStart =>
          if !block then .error .malformed
          else
            let (items, r) ← blockItems (depth + 1) fuel opened.drop
            let n := Node.sequence (tagOr p.tag .seq) items
            return (n, r.settle p.anchor depth n)
        | .blockMappingStart =>
          if !block then .error .malformed
          else
            let (entries, r) ← blockEntries (depth + 1) fuel opened.drop
            let n := Node.mapping (tagOr p.tag .map) entries
            return (n, r.settle p.anchor depth n)
        | _ =>
          if p.anchor.isNone && p.tag.isNone then .error .malformed
          else
            let n := Node.scalar (r.scalarTag p.tag "" (p.tag.isNone)) ""
            return (n, r.note p.anchor (.finished depth n))
termination_by structural n => n

/-- A node, or nothing where one of `ends` comes next. -/
def nodeUnless (ends : List Token) (block indentless : Bool) (depth : Nat) :
    Nat → NodeReader → Except Refusal (Node × NodeReader)
  | 0, _ => .error .malformed
  | fuel + 1, r => do
    if ← r.nextIs ends then return (emptyNode, r) else node block indentless depth fuel r
termination_by structural n => n

def blockItems (depth : Nat) : Nat → NodeReader → Except Refusal (List Node × NodeReader)
  | 0, _ => .error .malformed
  | fuel + 1, r => do
    let (more, r) ← r.accept .blockEntry
    if more then
      let (n, r) ← nodeUnless [.blockEntry, .blockEnd] true false depth fuel r
      let (ns, r) ← blockItems depth fuel r
      return (n :: ns, r)
    else return ([], ← r.expect .blockEnd)
termination_by structural n => n

/-- The items of a sequence that is not indented below its key. -/
def indentlessItems (depth : Nat) : Nat → NodeReader → Except Refusal (List Node × NodeReader)
  | 0, _ => .error .malformed
  | fuel + 1, r => do
    let (more, r) ← r.accept .blockEntry
    if more then
      let ends := [.blockEntry, .key, .value, .blockEnd]
      let (n, r) ← nodeUnless ends true false depth fuel r
      let (ns, r) ← indentlessItems depth fuel r
      return (n :: ns, r)
    else return ([], r)
termination_by structural n => n

def blockEntries (depth : Nat) :
    Nat → NodeReader → Except Refusal (List (Node × Node) × NodeReader)
  | 0, _ => .error .malformed
  | fuel + 1, r => do
    let ends := [.key, .value, .blockEnd]
    let (keyed, r) ← r.accept .key
    if keyed || (!r.oldRules && (← r.peek) == .value) then
      let (k, r) ← if keyed then nodeUnless ends true true depth fuel r else .ok (emptyNode, r)
      let (valued, r) ← r.accept .value
      let (v, r) ← if valued then nodeUnless ends true true depth fuel r else .ok (emptyNode, r)
      let (es, r) ← blockEntries depth fuel r
      return ((k, v) :: es, r)
    else return ([], ← r.expect .blockEnd)
termination_by structural n => n

/-- The value of a flow entry whose collection ends with `last`. -/
def flowValue (last : Token) (depth : Nat) : Nat → NodeReader → Except Refusal (Node × NodeReader)
  | 0, _ => .error .malformed
  | fuel + 1, r => do
    let (valued, r) ← r.accept .value
    if valued then nodeUnless [.flowEntry, last] false false depth fuel r
    else return (emptyNode, r)
termination_by structural n => n

def flowItems (first : Bool) (depth : Nat) :
    Nat → NodeReader → Except Refusal (List Node × NodeReader)
  | 0, _ => .error .malformed
  | fuel + 1, r => do
    let last := Token.flowSequenceEnd
    let (done, r) ← r.accept last
    if done then return ([], r)
    else
      let r ← if first then .ok r else r.expect .flowEntry
      let (keyed, r) ← r.accept .key
      if keyed then
        let ends := [.value, .flowEntry, last]
        let (k, r) ← nodeUnless ends false false (depth + 1) fuel r
        let (v, r) ← flowValue last (depth + 1) fuel r
        let (ns, r) ← flowItems false depth fuel r
        return (.mapping .map [(k, v)] :: ns, r)
      else
        let (done, r) ← r.accept last
        if done then return ([], r)
        else
          let (n, r) ← node false false depth fuel r
          let (ns, r) ← flowItems false depth fuel r
          return (n :: ns, r)
termination_by structural n => n

def flowEntries (first : Bool) (depth : Nat) :
    Nat → NodeReader → Except Refusal (List (Node × Node) × NodeReader)
  | 0, _ => .error .malformed
  | fuel + 1, r => do
    let last := Token.flowMappingEnd
    let (done, r) ← r.accept last
    if done then return ([], r)
    else
      let r ← if first then .ok r else r.expect .flowEntry
      let (keyed, r) ← r.accept .key
      if keyed || (!r.oldRules && (← r.peek) == .value) then
        let ends := [.value, .flowEntry, last]
        let (k, r) ← if keyed then nodeUnless ends false false depth fuel r else .ok (emptyNode, r)
        let (v, r) ← flowValue last depth fuel r
        let (es, r) ← flowEntries false depth fuel r
        return ((k, v) :: es, r)
      else
        let (done, r) ← r.accept last
        if done then return ([], r)
        else
          let (k, r) ← node false false depth fuel r
          let (es, r) ← flowEntries false depth fuel r
          return ((k, emptyNode) :: es, r)
termination_by structural n => n

end

/-! Documents of a stream. -/

def commonHandles : List (String × String) := [("!", "!"), ("!!", Tag.commonPrefix)]

def fuel (r : NodeReader) : Nat :=
  4 * r.tokens.length + 4

/-- The content of a document, empty where the next one starts. -/
def content (r : NodeReader) : Except Refusal (Node × NodeReader) := do
  match ← r.peek with
  | .directive _ | .documentStart | .documentEnd | .streamEnd => return (emptyNode, r)
  | _ => node true false 0 r.fuel r

structure Header where
  version : Option (Nat × Nat)
  handles : List (String × String)

/-- The directives before a document. -/
def header : Nat → NodeReader → Header → Except Refusal (Header × NodeReader)
  | 0, _, _ => .error .malformed
  | fuel + 1, r, h => do
    match ← r.peek with
    | .directive (.version major minor) =>
      if h.version.isSome || major != 1 then .error .malformed
      else header fuel r.drop { h with version := some (major, minor) }
    | .directive (.tagPrefix handle text) =>
      if (h.handles.lookup handle).isSome then .error .malformed
      else header fuel r.drop { h with handles := (handle, text) :: h.handles }
    | .directive .other => header fuel r.drop h
    | _ => return (h, r)

/-- The end of a document, and whether the next one needs no start mark. -/
def documentEnd (r : NodeReader) : Except Refusal (Bool × NodeReader) := do
  let line := r.lastLine
  let (ended, r) ← r.accept .documentEnd
  if !ended then return (false, r)
  else if (← r.peek) != .streamEnd && r.lastLine == line then .error .malformed
  else return (!r.oldRules, r)

def skipEnds : Nat → NodeReader → Except Refusal NodeReader
  | 0, r => .ok r
  | fuel + 1, r => do
    let (ended, r) ← r.accept .documentEnd
    if ended then skipEnds fuel r else return r

/-- A document that a start mark opens, or the end of the stream. -/
def stated? (r : NodeReader) : Except Refusal (Option Node × NodeReader) := do
  let r ← skipEnds r.fuel r
  if (← r.peek) == .streamEnd then return (none, r)
  else
    let (h, r) ← header r.fuel r ⟨none, []⟩
    let r ← r.expect .documentStart
    let oldRules := h.version == some (1, 1)
    let (n, r) ← content { r with anchors := [], handles := h.handles ++ commonHandles, oldRules }
    return (some n, r)

/-- The next document; without a start mark only where `bare` holds. -/
def document? (bare : Bool) (r : NodeReader) : Except Refusal (Option Node × NodeReader) := do
  match ← r.peek with
  | .directive _ | .documentStart | .streamEnd => r.stated?
  | _ =>
    if bare then
      let (n, r) ← node true false 0 r.fuel { r with anchors := [], handles := commonHandles }
      return (some n, r)
    else r.stated?

end NodeReader
end StageGate.Yaml
