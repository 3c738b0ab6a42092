/-
  Documents as trees. `Document.ofTokens?` builds the tree of the only document in a token sequence; an
  alias stays a reference, which `Document.resolve` looks up. Every collection opens with a token of its
  own, so the depth of the recursion is bounded by the number of tokens.
-/
import AskSheet.Yaml.Lexer

namespace AskSheet.Yaml

/-- A tag in full, or the mark that its octets are no text. -/
structure Tag where
  text? : Option String
  deriving DecidableEq, Repr

/-- An exclamation mark alone. It leaves a scalar that is written without a tag. -/
def Tag.bare : Tag := ⟨some "!"⟩

/-- A node of a document. An alias refers to an anchor by number. -/
inductive Node where
  | alias (anchor : Nat)
  | scalar (tag : Option Tag) (style : Style) (text : String)
  | sequence (tag : Option Tag) (items : List Node)
  | mapping (tag : Option Tag) (entries : List (Node × Node))
  deriving Repr, Inhabited

/-- A scalar that is not written at all. -/
def Node.absent : Node := .scalar none .plain ""

/-- The anchors so far: the number that each name stands for, and the scalar that was anchored with each
    number, the last one first. A collection leaves no scalar. -/
structure Anchors where
  names : List (List Char × Nat) := []
  targets : List (Nat × Option Node) := []
  deriving Repr, Inhabited

namespace Anchors

/-- Gives the name the number of names known so far, and the number this target. -/
def add (a : Anchors) (name : List Char) (target : Option Node) : Anchors :=
  { names := (name, a.names.length) :: a.names.filter (·.1 != name)
    targets := (a.names.length, target) :: a.targets }

end Anchors

/-- The tokens still to come, the anchors so far and the tag handles of the document. -/
structure Source where
  tokens : List Token
  anchors : Anchors := {}
  handles : List (List Char × List UInt8) := []
  deriving Repr, Inhabited

namespace Source

/-- The source with other tokens to come. -/
def goTo (s : Source) (tokens : List Token) : Source := { s with tokens }

/-- One of the given tokens comes next. -/
def sees (s : Source) (ts : List Token) : Bool := s.tokens.head?.any ts.contains

/-- Anchors a target, where there is a name for it. -/
def anchored (s : Source) (name : Option (List Char)) (target : Option Node) : Source :=
  match name with
  | some name => { s with anchors := s.anchors.add name target }
  | none => s

/-- The tag with this handle and rest. -/
def tag? (s : Source) (handle : List Char) (octets : List UInt8) : Option Tag := do
  let start ← if handle = [] then some [] else s.handles.lookup handle
  return { text? := String.fromUTF8? (start ++ octets).toByteArray }

/-- Anchor and tag of a node, in either order. -/
def properties (s : Source) : Option (Option (List Char) × Option Tag × Source) :=
  match s.tokens with
  | .anchor name :: .tag handle octets :: ts => (s.tag? handle octets).map fun t => (some name, some t, s.goTo ts)
  | .anchor name :: ts => some (some name, none, s.goTo ts)
  | .tag handle octets :: .anchor name :: ts =>
    (s.tag? handle octets).map fun t => (some name, some t, s.goTo ts)
  | .tag handle octets :: ts => (s.tag? handle octets).map fun t => (none, some t, s.goTo ts)
  | _ => some (none, none, s)

/-- What may follow a key or value of a block mapping that is not written. -/
def blockStops : List Token := [.key, .value, .blockEnd]

mutual

/-- The node that comes next. In a block it may be a block collection, and after a key or value a sequence
    without indentation of its own. -/
def node (block indentless : Bool) : Nat → Source → Option (Node × Source)
  | 0, _ => none
  | fuel + 1, s =>
    match s.tokens with
    | .alias name :: ts => (s.anchors.names.lookup name).map fun n => (.alias n, s.goTo ts)
    | _ =>
      match s.properties with
      | none => none
      | some (anchor, tag, s) =>
        match s.tokens with
        | .scalar style text :: ts =>
          let found := Node.scalar (tag.filter (· != .bare)) style (String.ofList text)
          some (found, (s.goTo ts).anchored anchor (some found))
        | .flowSequenceStart :: ts =>
          (flowItems true fuel ((s.goTo ts).anchored anchor none)).map fun (items, s) =>
            (.sequence tag items, s)
        | .flowMappingStart :: ts =>
          (flowEntries true fuel ((s.goTo ts).anchored anchor none)).map fun (entries, s) =>
            (.mapping tag entries, s)
        | .blockSequenceStart :: ts =>
          if !block then none
          else (blockItems fuel ((s.goTo ts).anchored anchor none)).map fun (items, s) =>
            (.sequence tag items, s)
        | .blockMappingStart :: ts =>
          if !block then none
          else (blockEntries fuel ((s.goTo ts).anchored anchor none)).map fun (entries, s) =>
            (.mapping tag entries, s)
        | ts =>
          if indentless && ts.head? = some .blockEntry then
            (indentlessItems fuel (s.anchored anchor none)).map fun (items, s) => (.sequence tag items, s)
          else if anchor.isSome || tag.isSome then
            let found := Node.scalar tag .plain ""
            some (found, s.anchored anchor (some found))
          else none

/-- The items of a block sequence. -/
def blockItems : Nat → Source → Option (List Node × Source)
  | 0, _ => none
  | fuel + 1, s =>
    match s.tokens with
    | .blockEnd :: ts => some ([], s.goTo ts)
    | .blockEntry :: ts => do
      let (item, s) ← nodeUnless [.blockEntry, .blockEnd] true false fuel (s.goTo ts)
      let (items, s) ← blockItems fuel s
      return (item :: items, s)
    | _ => none

/-- The items of a sequence that is indented like the mapping around it. -/
def indentlessItems : Nat → Source → Option (List Node × Source)
  | 0, _ => none
  | fuel + 1, s =>
    match s.tokens with
    | .blockEntry :: ts => do
      let (item, s) ← nodeUnless (.blockEntry :: blockStops) true false fuel (s.goTo ts)
      let (items, s) ← indentlessItems fuel s
      return (item :: items, s)
    | _ => some ([], s)

/-- The entries of a block mapping. -/
def blockEntries : Nat → Source → Option (List (Node × Node) × Source)
  | 0, _ => none
  | fuel + 1, s =>
    match s.tokens with
    | .blockEnd :: ts => some ([], s.goTo ts)
    | .key :: ts => do
      let (key, s) ← nodeUnless blockStops true true fuel (s.goTo ts)
      let (value, s) ← valueUnless blockStops true true fuel s
      let (entries, s) ← blockEntries fuel s
      return ((key, value) :: entries, s)
    | _ => none

/-- The items of a sequence between brackets; a comma stands before each but the first. A key among them
    starts a mapping of one entry. -/
def flowItems (first : Bool) : Nat → Source → Option (List Node × Source)
  | 0, _ => none
  | fuel + 1, s =>
    match s.tokens with
    | .flowSequenceEnd :: ts => some ([], s.goTo ts)
    | ts =>
      match (if first then some ts else if ts.head? = some .flowEntry then some ts.tail else none) with
      | none => none
      | some (.flowSequenceEnd :: ts) => some ([], s.goTo ts)
      | some (.key :: ts) => do
        let (key, s) ← pairKey fuel (s.goTo ts)
        let (value, s) ← valueUnless [.flowEntry, .flowSequenceEnd] false false fuel s
        let (items, s) ← flowItems false fuel s
        return (.mapping none [(key, value)] :: items, s)
      | some ts => do
        let (item, s) ← node false false fuel (s.goTo ts)
        let (items, s) ← flowItems false fuel s
        return (item :: items, s)

/-- The key of a mapping of one entry. The token after one that is not written is taken with it. -/
def pairKey : Nat → Source → Option (Node × Source)
  | 0, _ => none
  | fuel + 1, s =>
    if s.sees [.value, .flowEntry, .flowSequenceEnd] then some (.absent, s.goTo s.tokens.tail)
    else node false false fuel s

/-- The entries of a mapping between braces; a comma stands before each but the first. -/
def flowEntries (first : Bool) : Nat → Source → Option (List (Node × Node) × Source)
  | 0, _ => none
  | fuel + 1, s =>
    match s.tokens with
    | .flowMappingEnd :: ts => some ([], s.goTo ts)
    | ts =>
      match (if first then some ts else if ts.head? = some .flowEntry then some ts.tail else none) with
      | none => none
      | some (.flowMappingEnd :: ts) => some ([], s.goTo ts)
      | some (.key :: ts) => do
        let (key, s) ← nodeUnless [.value, .flowEntry, .flowMappingEnd] false false fuel (s.goTo ts)
        let (value, s) ← valueUnless [.flowEntry, .flowMappingEnd] false false fuel s
        let (entries, s) ← flowEntries false fuel s
        return ((key, value) :: entries, s)
      | some ts => do
        let (key, s) ← node false false fuel (s.goTo ts)
        let (entries, s) ← flowEntries false fuel s
        return ((key, .absent) :: entries, s)

/-- The node that comes next, or none where one of the given tokens comes. -/
def nodeUnless (stops : List Token) (block indentless : Bool) : Nat → Source → Option (Node × Source)
  | 0, _ => none
  | fuel + 1, s => if s.sees stops then some (.absent, s) else node block indentless fuel s

/-- The node after the token of a value, or none where that token or the node is not written. -/
def valueUnless (stops : List Token) (block indentless : Bool) : Nat → Source → Option (Node × Source)
  | 0, _ => none
  | fuel + 1, s =>
    match s.tokens with
    | .value :: ts => nodeUnless stops block indentless fuel (s.goTo ts)
    | _ => some (.absent, s)

end

end Source

/-- The tree of a document, with what its aliases stand for. -/
structure Document where
  root : Node
  anchors : Anchors
  deriving Repr, Inhabited

namespace Document

/-- The octets of a tag that every handle of a document starts with unless a directive says otherwise. -/
def defaultHandles : List (List Char × List UInt8) :=
  [(['!'], ['!'.toNat.toUInt8]),
   (['!', '!'], "tag:yaml.org,2002:".toList.map (·.toNat.toUInt8))]

/-- The directives at the start of a document and the tokens after them: at most one version, which is 1.1
    or 1.2, and at most one meaning for each handle. -/
def directives (version : Bool) (handles : List (List Char × List UInt8)) :
    List Token → Option (List (List Char × List UInt8) × List Token)
  | .version major minor :: ts =>
    if version || major ≠ 1 || (minor ≠ 1 && minor ≠ 2) then none else directives true handles ts
  | .tagHandle handle octets :: ts =>
    if (handles.lookup handle).isSome then none else directives version ((handle, octets) :: handles) ts
  | ts => some (handles, ts)

/-- The node of a document from these tokens on, and the tokens after it. -/
def content (handles : List (List Char × List UInt8)) (ts : List Token) : Option (Node × Source) :=
  Source.node true false (3 * ts.length + 3) { tokens := ts, handles := handles ++ defaultHandles }

/-- The document in a token sequence, which may hold one or, as an absent node, none. -/
def ofTokens? (ts : List Token) : Option Document :=
  match ts with
  | [] => some { root := .absent, anchors := {} }
  | _ => do
    let (handles, rest) ← directives false [] ts
    let (root, s) ← match rest with
      | .documentStart :: rest =>
        match rest with
        | [] | .version .. :: _ | .tagHandle .. :: _ | .documentStart :: _ | .documentEnd :: _ =>
          some (.absent, { tokens := rest })
        | _ => content handles rest
      | _ => if rest.length = ts.length then content [] ts else none
    guard (s.tokens.all (· == .documentEnd))
    return { root, anchors := s.anchors }

/-- The node that an alias stands for; none for a collection. Other nodes stand for themselves. -/
def resolve (d : Document) : Node → Option Node
  | .alias n => (d.anchors.targets.lookup n).join
  | node => some node

end Document

/-- The document in a text. -/
def document? (text : String) : Option Document := (tokens? text).bind Document.ofTokens?

end AskSheet.Yaml
