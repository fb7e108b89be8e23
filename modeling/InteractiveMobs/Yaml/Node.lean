import InteractiveMobs.Table
import InteractiveMobs.Yaml.Error
import InteractiveMobs.Yaml.Token

/-!
# Nodes

The tree that the tokens of a document stand for. An anchor gives the node a number that aliases
name it by; `Node.targets` lists the numbered nodes in the order in which they begin.
-/

namespace InteractiveMobs.Yaml
set_option autoImplicit false

/-- A node of a document. -/
inductive Node where
  | scalar (anchor : Option Nat) (tag : Option String) (style : ScalarStyle) (text : String)
  | sequence (anchor : Option Nat) (items : List Node)
  | mapping (anchor : Option Nat) (entries : List (Node × Node))
  | reference (target : Nat)
deriving Inhabited, Repr

namespace Node

/-- The scalar that stands where nothing is written. -/
def empty : Node := scalar none none .plain ""

/-- The node itself under its number, if it has one. -/
def ownTarget (node : Node) : List (Nat × Node) :=
  match node with
  | scalar (some n) _ _ _ | sequence (some n) _ | mapping (some n) _ => [(n, node)]
  | _ => []

mutual

/-- The numbered nodes of a tree, in the order in which they begin. -/
def targets : Node → List (Nat × Node)
  | scalar anchor tag style text => (scalar anchor tag style text).ownTarget
  | sequence anchor items => (sequence anchor items).ownTarget ++ targetsOfItems items
  | mapping anchor entries => (mapping anchor entries).ownTarget ++ targetsOfEntries entries
  | reference _ => []

/-- The numbered nodes among the items of a sequence. -/
def targetsOfItems : List Node → List (Nat × Node)
  | [] => []
  | item :: rest => item.targets ++ targetsOfItems rest

/-- The numbered nodes among the keys and values of a mapping. -/
def targetsOfEntries : List (Node × Node) → List (Nat × Node)
  | [] => []
  | (key, value) :: rest => key.targets ++ value.targets ++ targetsOfEntries rest

end

end Node

/-! ### Structure -/

/-- The numbers of anchors by name. -/
abbrev Anchors := Table String Nat

/-- What tag handles stand for. -/
abbrev Handles := List (String × String)

/-- A piece of the tree, the anchors known behind it, and the tokens that are left. -/
abbrev Parsed (α : Type) := α × Anchors × List Token

/-- The properties in front of a node. -/
structure Properties where
  anchor : Option Nat := none
  tag : Option String := none

namespace Properties

/-- The tag that a handle and a suffix write. -/
def expand (handles : Handles) (handle suffix : String) : Except Error String :=
  if handle.isEmpty then .ok suffix
  else match handles.lookup handle with
    | some expansion => .ok (expansion ++ suffix)
    | none => .error (.undefinedHandle handle)

/-- The number of a new anchor, and the anchors with it. A number is the count of the names known
before it, so a name given again takes a number without adding one. -/
def number (anchors : Anchors) (name : String) : Nat × Anchors :=
  (anchors.size, anchors.insert name anchors.size)

/-- Reads an anchor and a tag, in either order, where they are. -/
def read (handles : Handles) (anchors : Anchors) : List Token → Except Error (Parsed Properties)
  | .anchor name :: .tag handle suffix :: rest | .tag handle suffix :: .anchor name :: rest => do
    let tag ← expand handles handle suffix
    let (anchor, anchors) := number anchors name
    return ({ anchor := some anchor, tag := some tag }, anchors, rest)
  | .anchor name :: rest =>
    let (anchor, anchors) := number anchors name
    return ({ anchor := some anchor }, anchors, rest)
  | .tag handle suffix :: rest => do
    return ({ tag := some (← expand handles handle suffix) }, anchors, rest)
  | rest => .ok ({}, anchors, rest)

/-- Whether there is any. -/
def isSome (properties : Properties) : Bool := properties.anchor.isSome || properties.tag.isSome

end Properties

/-- Where a node stands, which decides what it may be. -/
inductive Place where
  /-- In a flow collection, where block collections may not be. -/
  | flow
  | block
  /-- In a block mapping, where a block sequence need not be indented. -/
  | mappingBlock
deriving DecidableEq, Repr

/-- Whether the next token is one of those before which a node of a block mapping is left out. -/
def endsEntry : List Token → Bool
  | .key :: _ | .value :: _ | .blockEnd :: _ => true
  | _ => false

/-- Whether the next token is one of those before which a node of a flow mapping is left out. -/
def endsFlowEntry (stop : Token) : List Token → Bool
  | token :: _ => token = .flowEntry || token = stop
  | [] => false

mutual

/-- Reads one node. -/
def readNode (handles : Handles) : Nat → Place → Anchors → List Token → Except Error (Parsed Node)
  | 0, _, _, _ => .error .unexpectedToken
  | depth + 1, place, anchors, tokens =>
    match tokens with
    | .reference name :: rest =>
      match anchors.get? name with
      | some target => .ok (.reference target, anchors, rest)
      | none => .error (.unknownAnchor name)
    | _ => do
      let (properties, anchors, tokens) ← Properties.read handles anchors tokens
      match tokens with
      | .scalar style text :: rest =>
        return (.scalar properties.anchor properties.tag style text, anchors, rest)
      | .flowSequenceStart :: rest => do
        let (items, anchors, rest) ← readFlowItems handles depth true anchors rest
        return (.sequence properties.anchor items, anchors, rest)
      | .flowMappingStart :: rest => do
        let (entries, anchors, rest) ← readFlowEntries handles depth true anchors rest
        return (.mapping properties.anchor entries, anchors, rest)
      | token :: rest =>
        if token = .blockEntry && place = .mappingBlock then do
          let (items, anchors, rest) ← readItems handles depth false anchors tokens
          return (.sequence properties.anchor items, anchors, rest)
        else if token = .blockSequenceStart && place ≠ .flow then do
          let (items, anchors, rest) ← readItems handles depth true anchors rest
          return (.sequence properties.anchor items, anchors, rest)
        else if token = .blockMappingStart && place ≠ .flow then do
          let (entries, anchors, rest) ← readEntries handles depth anchors rest
          return (.mapping properties.anchor entries, anchors, rest)
        else if properties.isSome then
          return (.scalar properties.anchor properties.tag .plain "", anchors, tokens)
        else throw .unexpectedToken
      | [] =>
        if properties.isSome then
          return (.scalar properties.anchor properties.tag .plain "", anchors, [])
        else throw .unexpectedToken

/-- Reads the rest of a block sequence. An indented one has an end of its own; another one ends
where no hyphen follows. -/
def readItems (handles : Handles) :
    Nat → Bool → Anchors → List Token → Except Error (Parsed (List Node))
  | 0, _, _, _ => .error .unexpectedToken
  | depth + 1, indented, anchors, tokens =>
    match tokens with
    | .blockEntry :: rest => do
      let isEmpty := match rest with
        | .blockEntry :: _ | .blockEnd :: _ => true
        | .key :: _ | .value :: _ => !indented
        | _ => false
      let (item, anchors, rest) ←
        if isEmpty then .ok (Node.empty, anchors, rest)
        else readNode handles depth .block anchors rest
      let (items, anchors, rest) ← readItems handles depth indented anchors rest
      return (item :: items, anchors, rest)
    | .blockEnd :: rest => if indented then .ok ([], anchors, rest) else .ok ([], anchors, tokens)
    | _ => if indented then .error .unexpectedToken else .ok ([], anchors, tokens)

/-- Reads the rest of a block mapping. A key or a value that is left out is empty. -/
def readEntries (handles : Handles) :
    Nat → Anchors → List Token → Except Error (Parsed (List (Node × Node)))
  | 0, _, _ => .error .unexpectedToken
  | depth + 1, anchors, tokens =>
    match tokens with
    | .blockEnd :: rest => .ok ([], anchors, rest)
    | .key :: rest => do
      let (key, anchors, rest) ←
        if endsEntry rest then .ok (Node.empty, anchors, rest)
        else readNode handles depth .mappingBlock anchors rest
      let (value, anchors, rest) ← readValue handles depth anchors rest
      let (entries, anchors, rest) ← readEntries handles depth anchors rest
      return ((key, value) :: entries, anchors, rest)
    | _ => .error .unexpectedToken

/-- Reads the value of a block mapping's entry. -/
def readValue (handles : Handles) : Nat → Anchors → List Token → Except Error (Parsed Node)
  | 0, _, _ => .error .unexpectedToken
  | depth + 1, anchors, tokens =>
    match tokens with
    | .value :: rest =>
      if endsEntry rest then .ok (Node.empty, anchors, rest)
      else readNode handles depth .mappingBlock anchors rest
    | _ => .ok (Node.empty, anchors, tokens)

/-- Reads the rest of a flow sequence. -/
def readFlowItems (handles : Handles) :
    Nat → Bool → Anchors → List Token → Except Error (Parsed (List Node))
  | 0, _, _, _ => .error .unexpectedToken
  | depth + 1, isFirst, anchors, tokens =>
    match tokens with
    | .flowSequenceEnd :: rest => .ok ([], anchors, rest)
    | _ => do
      let tokens ← match tokens with
        | .flowEntry :: rest => if isFirst then .ok tokens else .ok rest
        | _ => if isFirst then .ok tokens else .error .unexpectedToken
      match tokens with
      | .flowSequenceEnd :: rest => return ([], anchors, rest)
      | .key :: rest => do
        let (entry, anchors, rest) ← readPair handles depth anchors rest
        let (items, anchors, rest) ← readFlowItems handles depth false anchors rest
        return (.mapping none [entry] :: items, anchors, rest)
      | _ => do
        let (item, anchors, rest) ← readNode handles depth .flow anchors tokens
        let (items, anchors, rest) ← readFlowItems handles depth false anchors rest
        return (item :: items, anchors, rest)

/-- Reads a single entry that stands in a flow sequence without braces. Where its key is left
out, the token that stands there instead is passed over with it. -/
def readPair (handles : Handles) : Nat → Anchors → List Token → Except Error (Parsed (Node × Node))
  | 0, _, _ => .error .unexpectedToken
  | depth + 1, anchors, tokens => do
    let (key, anchors, rest) ← match tokens with
      | .value :: rest | .flowEntry :: rest | .flowSequenceEnd :: rest =>
        .ok (Node.empty, anchors, rest)
      | _ => readNode handles depth .flow anchors tokens
    let (value, anchors, rest) ← readFlowValue handles depth .flowSequenceEnd anchors rest
    return ((key, value), anchors, rest)

/-- Reads the value of an entry in a flow collection that ends with `stop`. -/
def readFlowValue (handles : Handles) :
    Nat → Token → Anchors → List Token → Except Error (Parsed Node)
  | 0, _, _, _ => .error .unexpectedToken
  | depth + 1, stop, anchors, tokens =>
    match tokens with
    | .value :: rest =>
      if endsFlowEntry stop rest then .ok (Node.empty, anchors, rest)
      else readNode handles depth .flow anchors rest
    | _ => .ok (Node.empty, anchors, tokens)

/-- Reads the rest of a flow mapping. -/
def readFlowEntries (handles : Handles) :
    Nat → Bool → Anchors → List Token → Except Error (Parsed (List (Node × Node)))
  | 0, _, _, _ => .error .unexpectedToken
  | depth + 1, isFirst, anchors, tokens =>
    match tokens with
    | .flowMappingEnd :: rest => .ok ([], anchors, rest)
    | _ => do
      let tokens ← match tokens with
        | .flowEntry :: rest => if isFirst then .ok tokens else .ok rest
        | _ => if isFirst then .ok tokens else .error .unexpectedToken
      match tokens with
      | .flowMappingEnd :: rest => return ([], anchors, rest)
      | .key :: rest => do
        let isEmpty := match rest with
          | .value :: _ => true
          | _ => endsFlowEntry .flowMappingEnd rest
        let (key, anchors, rest) ←
          if isEmpty then .ok (Node.empty, anchors, rest)
          else readNode handles depth .flow anchors rest
        let (value, anchors, rest) ← readFlowValue handles depth .flowMappingEnd anchors rest
        let (entries, anchors, rest) ← readFlowEntries handles depth false anchors rest
        return ((key, value) :: entries, anchors, rest)
      | _ => do
        let (key, anchors, rest) ← readNode handles depth .flow anchors tokens
        let (entries, anchors, rest) ← readFlowEntries handles depth false anchors rest
        return ((key, Node.empty) :: entries, anchors, rest)

end

end InteractiveMobs.Yaml
