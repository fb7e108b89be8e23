import InteractiveMobs.Yaml.Lexer
import InteractiveMobs.Yaml.Node

/-!
# Documents

A text holds at most one document: directives and a start mark if there are any, one node, and
end marks. A text of white space and comments holds none.
-/

namespace InteractiveMobs.Yaml
set_option autoImplicit false

/-- A document: its root, and the nodes that aliases name. -/
structure Document where
  root : Node
  targets : List (Nat × Node)

namespace Document

/-- The document with the given root. -/
def ofRoot (root : Node) : Document := ⟨root, root.targets⟩

/-- The node an alias stands for; a number given twice names the later node. -/
def resolve (document : Document) (node : Node) : Node :=
  match node with
  | .reference target =>
    match document.targets.reverse.lookup target with
    | some found => found
    | none => node
  | _ => node

/-- The tag handles that need no directive. -/
def commonHandles : Handles := [("!", "!"), ("!!", "tag:yaml.org,2002:")]

/-- Reads directives: whether a version was given, the handles they define, and what follows. -/
def readDirectives (versionSeen : Bool) (handles : Handles) :
    List Token → Except Error (Handles × List Token)
  | .versionDirective major minor :: rest =>
    if versionSeen || major ≠ 1 || !(minor = 1 || minor = 2) then .error .badDirective
    else readDirectives true handles rest
  | .tagDirective handle expansion :: rest =>
    if (handles.lookup handle).isSome then .error .badDirective
    else readDirectives versionSeen ((handle, expansion) :: handles) rest
  | rest => .ok (handles, rest)

/-- Whether the tokens end a document, or start another one, where its node could be. -/
def isBare : List Token → Bool
  | [] => true
  | .versionDirective _ _ :: _ | .tagDirective _ _ :: _ | .documentStart :: _ |
    .documentEnd :: _ => true
  | _ => false

/-- Whether nothing but end marks is left. -/
def isOver (tokens : List Token) : Bool := tokens.all (· = .documentEnd)

/-- Reads the node of a document and makes sure that it is the only one. -/
def readRoot (handles : Handles) (tokens : List Token) : Except Error Document := do
  let steps := 4 * tokens.length + 4
  let (root, _, rest) ← readNode (handles ++ commonHandles) steps .block ∅ tokens
  if isOver rest then return ofRoot root else throw .severalDocuments

/-- The document of the tokens of a text, if they hold one. -/
def ofTokens (tokens : List Token) : Except Error (Option Document) := do
  match tokens with
  | [] => return none
  | .versionDirective _ _ :: _ | .tagDirective _ _ :: _ | .documentStart :: _ => do
    let (handles, rest) ← readDirectives false [] tokens
    match rest with
    | .documentStart :: rest =>
      if isBare rest then
        if isOver rest then return some (ofRoot Node.empty) else throw .severalDocuments
      else return some (← readRoot handles rest)
    | _ => throw .unexpectedToken
  | _ => return some (← readRoot [] tokens)

/-- The document of a text, if it holds one. -/
def read (text : String) : Except Error (Option Document) := do ofTokens (← tokens text)

end Document
end InteractiveMobs.Yaml
