import GameEffects.Yaml.Node
import GameEffects.Yaml.Token

/-!
# Drafts

A draft is a document as it is read from its tokens: the nodes so far and their anchors. An anchor
is known from the beginning of its node on.
-/

namespace GameEffects.Yaml

/-- The nodes that have been read or begun, and their anchors. -/
structure Draft where
  /-- The nodes. -/
  graph : Graph := {}
  /-- The nodes with anchors. -/
  anchors : List (Text × NodeId) := []

namespace Draft

/-- Checks that no node has an anchor yet. -/
def checkFresh (d : Draft) : Option Text → Except TextFault Unit
  | none => .ok ()
  | some name => if (d.anchors.lookup name).isSome then malformed .anchorTwice else .ok ()

/-- Adds a node, which may have an anchor. -/
def add (d : Draft) (anchor : Option Text) (tag : Tag) (content : Content) : NodeId × Draft :=
  let (id, graph) := d.graph.add ⟨tag, content⟩
  (id, ⟨graph, (anchor.map (·, id)).toList ++ d.anchors⟩)

/-- Adds a node without anything written. -/
def addEmpty (d : Draft) : NodeId × Draft :=
  d.add none .null (.text [])

/-- Sets the content of a node that has been begun. -/
def fill (d : Draft) (id : NodeId) (content : Content) : Draft :=
  { d with graph := d.graph.setContent id content }

/-- The node that an alias refers to. -/
def find (d : Draft) (name : Text) : Except TextFault NodeId :=
  match d.anchors.lookup name with
  | some id => .ok id
  | none => malformed .alias

end Draft

/-- What the tag in front of a node says about its type. -/
inductive GivenTag
  /-- There is no tag. -/
  | none
  /-- An exclamation mark alone: a text counts as plain. -/
  | bare
  /-- The name of a type. -/
  | name (name : Text)

/-- What tag handles stand for. -/
abbrev Handles := List (Text × Text)

/-- What a tag says. Its handle has to stand for something. -/
def Handles.given (handles : Handles) (tag : WrittenTag) : Except TextFault GivenTag :=
  match tag.handle with
  | none => .ok (if tag.suffix = ['!'] then .bare else .name tag.suffix)
  | some handle =>
    match handles.lookup handle with
    | some start => .ok (.name (start ++ tag.suffix))
    | none => malformed .tag

namespace GivenTag

/-- The type of a text. -/
def ofText (given : GivenTag) (plain : Bool) (text : Text) : Tag :=
  match given with
  | .none => if plain then .ofPlain text else .str
  | .bare => .ofPlain text
  | .name n => .ofName n

/-- The type of a list or mapping, which is `default` unless the tag names another. -/
def ofCollection (given : GivenTag) (default : Tag) : Tag :=
  match given with
  | .name n => .ofName n
  | _ => default

end GivenTag

/-- The fault of tokens that go on with another token than expected, or break off. -/
def unexpected {α : Type} : List Token → Except TextFault α
  | .broken fault :: _ => .error fault
  | _ => malformed .unexpectedToken

/-- Checks that tokens do not break off. -/
def checkIntact : List Token → Except TextFault Unit
  | .broken fault :: _ => .error fault
  | _ => .ok ()

/-- Where a node stands. -/
inductive Position
  /-- Among the items of a collection in brackets. -/
  | flow
  /-- In an indented collection. -/
  | block
  /-- After a key of an indented collection, where a list may have the indentation of the key. -/
  | blockValue
  deriving DecidableEq

/-- Whether a token ends an entry of an indented list. -/
def endsBlockItem : Token → Bool
  | .dash | .blockEnd => true
  | _ => false

/-- Whether a token ends an entry of a list that has the indentation of the key before it. -/
def endsValueItem : Token → Bool
  | .dash | .key | .value | .blockEnd => true
  | _ => false

/-- Whether a token ends a key or value of an indented mapping. -/
def endsBlockEntry : Token → Bool
  | .key | .value | .blockEnd => true
  | _ => false

/-- Whether a token ends an item of a list in brackets. -/
def endsFlowItem : Token → Bool
  | .comma | .flowListEnd => true
  | _ => false

/-- Whether a token ends an entry of a mapping in braces. -/
def endsFlowEntry : Token → Bool
  | .comma | .flowMapEnd => true
  | _ => false

/-- What has been read, the draft after it, and the tokens that are left of fewer than `n`. -/
abbrev Parsed (α : Type) (n : Nat) :=
  α × Draft × { rest : List Token // rest.length < n }

mutual

/-- Reads a node. It has at least one token. -/
def node (handles : Handles) (position : Position) (d : Draft) (tokens : List Token) :
    Except TextFault (Parsed NodeId tokens.length) :=
  match tokens with
  | .alias name :: rest => do
    let id ← d.find name
    return (id, d, ⟨rest, by simp⟩)
  | .anchor name :: .tag tag :: rest => do
    let given ← handles.given tag
    let (id, d, rest) ← contentOrEmpty handles position d (some name) given rest
    return (id, d, ⟨rest.1, by have := rest.2; simp; omega⟩)
  | .tag tag :: .anchor name :: rest => do
    let given ← handles.given tag
    let (id, d, rest) ← contentOrEmpty handles position d (some name) given rest
    return (id, d, ⟨rest.1, by have := rest.2; simp; omega⟩)
  | .anchor name :: rest => do
    let (id, d, rest) ← contentOrEmpty handles position d (some name) .none rest
    return (id, d, ⟨rest.1, by have := rest.2; simp; omega⟩)
  | .tag tag :: rest => do
    checkIntact rest
    let given ← handles.given tag
    let (id, d, rest) ← contentOrEmpty handles position d none given rest
    return (id, d, ⟨rest.1, by have := rest.2; simp; omega⟩)
  | tokens => do
    match ← content handles position d none .none tokens with
    | some parsed => return parsed
    | none => unexpected tokens
termination_by (tokens.length, 3)

/-- Reads what follows an anchor or a tag. If that is no content, the node is an empty text. -/
def contentOrEmpty (handles : Handles) (position : Position) (d : Draft) (anchor : Option Text)
    (given : GivenTag) (tokens : List Token) :
    Except TextFault (Parsed NodeId (tokens.length + 1)) := do
  checkIntact tokens
  d.checkFresh anchor
  match ← content handles position d anchor given tokens with
  | some (id, d, rest) => return (id, d, ⟨rest.1, by have := rest.2; omega⟩)
  | none =>
    let (id, d) := d.add anchor (given.ofText true []) (.text [])
    return (id, d, ⟨tokens, by omega⟩)
termination_by (tokens.length, 2)

/-- Reads a text, a list or a mapping, if one starts here. -/
def content (handles : Handles) (position : Position) (d : Draft) (anchor : Option Text)
    (given : GivenTag) (tokens : List Token) :
    Except TextFault (Option (Parsed NodeId tokens.length)) :=
  match tokens with
  | .text text plain :: rest =>
    let (id, d) := d.add anchor (given.ofText plain text) (.text text)
    .ok (some (id, d, ⟨rest, by simp⟩))
  | .flowListStart :: rest => do
    let (id, d) := d.add anchor (given.ofCollection .list) (.list [])
    let (items, d, rest) ← flowItems handles d rest
    return some (id, d.fill id (.list items), ⟨rest.1, by have := rest.2; simp; omega⟩)
  | .flowMapStart :: rest => do
    let (id, d) := d.add anchor (given.ofCollection .map) (.map [])
    let (entries, d, rest) ← flowEntries handles d rest
    return some (id, d.fill id (.map entries), ⟨rest.1, by have := rest.2; simp; omega⟩)
  | .blockListStart :: rest =>
    if position = .flow then .ok none
    else do
      let (id, d) := d.add anchor (given.ofCollection .list) (.list [])
      let (items, d, rest) ← blockItems handles endsBlockItem d rest
      match rest with
      | ⟨.blockEnd :: rest, h⟩ =>
        return some (id, d.fill id (.list items), ⟨rest, by simp at h ⊢; omega⟩)
      | rest => unexpected rest.1
  | .blockMapStart :: rest =>
    if position = .flow then .ok none
    else do
      let (id, d) := d.add anchor (given.ofCollection .map) (.map [])
      let (entries, d, rest) ← blockEntries handles d rest
      match rest with
      | ⟨.blockEnd :: rest, h⟩ =>
        return some (id, d.fill id (.map entries), ⟨rest, by simp at h ⊢; omega⟩)
      | rest => unexpected rest.1
  | .dash :: rest =>
    if position = .blockValue then do
      let (id, d) := d.add anchor (given.ofCollection .list) (.list [])
      let (item, d, ⟨rest', h⟩) ← nodeOrEmpty handles .block endsValueItem d rest
      let (items, d, rest) ← blockItems handles endsValueItem d rest'
      return some (id, d.fill id (.list (item :: items)),
        ⟨rest.1, by have := rest.2; simp; omega⟩)
    else .ok none
  | _ => .ok none
termination_by (tokens.length, 1)

/-- Reads a node, or an empty one if a token follows that ends it. -/
def nodeOrEmpty (handles : Handles) (position : Position) (ends : Token → Bool) (d : Draft)
    (tokens : List Token) : Except TextFault (Parsed NodeId (tokens.length + 1)) :=
  if tokens.head?.any ends then
    let (id, d) := d.addEmpty
    .ok (id, d, ⟨tokens, by omega⟩)
  else do
    let (id, d, rest) ← node handles position d tokens
    return (id, d, ⟨rest.1, by have := rest.2; omega⟩)
termination_by (tokens.length, 4)

/-- Reads a key and its value after the mark of the key. Both may be empty. -/
def keyAndValue (handles : Handles) (position : Position) (ends : Token → Bool) (d : Draft)
    (tokens : List Token) : Except TextFault (Parsed (NodeId × NodeId) (tokens.length + 1)) := do
  let (key, d, rest) ←
    nodeOrEmpty handles position (fun token => ends token || token == .value) d tokens
  match rest with
  | ⟨.value :: rest, h⟩ =>
    have : rest.length < tokens.length := by simp at h; omega
    let (value, d, rest') ← nodeOrEmpty handles position ends d rest
    return ((key, value), d, ⟨rest'.1, by have := rest'.2; omega⟩)
  | rest =>
    let (value, d) := d.addEmpty
    return ((key, value), d, rest)
termination_by (tokens.length, 5)

/-- Reads the entries of an indented list, each after a dash. -/
def blockItems (handles : Handles) (ends : Token → Bool) (d : Draft) (tokens : List Token) :
    Except TextFault (Parsed (List NodeId) (tokens.length + 1)) :=
  match tokens with
  | .dash :: rest => do
    let (item, d, ⟨rest', h⟩) ← nodeOrEmpty handles .block ends d rest
    let (items, d, rest'') ← blockItems handles ends d rest'
    return (item :: items, d, ⟨rest''.1, by have := rest''.2; simp; omega⟩)
  | tokens => .ok ([], d, ⟨tokens, by omega⟩)
termination_by (tokens.length, 0)

/-- Reads the entries of an indented mapping, each after the mark of a key. -/
def blockEntries (handles : Handles) (d : Draft) (tokens : List Token) :
    Except TextFault (Parsed (List (NodeId × NodeId)) (tokens.length + 1)) :=
  match tokens with
  | .key :: rest => do
    let (entry, d, ⟨rest', h⟩) ← keyAndValue handles .blockValue endsBlockEntry d rest
    let (entries, d, rest'') ← blockEntries handles d rest'
    return (entry :: entries, d, ⟨rest''.1, by have := rest''.2; simp; omega⟩)
  | tokens => .ok ([], d, ⟨tokens, by omega⟩)
termination_by (tokens.length, 0)

/-- Reads an item of a list in brackets. A key with its value is a mapping of one entry. -/
def flowItem (handles : Handles) (d : Draft) (tokens : List Token) :
    Except TextFault (Parsed NodeId tokens.length) :=
  match tokens with
  | .key :: rest => do
    let (id, d) := d.add none .map (.map [])
    let (entry, d, rest') ← keyAndValue handles .flow endsFlowItem d rest
    return (id, d.fill id (.map [entry]), ⟨rest'.1, by have := rest'.2; simp; omega⟩)
  | tokens => node handles .flow d tokens
termination_by (tokens.length, 4)

/-- Reads the items of a list in brackets and the bracket at the end. A comma may stand before that
bracket. -/
def flowItems (handles : Handles) (d : Draft) (tokens : List Token) :
    Except TextFault (Parsed (List NodeId) tokens.length) :=
  match tokens with
  | .flowListEnd :: rest => .ok ([], d, ⟨rest, by simp⟩)
  | tokens => do
    let (item, d, rest) ← flowItem handles d tokens
    match rest with
    | ⟨.comma :: rest, h⟩ =>
      have : rest.length < tokens.length := by simp at h; omega
      let (items, d, rest') ← flowItems handles d rest
      return (item :: items, d, ⟨rest'.1, by have := rest'.2; omega⟩)
    | ⟨.flowListEnd :: rest, h⟩ => return ([item], d, ⟨rest, by simp at h; omega⟩)
    | rest => unexpected rest.1
termination_by (tokens.length, 5)

/-- Reads an entry of a mapping in braces. A node without the mark of a key is a key without a
value. -/
def flowEntry (handles : Handles) (d : Draft) (tokens : List Token) :
    Except TextFault (Parsed (NodeId × NodeId) tokens.length) :=
  match tokens with
  | .key :: rest => do
    let (entry, d, rest') ← keyAndValue handles .flow endsFlowEntry d rest
    return (entry, d, ⟨rest'.1, by have := rest'.2; simp; omega⟩)
  | tokens => do
    let (key, d, rest) ← node handles .flow d tokens
    let (value, d) := d.addEmpty
    return ((key, value), d, rest)
termination_by (tokens.length, 4)

/-- Reads the entries of a mapping in braces and the brace at the end. A comma may stand before that
brace. -/
def flowEntries (handles : Handles) (d : Draft) (tokens : List Token) :
    Except TextFault (Parsed (List (NodeId × NodeId)) tokens.length) :=
  match tokens with
  | .flowMapEnd :: rest => .ok ([], d, ⟨rest, by simp⟩)
  | tokens => do
    let (entry, d, rest) ← flowEntry handles d tokens
    match rest with
    | ⟨.comma :: rest, h⟩ =>
      have : rest.length < tokens.length := by simp at h; omega
      let (entries, d, rest') ← flowEntries handles d rest
      return (entry :: entries, d, ⟨rest'.1, by have := rest'.2; omega⟩)
    | ⟨.flowMapEnd :: rest, h⟩ => return ([entry], d, ⟨rest, by simp at h; omega⟩)
    | rest => unexpected rest.1
termination_by (tokens.length, 5)

end

/-- The handles that stand for something in every document. -/
def commonHandles : Handles :=
  [(['!'], ['!']), (['!', '!'], Tag.commonStart)]

/-- The handles of a document from the directives in front of it, and the tokens after them. There
may be one version, which has to begin with 1, and one meaning of each handle. -/
def directives (hasVersion : Bool) (handles : Handles) :
    List Token → Except TextFault (Handles × List Token)
  | .directive (.version major _) :: rest =>
    if hasVersion || major ≠ 1 then malformed .directive else directives true handles rest
  | .directive (.tag handle start) :: rest =>
    if (handles.lookup handle).isSome then malformed .directive
    else directives hasVersion ((handle, start) :: handles) rest
  | .directive .other :: rest => directives hasVersion handles rest
  | rest => .ok (handles ++ commonHandles, rest)

/-- Whether a token begins or ends a document. -/
def isDocumentMark : Token → Bool
  | .directive _ | .documentStart | .documentEnd => true
  | _ => false

/-- Checks that no second document follows the first. -/
def checkEnd (tokens : List Token) : Except TextFault Unit :=
  match tokens.dropWhile (· == .documentEnd) with
  | [] => .ok ()
  | tokens => do
    let (_, rest) ← directives false [] tokens
    checkIntact rest
    malformed .secondDocument

/-- The nodes of a document after its directives and its mark, and the node that the document
is. -/
def documentGraph (handles : Handles) (tokens : List Token) :
    Except TextFault (Graph × NodeId) := do
  let (id, d, rest) ← node handles .block {} tokens
  checkEnd rest.1
  return (d.graph, id)

/-- The nodes of the only document in a text, if there is one, and the node that it is. -/
def Graph.ofTokens? (tokens : List Token) : Except TextFault (Option (Graph × NodeId)) :=
  match tokens with
  | [] => .ok none
  | .directive _ :: _ | .documentStart :: _ => do
    let (handles, rest) ← directives false [] tokens
    match rest with
    | .documentStart :: rest =>
      if rest.head?.all isDocumentMark then do
        checkEnd rest
        let (id, d) := ({} : Draft).addEmpty
        return some (d.graph, id)
      else some <$> documentGraph handles rest
    | rest => unexpected rest
  | tokens => some <$> documentGraph commonHandles tokens

end GameEffects.Yaml
