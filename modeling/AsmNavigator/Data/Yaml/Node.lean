import AsmNavigator.Data.Yaml.Tag
import AsmNavigator.Data.Yaml.Token

/-!
# Documents as graphs

The tokens of a document form one graph. An alias stands for the node that was anchored
under its name, even inside that node; a name is anchored once.
-/

namespace AsmNavigator.Yaml

abbrev NodeId := Nat

/-- What a node holds; its parts are nodes by their numbers. -/
inductive Content where
  | scalar (text : String)
  | sequence (items : List NodeId)
  | mapping (pairs : List (NodeId × NodeId))

structure Node where
  tag : Tag
  content : Content

abbrev Graph := Array Node

namespace Graph

/-- What is left of the tokens, the names that are known so far and the nodes. -/
structure Source where
  tokens : List Token
  /-- The fault that lies behind the tokens. -/
  fault? : Option Fault
  anchors : List (String × NodeId)
  handles : List (String × String)
  nodes : Graph

abbrev Build := StateT Source (Except Fault)

def builtInHandles : List (String × String) := [("!", "!"), ("!!", "tag:yaml.org,2002:")]

def malformed : Build α := throw .malformed

def peek : Build (Option Token) := do
  let source ← get
  match source.tokens, source.fault? with
  | [], some fault => throw fault
  | tokens, _ => return tokens.head?

def skip : Build Unit := modify fun source => { source with tokens := source.tokens.tail }

def accept (token : Token) : Build Bool := do
  if (← peek) == some token then
    skip
    return true
  else return false

def comesNext (tokens : List Token) : Build Bool := do
  match ← peek with
  | some token => return tokens.contains token
  | none => return false

def anchor? : Build (Option String) := do
  match ← peek with
  | some (.anchor name) =>
      skip
      return some name
  | _ => return none

def tag? : Build (Option String) := do
  match ← peek with
  | some (.tag name) =>
      skip
      match name.handle? with
      | none => return some name.suffix
      | some handle =>
          match (← get).handles.lookup handle with
          | some expansion => return some (expansion ++ name.suffix)
          | none => malformed
  | _ => return none

structure Properties where
  anchor? : Option String
  tag? : Option String

/-- Anchor and tag of a node, in either order. -/
def properties : Build Properties := do
  match ← anchor? with
  | some name => return ⟨some name, ← tag?⟩
  | none =>
      let tag ← tag?
      return ⟨← anchor?, tag⟩

/-- Adds a node and makes it known under its anchor. -/
def add (anchor? : Option String) (tag : Tag) (content : Content) : Build NodeId := do
  let id := (← get).nodes.size
  modify fun source => { source with nodes := source.nodes.push ⟨tag, content⟩ }
  match anchor? with
  | none => return id
  | some name =>
      if ((← get).anchors.lookup name).isSome then malformed
      modify fun source => { source with anchors := (name, id) :: source.anchors }
      return id

def addEmpty : Build NodeId := add none .null (.scalar "")

def complete (id : NodeId) (content : Content) : Build NodeId := do
  modify fun source =>
    { source with nodes := source.nodes.modify id fun node => { node with content } }
  return id

/-- The tag of a scalar: the written one, or the one that its text calls for. -/
def scalarTag (written? : Option String) (plain : Bool) (text : String) : Tag :=
  match written? with
  | none => if plain then Tag.ofPlain text else .text
  | some "!" => Tag.ofPlain text
  | some name => .ofName name

def collectionTag (written? : Option String) (usual : Tag) : Tag :=
  match written? with
  | none | some "!" => usual
  | some name => .ofName name

inductive Place where
  /-- In a block collection. -/
  | block
  /-- In a block mapping, where a sequence needs no deeper indentation. -/
  | blockOrIndentless
  /-- Between brackets. -/
  | flow
  deriving DecidableEq

/-- An empty node, which has properties at least. -/
def emptyNode (properties : Properties) : Build NodeId :=
  if properties.anchor?.isNone && properties.tag?.isNone then malformed
  else add properties.anchor? (scalarTag properties.tag? true "") (.scalar "")

/-- Adds a sequence before its items are known. -/
def beginSequence (properties : Properties) : Build NodeId :=
  add properties.anchor? (collectionTag properties.tag? .sequence) (.sequence [])

def beginMapping (properties : Properties) : Build NodeId :=
  add properties.anchor? (collectionTag properties.tag? .mapping) (.mapping [])

mutual

def node : Nat → Place → Build NodeId
  | 0, _ => malformed
  | fuel + 1, place => do
      match ← peek with
      | some (.alias name) =>
          skip
          match (← get).anchors.lookup name with
          | some id => return id
          | none => malformed
      | _ => content fuel place (← properties)

def content : Nat → Place → Properties → Build NodeId
  | 0, _, _ => malformed
  | fuel + 1, place, properties => do
      match ← peek with
      | some (.scalar text plain) =>
          skip
          add properties.anchor? (scalarTag properties.tag? plain text) (.scalar text)
      | some .flowSequenceStart =>
          skip
          let id ← beginSequence properties
          complete id (.sequence (← flowItems fuel true))
      | some .flowMappingStart =>
          skip
          let id ← beginMapping properties
          complete id (.mapping (← flowPairs fuel true))
      | some .blockSequenceStart =>
          if place = .flow then emptyNode properties
          else
            skip
            let id ← beginSequence properties
            complete id (.sequence (← blockItems fuel))
      | some .blockMappingStart =>
          if place = .flow then emptyNode properties
          else
            skip
            let id ← beginMapping properties
            complete id (.mapping (← blockPairs fuel))
      | some .blockEntry =>
          if place = .blockOrIndentless then
            let id ← beginSequence properties
            complete id (.sequence (← indentlessItems fuel))
          else emptyNode properties
      | _ => emptyNode properties

/-- A node, or an empty one in front of certain tokens. -/
def nodeUnless : Nat → Place → List Token → Build NodeId
  | 0, _, _ => malformed
  | fuel + 1, place, ends => do
      if ← comesNext ends then addEmpty else node fuel place

def blockItems : Nat → Build (List NodeId)
  | 0 => malformed
  | fuel + 1 => do
      if ← accept .blockEntry then
        let item ← nodeUnless fuel .block [.blockEntry, .blockEnd]
        return item :: (← blockItems fuel)
      else if ← accept .blockEnd then return []
      else malformed

def indentlessItems : Nat → Build (List NodeId)
  | 0 => malformed
  | fuel + 1 => do
      if ← accept .blockEntry then
        let item ← nodeUnless fuel .block [.blockEntry, .key, .value, .blockEnd]
        return item :: (← indentlessItems fuel)
      else return []

def blockPairs : Nat → Build (List (NodeId × NodeId))
  | 0 => malformed
  | fuel + 1 => do
      let ends := [.key, .value, .blockEnd]
      if ← accept .blockEnd then return []
      else if ← accept .key then
        let key ← nodeUnless fuel .blockOrIndentless ends
        let value ← if ← accept .value then nodeUnless fuel .blockOrIndentless ends
          else addEmpty
        return (key, value) :: (← blockPairs fuel)
      else malformed

/-- The value of a pair between brackets, which may be absent. -/
def flowValue : Nat → Token → Build NodeId
  | 0, _ => malformed
  | fuel + 1, closing => do
      if ← accept .value then nodeUnless fuel .flow [.flowEntry, closing] else addEmpty

def flowItems : Nat → Bool → Build (List NodeId)
  | 0, _ => malformed
  | fuel + 1, first => do
      if ← accept .flowSequenceEnd then return []
      if !first then
        if !(← accept .flowEntry) then malformed
      if ← accept .key then
        let id ← add none .mapping (.mapping [])
        let key ← nodeUnless fuel .flow [.value, .flowEntry, .flowSequenceEnd]
        let value ← flowValue fuel .flowSequenceEnd
        let item ← complete id (.mapping [(key, value)])
        return item :: (← flowItems fuel false)
      else if ← accept .flowSequenceEnd then return []
      else
        let item ← node fuel .flow
        return item :: (← flowItems fuel false)

def flowPairs : Nat → Bool → Build (List (NodeId × NodeId))
  | 0, _ => malformed
  | fuel + 1, first => do
      if ← accept .flowMappingEnd then return []
      if !first then
        if !(← accept .flowEntry) then malformed
      if ← accept .key then
        let key ← nodeUnless fuel .flow [.value, .flowEntry, .flowMappingEnd]
        let value ← flowValue fuel .flowMappingEnd
        return (key, value) :: (← flowPairs fuel false)
      else if ← accept .flowMappingEnd then return []
      else
        let key ← node fuel .flow
        return (key, ← addEmpty) :: (← flowPairs fuel false)

end

/-! ## Documents -/

/-- The directives in front of a document: the version and every handle at most once. The
built-in handles come last. -/
def directives (versioned : Bool) : Nat → Build Unit
  | 0 => malformed
  | fuel + 1 => do
      match ← peek with
      | some (.version major) =>
          skip
          if major ≠ 1 || versioned then malformed
          directives true fuel
      | some (.tagHandle handle expansion) =>
          skip
          if ((← get).handles.lookup handle).isSome then malformed
          modify fun source => { source with handles := (handle, expansion) :: source.handles }
          directives versioned fuel
      | some .otherDirective =>
          skip
          directives versioned fuel
      | _ =>
          modify fun source => { source with handles := source.handles ++ builtInHandles }

def isDirective : Token → Bool
  | .version _ | .tagHandle .. | .otherDirective => true
  | _ => false

def documentContent (fuel : Nat) : Build NodeId := do
  match ← peek with
  | none => addEmpty
  | some token =>
      if isDirective token || token == .documentStart || token == .documentEnd then addEmpty
      else node fuel .block

def skipDocumentEnds : Nat → Build Unit
  | 0 => return ()
  | fuel + 1 => do if ← accept .documentEnd then skipDocumentEnds fuel

/-- The only document of a stream, if there is one, by its outermost node. -/
def document (fuel : Nat) : Build (Option NodeId) := do
  match ← peek with
  | none => return none
  | some token =>
      let root ←
        if isDirective token || token == .documentStart then do
          directives false fuel
          if !(← accept .documentStart) then malformed
          documentContent fuel
        else do
          directives false fuel
          node fuel .block
      skipDocumentEnds fuel
      if (← peek).isSome then malformed
      return some root

def ofScan (scan : Scan) : Except Fault (Option NodeId × Graph) := do
  let (root?, source) ← (document (4 * scan.tokens.length + 8)).run
    ⟨scan.tokens, scan.fault?, [], [], #[]⟩
  return (root?, source.nodes)

end Graph

end AsmNavigator.Yaml
