import AsmNavigator.Data.Yaml.Node
import AsmNavigator.Data.Yaml.Scalar

/-!
# What the nodes of a document stand for

A scalar node stands for its value at once; a collection is first only announced and gets
its parts in the order in which collections were announced. So the parts of an outer
collection are all looked at before those of an inner one, which decides among several
faults. Of a repeated key the last value stands, in the place of the first. A merge key
takes over the pairs of other mappings, which the mapping's own pairs override.
-/

namespace AsmNavigator.Yaml

/-- What a node stands for: a scalar, or the collection of a node. -/
inductive Ref where
  | scalar (s : Scalar)
  | collection (id : NodeId)

inductive Parts where
  | list (items : List Ref)
  | map (entries : List (Scalar × Ref))
  | set (members : List Scalar)
  | pairs (items : List (Ref × Ref))

/-- The nodes that are known, and what is to be done. -/
structure Workshop where
  graph : Graph
  /-- What the nodes stand for, as far as they were met. -/
  refs : Array (Option Ref)
  /-- The parts of the collections that are complete. -/
  parts : Array (Option Parts)
  /-- The collections that were announced, the last one first. -/
  announced : List NodeId

namespace Workshop

abbrev Work := StateT Workshop (Except Fault)

def start (graph : Graph) : Workshop :=
  ⟨graph, Array.replicate graph.size none, Array.replicate graph.size none, []⟩

def malformed : Work α := throw .malformed

def nodeAt (id : NodeId) : Work Node := do
  match (← get).graph[id]? with
  | some node => return node
  | none => malformed

def setNode (id : NodeId) (node : Node) : Work Unit :=
  modify fun shop => { shop with graph := shop.graph.set! id node }

/-! ## Scalars -/

/-- The text of a node. A mapping has the text of the value under its value key. -/
def textOf : Nat → NodeId → Work String
  | 0, _ => throw .endless
  | fuel + 1, id => do
      match (← nodeAt id).content with
      | .scalar text => return text
      | .sequence _ => malformed
      | .mapping pairs =>
          match ← pairs.findM? fun pair => return (← nodeAt pair.1).tag = .value with
          | some (_, value) => textOf fuel value
          | none => malformed

/-- The scalar that a node stands for by its tag. A mapping has a text, but is no date. -/
def scalarAt (id : NodeId) (node : Node) : Work Scalar := do
  let text ← textOf ((← get).graph.size + 1) id
  match node.tag, node.content with
  | .stamp, .mapping _ => throw .stampOfMapping
  | tag, _ => scalarOfText tag text

/-- Whether a tag makes a collection, whatever the node holds. -/
def isCollection : Tag → Bool
  | .sequence | .mapping | .set | .pairs => true
  | _ => false

/-- What a node stands for. A collection is announced when it is first met. -/
def refOf (id : NodeId) : Work Ref := do
  match (← get).refs[id]? with
  | some (some ref) => return ref
  | _ =>
      let node ← nodeAt id
      let ref ←
        if isCollection node.tag then do
          modify fun shop => { shop with announced := id :: shop.announced }
          pure (.collection id)
        else if [.merge, .value, .other].contains node.tag then malformed
        else pure (.scalar (← scalarAt id node))
      modify fun shop => { shop with refs := shop.refs.set! id (some ref) }
      return ref

/-! ## Mappings -/

/-- The pairs of a mapping without those under merge keys, and the values under these. A
value key counts as a text from now on. -/
def sortPairs : List (NodeId × NodeId) → Work (List (NodeId × NodeId) × List NodeId)
  | [] => return ([], [])
  | (key, value) :: rest => do
      let node ← nodeAt key
      if node.tag = .merge then
        let (own, merged) ← sortPairs rest
        return (own, value :: merged)
      else
        if node.tag = .value then setNode key { node with tag := .text }
        let (own, merged) ← sortPairs rest
        return ((key, value) :: own, merged)

/-- The nodes that a merge value takes pairs from, the weakest first. -/
def mergeSources (id : NodeId) : Work (List NodeId) := do
  match (← nodeAt id).content with
  | .mapping _ => return [id]
  | .sequence items => return items.reverse
  | .scalar _ => malformed

/-- The pairs of a mapping with its merge keys resolved, the merged ones first. They
replace the pairs of the node. -/
def flatten : Nat → NodeId → Work (List (NodeId × NodeId))
  | 0, _ => malformed
  | fuel + 1, id => do
      let node ← nodeAt id
      match node.content with
      | .mapping pairs =>
          let (own, merged) ← sortPairs pairs
          if merged.isEmpty then return own
          else
            setNode id { node with content := .mapping own }
            let sources ← merged.mapM mergeSources
            let taken ← sources.flatten.mapM (flatten fuel)
            let pairs := taken.flatten ++ own
            setNode id { node with content := .mapping pairs }
            return pairs
      | _ => malformed

def keyOf (id : NodeId) : Work Scalar := do
  match ← refOf id with
  | .scalar key => return key
  | .collection _ => malformed

def entriesOf (pairs : List (NodeId × NodeId)) : Work (List (Scalar × Ref)) :=
  pairs.foldlM (fun entries (key, value) => do
    let key ← keyOf key
    return Scalar.put key (← refOf value) entries) []

def mappingEntries (id : NodeId) : Work (List (Scalar × Ref)) := do
  entriesOf (← flatten ((← get).graph.size + 1) id)

/-! ## Collections -/

def singlePair (id : NodeId) : Work (Ref × Ref) := do
  match (← nodeAt id).content with
  | .mapping [(key, value)] => return (← refOf key, ← refOf value)
  | _ => malformed

def itemsOf (id : NodeId) : Work (List NodeId) := do
  match (← nodeAt id).content with
  | .sequence items => return items
  | _ => malformed

def partsOf (id : NodeId) : Work Parts := do
  match (← nodeAt id).tag with
  | .sequence => return .list (← (← itemsOf id).mapM refOf)
  | .mapping => return .map (← mappingEntries id)
  | .set => return .set ((← mappingEntries id).map (·.1))
  | .pairs => return .pairs (← (← itemsOf id).mapM singlePair)
  | _ => malformed

/-- Completes collections in turn, with those that are announced meanwhile. Every node is
announced once at most. -/
def completeAll : Nat → List NodeId → Work Unit
  | 0, _ => return ()
  | fuel + 1, waiting => do
      match waiting with
      | [] =>
          let announced := (← get).announced
          if announced.isEmpty then return ()
          else
            modify fun shop => { shop with announced := [] }
            completeAll fuel announced.reverse
      | id :: rest =>
          let parts ← partsOf id
          modify fun shop => { shop with parts := shop.parts.set! id (some parts) }
          completeAll fuel rest

def document (root : NodeId) : Work Ref := do
  let ref ← refOf root
  completeAll (2 * (← get).graph.size + 2) []
  return ref

end Workshop

end AsmNavigator.Yaml
