import AsmNavigator.Data.Value
import AsmNavigator.Data.Yaml.Object

/-!
# Reading documents

The value of a document. A collection that is met again inside itself becomes a knot, and
so do the collections on the way to it.
-/

namespace AsmNavigator.Yaml

namespace Parts

/-- A value, and the collections around it that it links to. -/
structure Unfolding where
  value : Value
  links : List NodeId := []

/-- The values of collections that link to nothing around them. -/
abbrev Known := Array (Option Value)

/-- A collection whose parts are unfolded, given all that they link to. It needs a label if
it is on a cycle. -/
def labelled (id : NodeId) (body : Value) (links : List NodeId) : Unfolding :=
  if links.isEmpty then ⟨body, []⟩ else ⟨.knot id body, links.filter (· ≠ id)⟩

def linksOf (unfoldings : List Unfolding) : List NodeId :=
  (unfoldings.flatMap Unfolding.links).eraseDups

def unfoldWith [Monad m] (id : NodeId) (unfold : Ref → m Unfolding) : Parts → m Unfolding
  | .list items => do
      let parts ← items.mapM unfold
      return labelled id (.list (parts.map (·.value))) (linksOf parts)
  | .map entries => do
      let parts ← entries.mapM fun entry => return (entry.1, ← unfold entry.2)
      return labelled id (.map (parts.map fun part => (part.1, part.2.value)))
        (linksOf (parts.map (·.2)))
  | .set members => return ⟨.set members, []⟩
  | .pairs items => do
      let parts ← items.mapM fun item => return (← unfold item.1, ← unfold item.2)
      return labelled id (.list (parts.map fun part => .pair part.1.value part.2.value))
        (linksOf (parts.flatMap fun part => [part.1, part.2]))

/-- The value of a reference inside some collections. They are all different, so there are
no more of them than nodes. -/
def unfold (parts : Array (Option Parts)) : Nat → List NodeId → Ref → StateM Known Unfolding
  | _, _, .scalar s => return ⟨.scalar s, []⟩
  | 0, _, .collection _ => return ⟨.null, []⟩
  | fuel + 1, around, .collection id => do
      if around.contains id then return ⟨.link id, [id]⟩
      match (← get)[id]?, parts[id]? with
      | some (some value), _ => return ⟨value, []⟩
      | _, some (some content) =>
          let unfolding ← content.unfoldWith id (unfold parts fuel (id :: around))
          if unfolding.links.isEmpty then
            modify fun known => known.set! id (some unfolding.value)
          return unfolding
      | _, _ => return ⟨.null, []⟩

end Parts

/-- The value of a document; an empty one is null. -/
def read (stream : Stream) : Except Fault Value := do
  match ← Graph.ofScan (.ofStream stream) with
  | (none, _) => return .null
  | (some root, graph) =>
      let (ref, shop) ← (Workshop.document root).run (.start graph)
      let (unfolding, _) := (Parts.unfold shop.parts (graph.size + 1) [] ref).run
        (Array.replicate graph.size none)
      return unfolding.value

end AsmNavigator.Yaml
