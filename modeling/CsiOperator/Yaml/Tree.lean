import CsiOperator.Yaml.Node

/-! Documents as trees: every alias is followed to the node that it repeats. -/

namespace CsiOperator.Yaml

/-- A document read as far as it goes. -/
inductive Tree where
  /-- A scalar. -/
  | scalar (scalar : Scalar)
  /-- A list. -/
  | list (tag : Option String) (items : List Tree)
  /-- A map with its keys in the order of the text. -/
  | mapping (tag : Option String) (entries : List (Tree × Tree))
  /-- A node given elsewhere. -/
  | repeated (node : Tree)
  /-- A list or map below the deepest level that may be read, and whether the text breaks off in it. -/
  | deep (broken : Bool)
  /-- An empty text. -/
  | void
  /-- The end of what can be read. -/
  | cut
  deriving Repr, Inhabited

mutual

/-- Whether the text breaks off inside a node. -/
def Node.isBroken : Node → Bool
  -- An alias is not broken itself, whatever it repeats.
  | .cut => true
  | .list _ items => anyBroken items
  | .mapping _ entries => anyEntryBroken entries
  | _ => false

/-- Whether the text breaks off inside one of the nodes. -/
def anyBroken : List Node → Bool
  | [] => false
  | n :: rest => n.isBroken || anyBroken rest

/-- Whether the text breaks off inside one of the entries. -/
def anyEntryBroken : List (Node × Node) → Bool
  -- A key may break off as well as a value.
  | [] => false
  | (key, value) :: rest => key.isBroken || value.isBroken || anyEntryBroken rest

end

namespace Tree

/-- The levels of lists and maps that may be read. -/
def maxDepth : Nat := 128

/-- How many times as many aliases may be followed as the document has events. -/
def repetitionFactor : Nat := 100

/-- The node itself, or the one it repeats as long as aliases may still be followed. -/
def resolve (slots : List (Nat × Node)) (node : Node) : StateM Nat (Bool × Node) := do
  -- Each alias that is followed uses up one of those that may be.
  match node with
  | .alias slot =>
    match ← get, slots.lookup slot with
    | left + 1, some target =>
      set left
      return (true, target)
    | _, _ => return (false, .cut)
  | node => return (false, node)

/-- The tree of a node with so many levels; the state is the number of aliases that may be followed. -/
def ofNode (slots : List (Nat × Node)) : Nat → Node → StateM Nat Tree
  -- Below the last level scalars are still told, and collections only as being too deep.
  | 0, node => do
    let (again, target) ← resolve slots node
    let tree := match target with
      | .scalar s => Tree.scalar s
      | .cut => .cut
      | target => .deep target.isBroken
    return if again then .repeated tree else tree
  | depth + 1, node => do
    let (again, target) ← resolve slots node
    let tree ← match target with
      | .scalar s => pure (Tree.scalar s)
      | .list tag items => do return .list tag (← items.mapM (ofNode slots depth))
      | .mapping tag entries => do
        return .mapping tag (← entries.mapM fun (key, value) => do
          let key ← ofNode slots depth key
          return (key, ← ofNode slots depth value))
      | _ => pure .cut
    return if again then .repeated tree else tree

/-- The tree of a document. -/
def ofDocument (d : Document) : Tree :=
  -- Repetition is limited by the size of the document, so that aliases cannot make it explode.
  match d.root with
  | none => .void
  | some node => ((ofNode d.slots maxDepth node).run (repetitionFactor * d.events)).1

end Tree

end CsiOperator.Yaml
