import AppDeploy.Yaml.Lexer
import AppDeploy.Yaml.Tree

/-! YAML documents with every alias replaced by the node it refers to.

A document is finite although its aliases can refer to nodes around them: collections
nested deeper than the limit are left as `tooDeep`, and once more aliases were followed
than a hundred times the size of the document, the rest is left as `tooOften`. Both only
matter to who reads them. -/
namespace AppDeploy.Yaml

inductive Node where
  | scalar (s : Scalar)
  | list (tag : Option String) (items : List Node)
  | table (tag : Option String) (entries : List (Node × Node))
  | nothing
  | tooDeep
  | tooOften
deriving Inhabited

namespace Node

/-- How deep collections may be nested. -/
def depthLimit : Nat := 128

mutual

/-- The size of a tree: a leaf counts once, a collection twice besides its parts. -/
def treeSize : Tree → Nat
  | .scalar _ | .alias _ => 1
  | .list _ items => 2 + itemsSize items
  | .table _ entries => 2 + entriesSize entries

def itemsSize : List Tree → Nat
  | [] => 0
  | item :: rest => treeSize item + itemsSize rest

def entriesSize : List (Tree × Tree) → Nat
  | [] => 0
  | (key, value) :: rest => treeSize key + treeSize value + entriesSize rest

end

/-- Expands the items of a list one after the other, with what is left of the budget. -/
def mapBudget (f : Nat → α → β × Nat) (budget : Nat) : List α → List β × Nat
  | [] => ([], budget)
  | a :: rest =>
    let (b, budget) := f budget a
    let (bs, budget) := mapBudget f budget rest
    (b :: bs, budget)

/-- Replaces the aliases of a tree that is inside `depth` collections. The budget is the
number of aliases that may still be followed. -/
def expand (anchors : Tree.Anchors) : (fuel depth budget : Nat) → Tree → Node × Nat
  | 0, _, budget, _ => (.tooDeep, budget)
  | fuel + 1, depth, budget, tree =>
    match tree with
    | .scalar s => (.scalar s, budget)
    | .list tag items =>
      if depthLimit ≤ depth then (.tooDeep, budget)
      else
        let (items, budget) := mapBudget (expand anchors fuel (depth + 1)) budget items
        (.list tag items, budget)
    | .table tag entries =>
      if depthLimit ≤ depth then (.tooDeep, budget)
      else
        let entry (budget : Nat) (e : Tree × Tree) : (Node × Node) × Nat :=
          let (key, budget) := expand anchors fuel (depth + 1) budget e.1
          let (value, budget) := expand anchors fuel (depth + 1) budget e.2
          ((key, value), budget)
        let (entries, budget) := mapBudget entry budget entries
        (.table tag entries, budget)
    | .alias number =>
      match budget, anchors.node? number with
      | budget + 1, some tree => expand anchors fuel depth budget tree
      | budget, _ => (.tooOften, budget)

/-- The node of a text, if the text is one well-formed document. -/
def ofText? (s : String) : Option Node := do
  match ← tokens? s >>= Tree.document? with
  | none => return .nothing
  | some (tree, anchors) =>
    return (expand anchors (2 * depthLimit + 3) 0 (100 * treeSize tree) tree).1

end Node

end AppDeploy.Yaml
