import SchemaDialogue.Interface.Convert
import SchemaDialogue.Interface.Render

/-!
# The declarations reachable from a root

Starting from a root, every key that is referred to is declared once, in the order of first
reference, breadth first. A name can be declared only once: a later key with a name that is taken is
left out and reported.

The walk ends because each step that adds keys declares one of the finitely many described types.
-/

namespace SchemaDialogue

/-- The declarations reachable from a root under their keys, and the errors met on the way. -/
structure Graph where
  declarations : Entries Declaration
  errors : List GraphError

namespace Graph

/-- A walk under way: the keys declared or left out so far, the owners of names, and the result. -/
structure Walk where
  visited : List TypeKey := []
  names : Entries TypeKey := []
  graph : Graph := ⟨[], []⟩

namespace Walk

/-- Declare a key, or leave it out when its name is taken. -/
def declare (source : Registry) (key : TypeKey) (w : Walk) : Walk :=
  let declaration := source.declaration key
  let errors := w.graph.errors ++ source.errors key
  match w.names.find? declaration.name with
  -- The name stays with the key that was declared first.
  | some owner =>
    { visited := key :: w.visited
      names := w.names
      graph := ⟨w.graph.declarations, errors ++ [.nameCollision declaration.name owner key]⟩ }
  | none =>
    { visited := key :: w.visited
      names := w.names ++ [(declaration.name, key)]
      graph := ⟨w.graph.declarations ++ [(key, declaration)], errors⟩ }

/-- Put the keys that are neither visited nor waiting at the end of the queue. -/
def enqueue (visited : List TypeKey) (pending : List TypeKey) (keys : List TypeKey) :
    List TypeKey :=
  keys.foldl
    (fun queue key => if key ∈ visited ∨ key ∈ queue then queue else queue ++ [key]) pending

theorem visited_declare (source : Registry) (key : TypeKey) (w : Walk) :
    (w.declare source key).visited = key :: w.visited := by
  unfold declare
  dsimp only
  split <;> rfl

/-- Declare the waiting keys and all that they refer to. -/
def run (source : Registry) : List TypeKey → Walk → Walk
  | [], w => w
  | key :: rest, w =>
    if _ : key ∉ w.visited then
      if _ : key ∈ source.keys then
        run source (enqueue (key :: w.visited) rest (source.references key)) (w.declare source key)
      -- A key without a description refers to nothing.
      else run source rest (w.declare source key)
    else run source rest w
termination_by pending w => (source.unvisited w.visited, pending.length)
decreasing_by
  · rw [visited_declare]
    exact .left _ _ (Registry.unvisited_lt ‹_› ‹_›)
  · rw [visited_declare]
    exact lex_of_le (Registry.unvisited_cons_le source key w.visited) (Nat.lt_succ_self _)
  · exact .right _ (Nat.lt_succ_self _)

end Walk

def build (source : Registry) (root : TypeKey) : Graph := (Walk.run source [root] {}).graph

def list (g : Graph) : List Declaration := g.declarations.map (·.2)

def render (g : Graph) : String := Declaration.renderAll g.list

end Graph

end SchemaDialogue
