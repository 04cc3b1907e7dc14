/-! # Reachability in breadth-first order

    From a start, `Reach.walk` follows the edges that `next` gives until
    nothing new turns up.  Every name is found once, in the order of
    discovery; the start is found only if some path leads back to it, and is
    then expanded a second time.

    Besides the start only found names are expanded, so a bound on the number
    of names that can be found bounds the walk; the bound is never felt when
    it holds. -/

namespace TypeLineage.Reach

/-- What a walk found, and the names it asked for the successors of. -/
structure Walk where
  found : List String
  expanded : List String
  deriving DecidableEq, Repr

/-- The names that are not found yet, each at its first place. -/
def fresh (found : List String) : List String → List String
  | [] => []
  | name :: names =>
    if found.contains name then fresh found names
    else name :: fresh (name :: found) names

/-- Expands the queue from its front for at most `steps` names. -/
def walkFrom (next : String → List String) :
    (steps : Nat) → (queue found : List String) → Walk
  | 0, _, found => ⟨found, []⟩
  | _ + 1, [], found => ⟨found, []⟩
  | steps + 1, current :: queue, found =>
    let new := fresh found (next current)
    let rest := walkFrom next steps (queue ++ new) (found ++ new)
    { rest with expanded := current :: rest.expanded }

/-- The walk from a start, when at most `bound` names can be found. -/
def walk (bound : Nat) (next : String → List String) (start : String) : Walk :=
  walkFrom next (bound + 1) [start] []

/-- The names reached from a start by one edge or more. -/
def reachable (bound : Nat) (next : String → List String) (start : String) : List String :=
  (walk bound next start).found

/-- The successors that a list of edges gives a name; of two entries for one
    name the later counts. -/
def successors (edges : List (String × List String)) (name : String) : List String :=
  (edges.reverse.lookup name).getD []

/-- The walk along a list of edges. -/
def walkEdges (edges : List (String × List String)) (start : String) : Walk :=
  walk (edges.foldr (fun (_, names) n => names.length + n) 0) (successors edges) start

end TypeLineage.Reach
