/-! # Reverse indexes

    A relation leads from a type to the names it mentions.  The reverse index
    leads back: under each mentioned name, its target, stand the names of the
    dependents.  Targets and dependents keep the order in which they came in;
    a target whose last dependent leaves is dropped, and comes in at the end
    when it is mentioned again. -/

namespace TypeLineage

/-- The dependents of each target, none of the lists empty. -/
structure RelationIndex where
  buckets : List (String × List String)
  deriving DecidableEq, Repr, Inhabited

namespace RelationIndex

/-- No relations. -/
def empty : RelationIndex := ⟨[]⟩

/-- The names that depend on a target, in the order they came in. -/
def dependentsOf (r : RelationIndex) (target : String) : List String :=
  (r.buckets.lookup target).getD []

/-- The names something depends on. -/
def targets (r : RelationIndex) : List String := r.buckets.map (·.1)

/-- A list with a name in it: unchanged if the name is there already. -/
def insertName (names : List String) (name : String) : List String :=
  if names.contains name then names else names ++ [name]

/-- Buckets in which `dependent` stands under `target`. -/
def addTo (target dependent : String) :
    List (String × List String) → List (String × List String)
  | [] => [(target, [dependent])]
  | (t, names) :: rest =>
    if t = target then (t, insertName names dependent) :: rest
    else (t, names) :: addTo target dependent rest

/-- Buckets in which `dependent` does not stand under `target`. -/
def removeFrom (target dependent : String) :
    List (String × List String) → List (String × List String)
  | [] => []
  | (t, names) :: rest =>
    if t = target then
      match names.filter (· ≠ dependent) with
      | [] => rest
      | left => (t, left) :: rest
    else (t, names) :: removeFrom target dependent rest

/-- Records that `dependent` mentions `target`. -/
def add (r : RelationIndex) (target dependent : String) : RelationIndex :=
  ⟨addTo target dependent r.buckets⟩

/-- Forgets that `dependent` mentions `target`. -/
def remove (r : RelationIndex) (target dependent : String) : RelationIndex :=
  ⟨removeFrom target dependent r.buckets⟩

/-- Records one dependent under several targets. -/
def addAll (r : RelationIndex) (targets : List String) (dependent : String) : RelationIndex :=
  targets.foldl (fun index target => index.add target dependent) r

/-- Forgets one dependent under several targets. -/
def removeAll (r : RelationIndex) (targets : List String) (dependent : String) : RelationIndex :=
  targets.foldl (fun index target => index.remove target dependent) r

/-- The number of pairs of a target and a dependent. -/
def size (r : RelationIndex) : Nat := r.buckets.foldr (fun (_, names) n => names.length + n) 0

/-- Forgets all pairs. -/
def clear (r : RelationIndex) : RelationIndex := { r with buckets := [] }

/-! ## Requests

    An index is asked to record a pair, to forget one, to forget all, and for
    the dependents of a target.  `run` serves requests with a new index. -/

/-- What an index can be asked for. -/
inductive Request where
  | add (target dependent : String)
  | remove (target dependent : String)
  | ask (target : String)
  | clear
  deriving DecidableEq, Repr

/-- The index after a request.  The answer to a question is `dependentsOf`, and
    no bucket comes into being for it. -/
def after (r : RelationIndex) : Request → RelationIndex
  | .add target dependent => r.add target dependent
  | .remove target dependent => r.remove target dependent
  | .ask _ => r
  | .clear => r.clear

/-- A new index after requests made one after the other. -/
def run (requests : List Request) : RelationIndex := requests.foldl after empty

end RelationIndex

end TypeLineage
