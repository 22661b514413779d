/-!
# Keyed — entries in ascending order of their keys

A finite map as the list of its entries, kept in order by `insert`, so two maps with the same
entries are the same list.
-/

namespace ApiContract.Keyed

variable {κ α : Type} [Ord κ]

/-- Write a value under a key: over the old one, or in its place among the keys. -/
def insert (key : κ) (value : α) : List (κ × α) → List (κ × α)
  | [] => [(key, value)]
  | (k, v) :: rest => match compare key k with
    | .lt => (key, value) :: (k, v) :: rest
    | .eq => (key, value) :: rest
    | .gt => (k, v) :: insert key value rest

/-- The map of entries written one after the other. -/
def ofList (entries : List (κ × α)) : List (κ × α) := entries.foldl (fun m e => insert e.1 e.2 m) []

/-- The value under a key. -/
def get? (key : κ) (m : List (κ × α)) : Option α :=
  (m.find? fun e => compare key e.1 == .eq).map (·.2)

/-- Add a key to an ascending list of keys. -/
def insertKey (key : κ) : List κ → List κ
  | [] => [key]
  | k :: rest => match compare key k with
    | .lt => key :: k :: rest
    | .eq => key :: rest
    | .gt => k :: insertKey key rest

/-- The keys in ascending order, each once. -/
def keysOf (keys : List κ) : List κ := keys.foldl (fun s k => insertKey k s) []

end ApiContract.Keyed
