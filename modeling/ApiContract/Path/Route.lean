import ApiContract.Path.Specificity

/-!
# Path/Route — the entry that answers a request path

Entries are tried in their order, and the first whose template matches is taken; precedence is all
in the order they were sorted into.
-/

namespace ApiContract

/-- The entry a request is routed to, and what its variables stand for. -/
structure Route (α : Type) where
  entry : α
  parameters : List (String × String)

/-- The first entry whose template matches the segments of a request path. -/
def route? {α : Type} (template : α → Template) (entries : List α) (path : String) :
    Option (Route α) :=
  let request := requestSegments path
  (entries.find? fun e => (template e).matchesRequest request).map fun e =>
    ⟨e, (template e).extract request⟩

end ApiContract
