import ApiContract.Document.Operation
import ApiContract.Path.Specificity

/-!
# Document/Reader — reading a specification document

`Contract.ofJson` refuses a document at its first defect or gives its contract.  Components are read
against no components at all, so they cannot refer to one another; the schemas of operations refer
to all of them.
-/

namespace ApiContract

/-- The one version of the format that is understood. -/
def formatVersion : String := "3.0.0"

/-- The `info` of a document. -/
def checkInfo (v : Json) : Checked Unit := do
  (← v.expectObject "/info").checkKeys "/info" ["version", "title"] ["description"]

/-- The names of the tags a document declares. -/
def tagsOf : Option Json → Checked (List String)
  | none => .ok []
  | some v => do
    (← v.expectArray "/tags").zipIdx.mapM fun (tag, i) => do
      let p := Location.element "/tags" i
      let ms ← tag.expectObject p
      ms.checkKeys p ["name", "description"] []
      return (← ms.fetch p "name").bare

/-- The canonical components of a document. -/
def componentsOf : Option Json → Checked Components
  | none => .ok []
  | some v => do
    let ms ← v.expectObject "/components"
    ms.checkKeys "/components" ["schemas"] []
    let schemas ← (← ms.fetch "/components" "schemas").expectObject "/components:schemas"
    return Keyed.ofList (← schemas.mapM fun (name, v) => do
      return (name, ← Schema.ofJson [] (Location.member "/components" name) v))

/-- The operations of a path. -/
def operationsOf (components : Components) (tags : List String) (t : Template) (p : Location)
    (v : Json) : Checked (List (Method × Operation)) := do
  let entries ← (← v.expectObject p).mapM fun (name, v) => do
    let method ← readName p Method.name Method.all Method.parse? name
    return (method, ← Operation.ofJson components tags t (p.member name) v)
  return Keyed.ofList entries

/-- A path with its operations. -/
def PathEntry.ofJson (components : Components) (tags : List String) (name : String) (v : Json) :
    Checked PathEntry := do
  let p := Location.member "/paths" name
  let template ← Template.parse p name
  return ⟨template, ← operationsOf components tags template p v⟩

/-- The paths of a document in the order they are matched. -/
def pathsOf (components : Components) (tags : List String) (v : Json) :
    Checked (List PathEntry) := do
  let entries ← (← v.expectObject "/paths").mapM fun (name, v) =>
    PathEntry.ofJson components tags name v
  return Template.sortBySpecificity PathEntry.template entries

/-- **The contract of a document.** -/
def Contract.ofJson (document : Json) : Checked Contract := do
  let root ← document.expectObject "/"
  root.checkKeys "/" ["openapi", "info", "paths"] ["components", "tags"]
  (← root.fetch "/" "openapi").checkText "/openapi" formatVersion
  checkInfo (← root.fetch "/" "info")
  let tags ← tagsOf (root.get? "tags")
  let components ← componentsOf (root.get? "components")
  return ⟨← pathsOf components tags (← root.fetch "/" "paths")⟩

end ApiContract
