import ApiContract.Contract.Operation
import ApiContract.Schema.Canonical

/-!
# Document/Body — reading request bodies and responses

The media types a body may have are listed by the place it stands in; each has its own form of
entry.
-/

namespace ApiContract

/-- Read the entries of a content map in document order, each by its name, that of an allowed media
type. -/
def contentEntries {α : Type} (p : Location) (allowed : List Media)
    (entry : Location → String → Members → Checked (Media × α)) (content : Members) :
    Checked (List (Media × α)) := do
  let entries ← content.mapM fun (name, v) => do
    let at_ := p.member name
    checkName at_ (allowed.map Media.name) name
    entry at_ name (← v.expectObject at_)
  return Keyed.ofList entries

/-- The schema of an entry whose only key is `schema`. -/
def schemaEntry (components : Components) (p : Location) (ms : Members) : Checked Schema := do
  ms.checkKeys p ["schema"] []
  Schema.ofJson components (p.member "schema") (← ms.fetch p "schema")

/-- The entry of a request body's content: only JSON is allowed there. -/
def requestEntry (components : Components) (p : Location) (_ : String) (ms : Members) :
    Checked (Media × Schema) := do
  return (.json, ← schemaEntry components p ms)

/-- The entry of a response's content, in the form of the media type it is named for. -/
def responseEntry (components : Components) (p : Location) (name : String) (ms : Members) :
    Checked (Media × Content) :=
  match Media.ofName? name with
  | some .json => do return (.json, .schema (← schemaEntry components p ms))
  | some .text => do
    ms.checkKeys p ["example"] []
    return (.text, .example (← ms.fetch p "example"))
  | none => refuse p (.unknownName name)

/-- Read a request body. -/
def RequestBody.ofJson (components : Components) (p : Location) (v : Json) :
    Checked RequestBody := do
  let ms ← v.expectObject p
  ms.checkKeys p ["content", "description", "required"] []
  let required ← (← ms.fetch p "required").expectFlag (p.member "required")
  let content ← (← ms.fetch p "content").expectObject (p.member "content")
  let content ← contentEntries p [.json] (requestEntry components) content
  let description := (← ms.fetch p "description").bare
  return { description, required, content }

/-- Read a response. -/
def Response.ofJson (components : Components) (p : Location) (v : Json) : Checked Response := do
  let ms ← v.expectObject p
  ms.checkKeys p ["description"] ["content"]
  let content ← match ms.get? "content" with
    | none => pure []
    | some v => do
      contentEntries p [.json, .text] (responseEntry components)
        (← v.expectObject (p.member "content"))
  let description := (← ms.fetch p "description").bare
  return { description, content }

end ApiContract
