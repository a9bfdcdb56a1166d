import AccessControl.Model.Basic
import AccessControl.Document.Files
import AccessControl.Text.Trim
import AccessControl.Value.Host

/-! Models read from documents, and the documents of models. -/

namespace AccessControl

namespace Model

/-- The names under which a section of a document may stand, the preferred one first. -/
def requestNames : List String := ["request", "request_definition"]
/-- The names of the section of rule schemas. -/
def policyNames : List String := ["policy", "policy_definition"]
/-- The names of the section of grouping types. -/
def roleNames : List String := ["role", "role_definition"]
/-- The names of the section of effects. -/
def effectNames : List String := ["policy_effect", "effect"]
/-- The names of the section of matchers. -/
def matcherNames : List String := ["matchers", "matcher"]

/-- The entries of a mapping by names of their keys. -/
def nameEntries (pairs : List (Key × Value)) : List (String × Value) :=
  let texts := pairs.filterMap fun entry =>
    match entry.1 with
    | .text s => some s
    | _ => none
  pairs.map fun entry => (entry.1.name texts, entry.2)

/-- The entries of the first section that stands under one of the names. -/
def section? (document : List (Key × Value)) : List String →
    Except Error (List (String × Value))
  | [] => .ok []
  | name :: more =>
    match lookupName name document with
    | none => section? document more
    | some value =>
      if value.isTrue then
        match value.pairs? with
        | some pairs => .ok (collectKeys (nameEntries pairs))
        | none => .error (.model (.sectionNotMapping name))
      else .ok []

section

variable [Runtime]

/-- The names of fields in a text with commas, or in a list; blank names are left out. -/
def fieldNames (given : Value) : Except Error (List String) := do
  let names ← match given with
    | .text s => pure ((Text.splitOn ',' s.toList).map String.ofList)
    | _ => do (← given.items).mapM Value.write
  return (names.map Text.trim).filter (· != "")

/-- The schemas of a section. -/
def schemas : List (String × Value) → Except Error (List (String × List String))
  | [] => .ok []
  | (name, given) :: rest => do
    let fields ← fieldNames given
    let more ← schemas rest
    return (name, fields) :: more

/-- The grouping types of a section. -/
def roleDefinitions : List (String × Value) → Except Error (List (String × RoleDefinition))
  | [] => .ok []
  | (name, given) :: rest => do
    let fields ← fieldNames given
    let role ← RoleDefinition.create name fields.length
    let more ← roleDefinitions rest
    return (name, role) :: more

/-- The trimmed texts of a section. -/
def trimmedTexts : List (String × Value) → Except Error (List (String × String))
  | [] => .ok []
  | (name, value) :: rest => do
    let text ← value.write
    let more ← trimmedTexts rest
    return (name, Text.trim text) :: more

/-- The model that a document describes, which is complete. -/
def ofDocument (document : Value) : Except Error Model := do
  let entries ← match document.pairs? with
    | some pairs => pure pairs
    | none => throw (.model (.notMapping document.shortKindName))
  let requests ← section? entries requestNames
  let policies ← section? entries policyNames
  let roles ← section? entries roleNames
  let effects ← section? entries effectNames
  let matchers ← section? entries matcherNames
  let requests ← schemas requests
  let policies ← schemas policies
  let roles ← roleDefinitions roles
  let effects ← trimmedTexts effects
  let matchers ← trimmedTexts matchers
  let model : Model := ⟨requests, policies, roles, effects, matchers⟩
  model.validate
  return model

/-- The model that the document in a file describes. -/
def ofFile [Document.Readers] (files : Document.Files) (path : String) :
    Except Error Model := do
  let path := Document.normalPath path
  let document ← files.load path (fun reason => .model (.unreadable path reason))
    (.model (.unparsable path))
  ofDocument document

end

/-- Names with commas between them. -/
def joined (names : List String) : Value :=
  .text (", ".intercalate names)

/-- The document that describes a model. -/
def document (model : Model) : Value :=
  .dict [
    ("request", .dict (model.requests.map fun (name, fields) => (name, joined fields))),
    ("policy", .dict (model.policies.map fun (name, fields) => (name, joined fields))),
    ("role", .dict (model.roles.map fun (name, role) =>
      (name, joined (List.replicate role.arity "_")))),
    ("policy_effect", .dict (model.effects.map fun (name, s) => (name, .text s))),
    ("matchers", .dict (model.matchers.map fun (name, s) => (name, .text s)))]

end Model

end AccessControl
