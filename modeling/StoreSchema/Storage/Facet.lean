import StoreSchema.Data.Basic
import StoreSchema.Storage.Value

set_option autoImplicit false

namespace StoreSchema

namespace Value

def withFacets (v : Value) (facets : Entries Value) : Value :=
  match v with
  | .map entries =>
    if isDescriptor (.map entries) then .map (Entries.overlay entries facets)
    else .map (Entries.overlay [(.text "type", .map entries)] facets)
  | v => .map (Entries.overlay [(.text "type", v)] facets)

/-- The value with facets attached that are given name by name. Each name is a text, and that of the
value itself is no name of a facet. -/
def withNamedFacets (v : Value) (facets : List (Scalar × Value)) : Except Misuse Value :=
  let isName := fun (name : Scalar) =>
    match name with
    | .text s => s != "value"
    | _ => false
  if facets.all fun e => isName e.1 then .ok (v.withFacets (Entries.overlay [] facets))
  else .error .wrongKind

def withRequired (v : Value) (required : Bool) : Value :=
  v.withFacets [(.text "required", .bool required)]

def withDefault (v : Value) (default : Data) : Value :=
  v.withFacets [(.text "default", ofData default)]

/-- Applies what the owner of a field says about required fields: a flag is taken over, and a list
or set marks the fields that it names. -/
def fillRequired (v : Value) (field : Scalar) (required : Data) : Value :=
  match required with
  | .bool flag => v.withRequired flag
  | .list names => if names.any (·.isScalar field) then v.withRequired true else v
  | .pair first second _ =>
    if first.isScalar field || second.isScalar field then v.withRequired true else v
  | .set names _ => if names.any (·.same field) then v.withRequired true else v
  | _ => v

end Value

end StoreSchema
