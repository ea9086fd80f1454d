import StoreSchema.Settings.Basic
import StoreSchema.Storage.Value

set_option autoImplicit false

namespace StoreSchema

structure Index where
  fields : Entries Value
  unique : Bool

namespace Index

/-- The faults of the keys that are no texts, found under a field of that name. -/
def keyFaults {α : Type} (field : String) (entries : Entries α) : List FieldFault :=
  entries.flatMap fun e =>
    (Checked.text [.text field, Checked.place e.1, .text "[key]"] (.scalar e.1)).faults

def make (fields : Entries Value) (unique : Bool) : Except Fault Index :=
  match keyFaults "fields" fields with
  | [] =>
    if fields.isEmpty then .error (.invalidFields [⟨[.text "fields"], .accepted⟩])
    else .ok ⟨fields, unique⟩
  | faults => .error (.invalidFields faults)

end Index

end StoreSchema

namespace StoreSchema.Index

private def fieldsOf : Option Value → Except (List FieldFault) (Entries Value)
  | none => .error [⟨[.text "fields"], .present⟩]
  | some v =>
    match v.entries? with
    | none => .error [⟨[.text "fields"], .mapping⟩]
    | some entries =>
      match make entries false with
      | .ok index => .ok index.fields
      | .error (.invalidFields faults) => .error faults
      | .error _ => .error []

private def uniqueOf : Option Value → Checked Bool
  | none => .pure false
  | some (.scalar s) => .truthValue [.text "unique"] (.scalar s)
  | some _ => .refuse [.text "unique"] .truthValue false

/-- The index with the given fields, if both of its parts meet their demands. -/
def ofForm (fields unique : Option Value) : Except Fault Index :=
  let unique := uniqueOf unique
  match fieldsOf fields, unique.faults with
  | .ok fields, [] => .ok ⟨fields, unique.value⟩
  | .ok _, faults => .error (.invalidFields faults)
  | .error faults, more => .error (.invalidFields (faults ++ more))

end StoreSchema.Index
