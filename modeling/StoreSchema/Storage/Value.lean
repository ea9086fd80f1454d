import StoreSchema.Data.Basic

set_option autoImplicit false

namespace StoreSchema

/-- The types that the store holds scalars in. -/
inductive StorageType where
  | number
  | text
  | flag
  | moment
  | identifier
deriving DecidableEq, Inhabited

namespace StorageType

def name : StorageType → String
  | number => "float"
  | text => "str"
  | flag => "bool"
  | moment => "datetime"
  | identifier => "ObjectId"

end StorageType

inductive Value where
  | scalar (value : Scalar)
  | list (items : List Value)
  | map (entries : List (Scalar × Value))
  | embedded (fields : List (Scalar × Value))
  | type (storage : StorageType)
  | validator (name : String)
  /-- A pair, set or recurrence of a document, as it was given. -/
  | kept (d : Data)
deriving Inhabited

namespace Value

@[match_pattern] abbrev text (value : String) : Value := .scalar (.text value)

@[match_pattern] abbrev bool (value : Bool) : Value := .scalar (.bool value)

mutual
def ofData : Data → Value
  | .scalar value => .scalar value
  | .list items => .list (ofItems items)
  | .map entries => .map (ofEntries entries)
  | .pair first second origin => .kept (.pair first second origin)
  | .set members origin => .kept (.set members origin)
  | .recurrence isMap => .kept (.recurrence isMap)

def ofItems : List Data → List Value
  | [] => []
  | item :: rest => ofData item :: ofItems rest

def ofEntries : List (Scalar × Data) → List (Scalar × Value)
  | [] => []
  | (key, value) :: rest => (key, ofData value) :: ofEntries rest
end

def isTruthy : Value → Bool
  | .scalar value => value.isTruthy
  | .list items => !items.isEmpty
  | .map entries => !entries.isEmpty
  | .embedded fields => !fields.isEmpty
  | .type _ => true
  | .validator _ => true
  | .kept d => d.isTruthy

/-- The entries of a mapping, embedded or plain. -/
def entries? : Value → Option (Entries Value)
  | .map entries => some entries
  | .embedded fields => some fields
  | _ => none

mutual
/-- Two values are equal: lists item by item, mappings key by key in any order, and scalars that are
one key. What was kept as it was given equals nothing. -/
def same : Value → Value → Bool
  | .scalar a, .scalar b => a.same b
  | .list xs, .list ys => sameItems xs ys
  | .map xs, .map ys | .map xs, .embedded ys | .embedded xs, .map ys
  | .embedded xs, .embedded ys => xs.length == ys.length && sameEntries xs ys
  | .type a, .type b => decide (a = b)
  | .validator a, .validator b => a == b
  | _, _ => false

def sameItems : List Value → List Value → Bool
  | [], [] => true
  | x :: xs, y :: ys => same x y && sameItems xs ys
  | _, _ => false

def sameEntries : List (Scalar × Value) → List (Scalar × Value) → Bool
  | [], _ => true
  | (key, x) :: xs, ys =>
    ((Entries.get? ys key).map fun y => same x y).getD false && sameEntries xs ys
end

/-- A value that can stand as the type of a descriptor. -/
def canBeType : Value → Bool
  | .type _ | .list _ | .text _ | .map _ | .embedded _ | .kept (.recurrence _) => true
  | _ => false

/-- A plain mapping with a type under `type`. An embedded map never is one. -/
def isDescriptor : Value → Bool
  | .map entries => ((Entries.get? entries (.text "type")).map canBeType).getD false
  | _ => false

private def typeQuoted : StorageType → String
  | .moment => "<class 'datetime.datetime'>"
  | .identifier => "<class 'bson.objectid.ObjectId'>"
  | storage => "<class '" ++ storage.name ++ "'>"

mutual
def quoted : Value → String
  | .scalar value => value.quoted
  | .list items => "[" ++ ", ".intercalate (quotedItems items) ++ "]"
  | .map entries => "\x7b" ++ ", ".intercalate (quotedEntries entries) ++ "\x7d"
  | .embedded fields => "\x7b" ++ ", ".intercalate (quotedEntries fields) ++ "\x7d"
  | .type storage => typeQuoted storage
  | .validator name => name
  | .kept d => d.quoted

def quotedItems : List Value → List String
  | [] => []
  | item :: rest => quoted item :: quotedItems rest

def quotedEntries : List (Scalar × Value) → List String
  | [] => []
  | (key, value) :: rest => (key.quoted ++ ": " ++ quoted value) :: quotedEntries rest
end

/-- The readable name of a storage type, of an array of them by its item, and of any other value
as it is shown. -/
def typeName : Value → String
  | .list [] => "[None]"
  | .list (item :: _) => "[" ++ typeName item ++ "]"
  | .type storage => storage.name
  | .scalar value => value.shown
  | v => v.quoted

mutual
/-- The value cannot be rendered to its end: it holds a mapping or list that is inside itself. What
is in a pair is taken as it is. -/
def isEndless : Value → Bool
  | .list items => anyEndless items
  | .map entries => anyEntryEndless entries
  | .embedded fields => anyEntryEndless fields
  | .kept (.recurrence _) => true
  | _ => false

def anyEndless : List Value → Bool
  | [] => false
  | item :: rest => isEndless item || anyEndless rest

def anyEntryEndless : List (Scalar × Value) → Bool
  | [] => false
  | (_, value) :: rest => isEndless value || anyEntryEndless rest
end

mutual
def toData : Value → Data
  | .scalar value => .scalar value
  | .list items => renderItems items
  | .map entries => .map (entriesToData entries)
  | .embedded fields => .map (entriesToData fields)
  | .type storage => .text storage.name
  | .validator name => .text name
  | .kept d => d

def renderItems : List Value → Data
  | [] => .list []
  | .type storage :: _ => .text ("[" ++ storage.name ++ "]")
  | item :: rest => .list (toData item :: itemsToData rest)

def itemsToData : List Value → List Data
  | [] => []
  | item :: rest => toData item :: itemsToData rest

def entriesToData : List (Scalar × Value) → List (Scalar × Data)
  | [] => []
  | (key, value) :: rest => (key, toData value) :: entriesToData rest
end

end Value

end StoreSchema
