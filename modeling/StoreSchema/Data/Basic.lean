import StoreSchema.Number.Binary64
import StoreSchema.Number.Numeral
import StoreSchema.Text.CodePoints

/-!
Document data: scalars, lists and mappings, and the pairs, sets and recurrences that a document may
hold besides.

A mapping keeps its entries in the order in which their keys were first put. Keys are scalars; two
keys are the same when they denote one number or one instant or are equal as they stand, so that
`1`, `1.0` and `true` are one key. A key that is absent reads as null.
-/

set_option autoImplicit false

namespace StoreSchema

/-- A value used as what it is not, outside the checks that have a wording of their own. -/
inductive Misuse where
  /-- Members were asked of something that is no mapping, or a method of something without it. -/
  | noMember
  /-- A value of the wrong kind was counted through, indexed, compared or used as a key. -/
  | wrongKind
  /-- A value of the right kind had the wrong form. -/
  | wrongForm
  /-- A number was too large. -/
  | tooLarge
  /-- A word was looked up that is not among those known. -/
  | unknownWord
  /-- A place beyond the end was asked for. -/
  | beyondEnd
deriving DecidableEq, Inhabited

/-- A time of day; the offset counts minutes to the east. -/
structure ClockTime where
  hour : Nat
  minute : Nat
  second : Nat
  microsecond : Nat
  offset : Option Int
deriving DecidableEq, Inhabited

structure Moment where
  year : Nat
  month : Nat
  day : Nat
  time : Option ClockTime
deriving DecidableEq, Inhabited

namespace Moment

private def daysBefore (year : Int) : Int :=
  365 * year + year.fdiv 4 - year.fdiv 100 + year.fdiv 400

/-- The number of days from the first of March of year 0 to a date. Counting years from March puts
the day that leap years add at their end. -/
private def dayNumber (moment : Moment) : Int :=
  let early : Bool := moment.month < 3
  let year : Int := if early then (moment.year : Int) - 1 else moment.year
  let month : Nat := if early then moment.month + 9 else moment.month - 3
  daysBefore year + ((153 * month + 2) / 5 + moment.day : Nat) - 1

/-- The number of microseconds to a moment whose offset from universal time is known. -/
def instant? (moment : Moment) : Option Int := do
  let time ← moment.time
  let offset ← time.offset
  let seconds : Int := 86400 * moment.dayNumber + 3600 * time.hour + 60 * time.minute + time.second
  pure (1000000 * (seconds - 60 * offset) + time.microsecond)

private def padded (width n : Nat) : String :=
  let digits := toString n
  String.ofList (List.replicate (width - digits.length) '0') ++ digits

private def offsetText (minutes : Int) : String :=
  (if minutes < 0 then "-" else "+") ++ padded 2 (minutes.natAbs / 60) ++ ":" ++
    padded 2 (minutes.natAbs % 60)

private def timeText (time : ClockTime) : String :=
  padded 2 time.hour ++ ":" ++ padded 2 time.minute ++ ":" ++ padded 2 time.second ++
    (if time.microsecond = 0 then "" else "." ++ padded 6 time.microsecond) ++
    (time.offset.map offsetText).getD ""

/-- A moment in ISO form, a blank between date and time. -/
def text (moment : Moment) : String :=
  padded 4 moment.year ++ "-" ++ padded 2 moment.month ++ "-" ++ padded 2 moment.day ++
    (moment.time.map fun time => " " ++ timeText time).getD ""

/-- An offset inside a list or mapping of a report: whole days and the seconds beyond them. -/
private def offsetQuoted (minutes : Int) : String :=
  if minutes = 0 then "datetime.timezone.utc"
  else
    let days := if minutes < 0 then "days=-1, " else ""
    let seconds := 60 * (if minutes < 0 then minutes + 24 * 60 else minutes)
    "datetime.timezone(datetime.timedelta(" ++ days ++ "seconds=" ++ toString seconds ++ "))"

/-- A moment inside a list or mapping of a report: its numbers by rank. Seconds that are zero are
left out. -/
def quoted (moment : Moment) : String :=
  let numbers := fun (ns : List Nat) => ", ".intercalate (ns.map toString)
  let date := [moment.year, moment.month, moment.day]
  match moment.time with
  | none => "datetime.date(" ++ numbers date ++ ")"
  | some time =>
    let clock := [time.hour, time.minute] ++
      (if time.microsecond ≠ 0 then [time.second, time.microsecond]
        else if time.second ≠ 0 then [time.second] else [])
    "datetime.datetime(" ++ numbers (date ++ clock) ++
      (time.offset.map fun minutes => ", tzinfo=" ++ offsetQuoted minutes).getD "" ++ ")"

end Moment

open StoreSchema.Number (Binary64)

/-- How a value that may be referred to came about: by the same steps only if it is one and the
same value, and by no steps if nothing refers to it. -/
abbrev Origin := List Nat

inductive Scalar where
  | null
  | bool (value : Bool)
  | int (value : Int)
  | float (value : Binary64)
  | text (value : String)
  | stamp (value : Moment) (origin : Origin)
  | bytes (value : List UInt8)
deriving DecidableEq, Inhabited

/-- What all scalars that are one key have in common. -/
inductive Identity where
  | number (value : Int)
  | instant (microseconds : Int)
  | moment (value : Moment)
  | itself (value : Scalar)
deriving DecidableEq

namespace Scalar

/-- The integer that a scalar denotes, if it denotes one. -/
def toInt? : Scalar → Option Int
  | .bool value => some (if value then 1 else 0)
  | .int value => some value
  | .float value => value.toInt?
  | _ => none

/-- What a scalar has in common with the scalars that are the same key: the number or the instant
that it denotes. -/
def identity (s : Scalar) : Identity :=
  match s.toInt? with
  | some n => .number n
  | none =>
    match s with
    | .stamp value _ => (value.instant?.map Identity.instant).getD (.moment value)
    | s => .itself s

/-- The two scalars are equal as keys and as members of a list. -/
def same (a b : Scalar) : Bool :=
  decide (a.identity = b.identity)

/-- False for null, false, zero and the empty text. -/
def isTruthy : Scalar → Bool
  | .null => false
  | .bool value => value
  | .int value => value != 0
  | .float value => !value.isZero
  | .text value => value != ""
  | .stamp _ _ => true
  | .bytes value => !value.isEmpty

@[simp] theorem identity_text (s : String) : (Scalar.text s).identity = .itself (.text s) := rfl

@[simp] theorem same_refl (s : Scalar) : s.same s = true := by
  simp [same]

theorem same_iff {a b : Scalar} : a.same b = true ↔ a.identity = b.identity := by
  simp [same]

theorem same_symm {a b : Scalar} (h : a.same b = true) : b.same a = true :=
  same_iff.2 (same_iff.1 h).symm

theorem same_trans {a b c : Scalar} (hab : a.same b = true) (hbc : b.same c = true) :
    a.same c = true :=
  same_iff.2 ((same_iff.1 hab).trans (same_iff.1 hbc))

theorem eq_of_identity_eq_itself {s : Scalar} {k : Scalar} (h : k.identity = .itself s) :
    k = s := by
  unfold identity at h
  split at h
  · cases h
  · split at h
    · rename_i value _ _
      cases hi : value.instant? <;> simp [hi] at h
    · simpa using h

@[simp] theorem same_text {s : String} {k : Scalar} :
    k.same (.text s) = true ↔ k = .text s := by
  rw [same_iff, identity_text]
  exact ⟨eq_of_identity_eq_itself, fun h => by rw [h, identity_text]⟩

end Scalar

/-- Entries by key, in the order in which the keys were first put. -/
abbrev Entries (α : Type) := List (Scalar × α)

namespace Entries

variable {α β : Type}

def get? (es : Entries α) (key : Scalar) : Option α :=
  match es with
  | [] => none
  | (k, v) :: rest => if k.same key then some v else get? rest key

def has (es : Entries α) (key : Scalar) : Bool :=
  (get? es key).isSome

/-- Gives a key a value: in place if the key is there, at the end if not. -/
def put (es : Entries α) (key : Scalar) (value : α) : Entries α :=
  match es with
  | [] => [(key, value)]
  | (k, v) :: rest => if k.same key then (k, value) :: rest else (k, v) :: put rest key value

def erase (es : Entries α) (key : Scalar) : Entries α :=
  es.filter fun e => !e.1.same key

/-- The entries of `upper` laid on those of `es`. -/
def overlay (es upper : Entries α) : Entries α :=
  upper.foldl (fun acc e => put acc e.1 e.2) es

def keys (es : Entries α) : List Scalar :=
  es.map Prod.fst

def mapValues (f : α → β) (es : Entries α) : Entries β :=
  es.map fun e => (e.1, f e.2)

@[simp] theorem get?_nil (key : Scalar) : get? ([] : Entries α) key = none := rfl

theorem get?_cons (k : Scalar) (v : α) (es : Entries α) (key : Scalar) :
    get? ((k, v) :: es) key = if k.same key then some v else get? es key := rfl

@[simp] theorem get?_put_same (es : Entries α) (key : Scalar) (v : α) :
    get? (put es key v) key = some v := by
  induction es with
  | nil => simp [put, get?]
  | cons e es ih =>
    obtain ⟨k, w⟩ := e
    by_cases h : k.same key = true <;> simp [put, get?, h, ih]

theorem get?_put_other (es : Entries α) {key other : Scalar} (v : α)
    (h : key.same other = false) : get? (put es key v) other = get? es other := by
  induction es with
  | nil => simp [put, get?, h]
  | cons e es ih =>
    obtain ⟨k, w⟩ := e
    by_cases hk : k.same key = true
    · have : k.same other = false := by
        cases hko : k.same other with
        | false => rfl
        | true => rw [Scalar.same_trans (Scalar.same_symm hk) hko] at h; cases h
      simp [put, get?, hk, this]
    · simp [put, get?, hk, ih]

theorem sizeOf_lt_of_mem [SizeOf α] {es : Entries α} {key : Scalar} {v : α} (h : (key, v) ∈ es) :
    sizeOf v < sizeOf es := by
  have hlt := List.sizeOf_lt_of_mem h
  rw [Prod.mk.sizeOf_spec] at hlt
  omega

theorem sizeOf_lt_of_get? [SizeOf α] {es : Entries α} {key : Scalar} {v : α}
    (h : get? es key = some v) : sizeOf v < sizeOf es := by
  induction es with
  | nil => simp at h
  | cons e es ih =>
    obtain ⟨k, w⟩ := e
    rw [get?_cons] at h
    split at h
    · cases h
      exact sizeOf_lt_of_mem List.mem_cons_self
    · have hlt := ih h
      rw [List.cons.sizeOf_spec]
      omega

end Entries

inductive Data where
  | scalar (value : Scalar)
  | list (items : List Data)
  | map (entries : List (Scalar × Data))
  /-- A row of two that cannot be added to. -/
  | pair (first second : Data) (origin : Origin)
  /-- Scalars without an order, no two the same. -/
  | set (members : List Scalar) (origin : Origin)
  /-- A mapping or list at a place inside itself. -/
  | recurrence (isMap : Bool)
deriving Inhabited

namespace Data

@[match_pattern] abbrev null : Data := .scalar .null

@[match_pattern] abbrev bool (value : Bool) : Data := .scalar (.bool value)

@[match_pattern] abbrev int (value : Int) : Data := .scalar (.int value)

@[match_pattern] abbrev text (value : String) : Data := .scalar (.text value)

/-- False for a falsy scalar and for an empty list, mapping or set. -/
def isTruthy : Data → Bool
  | .scalar value => value.isTruthy
  | .list items => !items.isEmpty
  | .map entries => !entries.isEmpty
  | .pair _ _ _ => true
  | .set members _ => !members.isEmpty
  | .recurrence _ => true

def isNull : Data → Bool
  | .null => true
  | _ => false

def isMap : Data → Bool
  | .map _ => true
  | .recurrence isMap => isMap
  | _ => false

def isText (d : Data) (s : String) : Bool :=
  match d with
  | .text t => t == s
  | _ => false

/-- The value is a scalar that is the same as the given one. -/
def isScalar (d : Data) (s : Scalar) : Bool :=
  match d with
  | .scalar t => t.same s
  | _ => false

end Data

namespace Entries

/-- What stands under a name; null if nothing does. -/
def value (es : Entries Data) (name : String) : Data :=
  (get? es (.text name)).getD .null

theorem sizeOf_lt_of_value {es inner : Entries Data} {name : String}
    (h : value es name = .map inner) : sizeOf (Data.map inner) < sizeOf es := by
  cases hd : get? es (.text name) with
  | none => rw [value, hd] at h; cases h
  | some d =>
    rw [value, hd] at h
    cases h
    exact sizeOf_lt_of_get? hd

end Entries

namespace Data

/-- A value that a copy has in common with its source: a scalar without an origin, or a pair of such
values. -/
def isKept : Data → Bool
  | .scalar (.stamp _ _) => false
  | .scalar _ => true
  | .pair first second _ => isKept first && isKept second
  | _ => false

def copiedScalar (step : Nat) : Scalar → Scalar
  | .stamp value origin => .stamp value (step :: origin)
  | s => s

mutual
/-- A copy of a value; what in it has an origin has another one in each copy. -/
def copied (step : Nat) : Data → Data
  | .scalar s => .scalar (copiedScalar step s)
  | .list items => .list (copiedItems step items)
  | .map entries => .map (copiedEntries step entries)
  | .pair first second origin =>
    if isKept first && isKept second then .pair first second origin
    else .pair (copied step first) (copied step second) (step :: origin)
  | .set members origin => .set (members.map (copiedScalar step)) (step :: origin)
  | .recurrence isMap => .recurrence isMap

def copiedItems (step : Nat) : List Data → List Data
  | [] => []
  | item :: rest => copied step item :: copiedItems step rest

def copiedEntries (step : Nat) : List (Scalar × Data) → List (Scalar × Data)
  | [] => []
  | (key, value) :: rest =>
    (copiedScalar step key, copied step value) :: copiedEntries step rest
end

/-- What stands under a name of a mapping; null for anything else. -/
def value (d : Data) (name : String) : Data :=
  match d with
  | .map entries => Entries.value entries name
  | _ => .null

end Data

/-- The way to a part of a value: at each level the number of the entry or item. -/
abbrev Place := List Nat

/-- Groups of places, each of which hold one mapping. -/
abbrev Sharing := List (List Place)

namespace Data

/-- A value with the entries of the mapping at a place changed; the value itself if there is no
mapping. -/
def changeAt (change : Entries Data → Entries Data) : Place → Data → Data
  | [], .map entries => .map (change entries)
  | n :: rest, .map entries =>
    .map (entries.mapIdx fun k e => if k == n then (e.1, changeAt change rest e.2) else e)
  | n :: rest, .list items =>
    .list (items.mapIdx fun k item => if k == n then changeAt change rest item else item)
  | n :: rest, .pair first second origin =>
    if n == 0 then .pair (changeAt change rest first) second origin
    else .pair first (changeAt change rest second) origin
  | _, d => d

end Data

namespace Scalar

def shown : Scalar → String
  | .null => "None"
  | .bool value => if value then "True" else "False"
  | .int value => toString value
  | .float value => value.text
  | .text value => value
  | .stamp value _ => value.text
  | .bytes value => Text.Quoted.quotedBytes value

def quoted : Scalar → String
  | .text value => Text.Quoted.quoted value
  | .stamp value _ => value.quoted
  | s => s.shown

def isShort : Scalar → Bool
  | .int value => (Number.Numeral.text? value).isSome
  | _ => true

end Scalar

namespace Data

mutual
def quoted : Data → String
  | .scalar value => value.quoted
  | .list items => "[" ++ ", ".intercalate (quotedItems items) ++ "]"
  | .map entries => "\x7b" ++ ", ".intercalate (quotedEntries entries) ++ "\x7d"
  | .pair first second _ => "(" ++ quoted first ++ ", " ++ quoted second ++ ")"
  | .set [] _ => "set()"
  | .set members _ => "\x7b" ++ ", ".intercalate (members.map Scalar.quoted) ++ "\x7d"
  | .recurrence isMap => if isMap then "\x7b...\x7d" else "[...]"

def quotedItems : List Data → List String
  | [] => []
  | item :: rest => quoted item :: quotedItems rest

def quotedEntries : List (Scalar × Data) → List String
  | [] => []
  | (key, value) :: rest => (key.quoted ++ ": " ++ quoted value) :: quotedEntries rest
end

def shown : Data → String
  | .scalar value => value.shown
  | d => d.quoted

mutual
def isShort : Data → Bool
  | .scalar value => value.isShort
  | .list items => areShort items
  | .map entries => entriesAreShort entries
  | .pair first second _ => isShort first && isShort second
  | .set members _ => members.all Scalar.isShort
  | .recurrence _ => true

def areShort : List Data → Bool
  | [] => true
  | item :: rest => isShort item && areShort rest

def entriesAreShort : List (Scalar × Data) → Bool
  | [] => true
  | (key, value) :: rest => key.isShort && isShort value && entriesAreShort rest
end

end Data

end StoreSchema
