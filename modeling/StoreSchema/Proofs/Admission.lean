import StoreSchema.Proofs.Blocks
import StoreSchema.Proofs.JsonReading
import StoreSchema.Proofs.Utf8
import StoreSchema.Proofs.Versions

/-!
Which documents are taken in.

An argument is a document as it stands, the JSON of one as a text or as bytes, or none at all. Main
statement of this module: an argument is refused as invalid input exactly if there is none, if it is
of another kind, if its bytes are no UTF-8 or its text is no JSON, if it does not give a mapping, or
if this has truthy definitions that are no mapping. Definitions that are falsy are none, whatever
they are, and compile to nothing.
-/

set_option autoImplicit false

namespace StoreSchema

namespace Fault

def isInvalidInput : Fault → Bool
  | .noDocument | .documentNotText _ | .documentNotJson _ _ _ | .documentOfKind _
  | .documentNotMapping | .definitionsNotMapping | .propertyNotMapping _ _ _ | .documentAbsent _
  | .fileNotJson _ _ _ | .fileNotYaml _ _ | .fileNotMapping _ => true
  | _ => false

end Fault

/-- A step ends with the fault that its input is invalid. -/
def RefusesInput {α : Type} (outcome : Except Fault α) : Prop :=
  ∃ fault, outcome = .error fault ∧ fault.isInvalidInput = true

section Outcome

variable {α β : Type} {a : Except Fault α} {f : α → Except Fault β}

theorem not_refusesInput_ok (v : α) : ¬RefusesInput (.ok v : Except Fault α) := by
  rintro ⟨fault, h, -⟩
  cases h

theorem not_refusesInput_error {fault : Fault} (h : fault.isInvalidInput = false) :
    ¬RefusesInput (.error fault : Except Fault α) := by
  rintro ⟨_, hfault, hinvalid⟩
  cases hfault
  rw [h] at hinvalid
  cases hinvalid

theorem not_refusesInput_orMisuse (a : Except Misuse α) : ¬RefusesInput (orMisuse a) := by
  cases a with
  | ok v => exact not_refusesInput_ok v
  | error misuse => exact not_refusesInput_error rfl

theorem refusesInput_bind_iff :
    RefusesInput (a >>= f) ↔ RefusesInput a ∨ ∃ v, a = .ok v ∧ RefusesInput (f v) := by
  cases a with
  | ok v =>
    constructor
    · exact fun h => Or.inr ⟨v, rfl, h⟩
    · rintro (h | ⟨w, hw, h⟩)
      · exact absurd h (not_refusesInput_ok v)
      · cases hw
        exact h
  | error fault =>
    constructor
    · rintro ⟨_, hfault, h⟩
      cases hfault
      exact Or.inl ⟨fault, rfl, h⟩
    · rintro (⟨_, hfault, h⟩ | ⟨w, hw, h⟩)
      · cases hfault
        exact ⟨fault, rfl, h⟩
      · cases hw

theorem not_refusesInput_bind (ha : ¬RefusesInput a) (hf : ∀ v, ¬RefusesInput (f v)) :
    ¬RefusesInput (a >>= f) := by
  rw [refusesInput_bind_iff]
  rintro (h | ⟨v, -, h⟩)
  · exact ha h
  · exact hf v h

end Outcome

namespace ValidatorLibrary

private theorem not_refusesInput_loadAt (library : ValidatorLibrary) (place : List String) :
    ¬RefusesInput (library.loadAt place).1 := by
  unfold loadAt
  split
  · exact not_refusesInput_ok _
  · split
    · exact not_refusesInput_error rfl
    · dsimp only
      split
      · exact not_refusesInput_error rfl
      · exact not_refusesInput_ok _

private theorem not_refusesInput_load (library : ValidatorLibrary) (path : Data)
    (base : Option String) : ¬RefusesInput (library.load path base).1 := by
  unfold load
  split
  · next path =>
    split
    · next fault hfault =>
      unfold resolve at hfault
      dsimp only at hfault
      split at hfault
      · cases hfault
        exact not_refusesInput_error rfl
      · cases hfault
      · cases hfault
        exact not_refusesInput_error rfl
    · next place hplace =>
      have hload := library.not_refusesInput_loadAt place
      dsimp only
      cases h : (library.loadAt place).1 with
      | ok m => exact not_refusesInput_ok _
      | error fault =>
        rw [h] at hload
        rintro ⟨_, hfault, hinvalid⟩
        cases hfault
        exact hload ⟨fault, rfl, hinvalid⟩
  · exact not_refusesInput_error rfl

theorem not_refusesInput_loadAll (library : ValidatorLibrary) (base : Option String)
    (validators : List (String × String)) (paths : List Data) :
    ¬RefusesInput (library.loadAll base validators paths) := by
  induction paths generalizing library validators with
  | nil => exact not_refusesInput_ok _
  | cons path rest ih =>
    have hload := library.not_refusesInput_load path base
    rw [loadAll]
    split
    · exact ih _ _
    · next fault library' hfault =>
      rw [hfault] at hload
      rintro ⟨_, heq, hinvalid⟩
      cases heq
      exact hload ⟨fault, rfl, hinvalid⟩

end ValidatorLibrary

def Data.NoMapping (d : Data) : Prop := ∀ entries, d ≠ .map entries

namespace Document

variable {document : Entries Data}

theorem refusesInput_definitionsOf_iff : RefusesInput (definitionsOf document) ↔
    (Entries.value document "definitions").isTruthy = true ∧
      (Entries.value document "definitions").NoMapping := by
  unfold definitionsOf
  split
  · next definitions hmap =>
    constructor
    · exact fun h => absurd h (not_refusesInput_ok _)
    · exact fun h => absurd hmap (h.2 definitions)
  · next hmap =>
    split
    · next htruthy =>
      exact ⟨fun _ => ⟨htruthy, hmap⟩, fun _ => ⟨_, rfl, rfl⟩⟩
    · next hfalsy =>
      constructor
      · exact fun h => absurd h (not_refusesInput_ok _)
      · exact fun h => absurd h.1 hfalsy

private theorem Finds.not_refusesInput {declared : Data} {earlier : List Warning}
    {found : Except Fault (Option Number.Binary64) × List Warning}
    (h : Finds declared earlier found) : ¬RefusesInput found.1 := by
  cases h with
  | absent | number | unreadable => exact not_refusesInput_ok _
  | oversized | unshown => exact not_refusesInput_error rfl

private theorem Finds.exists_eq_ok {declared : Data} {earlier : List Warning}
    {found : Except Fault (Option Number.Binary64) × List Warning}
    (h : Finds declared earlier found) (hsize : ¬declared.IsOversized)
    (hshort : declared.isShort = true) : ∃ version, found.1 = .ok version := by
  cases h with
  | absent | number | unreadable => exact ⟨_, rfl⟩
  | oversized hoversized => exact absurd hoversized hsize
  | unshown _ _ hlong =>
    rw [hshort] at hlong
    cases hlong

/-- Taking a document in refuses it only if it cannot be decoded or its definitions are no
mapping. -/
theorem refusesInput_contextOf_iff {session : Session} {source : Source}
    (hsharing : source.sharing = none) : RefusesInput (session.contextOf source .absent) ↔
      RefusesInput (decode source) ∨
        ∃ document, decode source = .ok document ∧ RefusesInput (definitionsOf document) := by
  rw [Session.contextOf_eq, refusesInput_bind_iff]
  refine or_congr_right (exists_congr fun document => and_congr_right fun _ => ?_)
  rw [decodeExtra, ok_bind, refusesInput_bind_iff]
  constructor
  · rintro (h | ⟨declared, -, h⟩)
    · exact h
    · refine absurd h (not_refusesInput_bind (finds_detectVersion document []).not_refusesInput
        fun version => ?_)
      rw [hsharing]
      refine not_refusesInput_bind (not_refusesInput_ok _) fun x => ?_
      exact not_refusesInput_bind (not_refusesInput_orMisuse _) fun _ =>
        not_refusesInput_bind (session.library.not_refusesInput_loadAll _ _ _) fun _ =>
          not_refusesInput_ok _
  · exact Or.inl

end Document

/-! ### Arguments -/

/-- A value as it is handed in: nothing, a text, bytes, or data. -/
def Source.ofValue : Data → Source
  | .null => .absent
  | .text json => .text json
  | .scalar (.bytes json) => .bytes json
  | value => .data value

theorem Source.sharing_ofValue (d : Data) : (ofValue d).sharing = none := by
  unfold ofValue
  split <;> rfl

/-- The argument is a text, or it is the UTF-8 of one. -/
inductive Spells : Data → String → Prop
  | text (s : String) : Spells (.text s) s
  | bytes {value : List UInt8} {chars : List Char}
      (h : value = chars.flatMap String.utf8EncodeChar) :
      Spells (.scalar (.bytes value)) (String.ofList (Text.Surrogate.ofChars chars))

theorem Spells.unique {d : Data} {s s' : String} (h : Spells d s) (h' : Spells d s') : s = s' := by
  cases h with
  | text s =>
    cases h'
    rfl
  | bytes hvalue =>
    cases h' with
    | bytes hvalue' =>
      have hread := Text.Utf8.decode_eq_ok_iff.mpr ⟨_, hvalue, rfl⟩
      have hread' := Text.Utf8.decode_eq_ok_iff.mpr ⟨_, hvalue', rfl⟩
      exact Except.ok.inj (hread.symm.trans hread')

/-- The value of the JSON text that an argument spells; a mapping stands for itself. -/
inductive DecodesTo : Data → Data → Prop
  | json {d value : Data} {s : String} (hspells : Spells d s) (hread : Json.read s = .ok value) :
      DecodesTo d value
  | itself (entries : Entries Data) : DecodesTo (.map entries) (.map entries)

/-- The argument is not one of a document. -/
inductive IsUndecodable : Data → Prop
  | absent : IsUndecodable .null
  | otherKind {d : Data} (hnull : d ≠ .null) (htext : ∀ s, d ≠ .text s)
      (hbytes : ∀ value, d ≠ .scalar (.bytes value)) (hmap : d.NoMapping) :
      IsUndecodable d
  | notUtf8 {value : List UInt8} (h : ¬Text.Utf8.IsUtf8 value) :
      IsUndecodable (.scalar (.bytes value))
  | notJson {d : Data} {s : String} (hspells : Spells d s) (h : ¬Json.IsJson s) : IsUndecodable d
  | notMapping {d value : Data} (h : DecodesTo d value) (hmap : value.NoMapping) :
      IsUndecodable d

/-- The argument is not one of a document, or is one of a document with bad definitions. -/
def IsRefused (bad : Data → Prop) (d : Data) : Prop :=
  IsUndecodable d ∨
    ∃ document, DecodesTo d (.map document) ∧ bad (Entries.value document "definitions")

namespace Document

theorem ofText_eq_ok_iff {s : String} {entries : Entries Data} :
    ofText s = .ok entries ↔ Json.read s = .ok (.map entries) := by
  unfold ofText
  split
  · next _ hread => simp [hread]
  · next value hmap hread =>
    rw [hread]
    simp only [reduceCtorEq, false_iff]
    intro h
    exact hmap entries (Except.ok.inj h)
  all_goals next hread => simp [hread]

theorem refusesInput_ofText_of_read {s : String} {value : Data} (hread : Json.read s = .ok value) :
    RefusesInput (ofText s) ↔ value.NoMapping := by
  by_cases hmap : ∃ entries, value = .map entries
  · obtain ⟨entries, rfl⟩ := hmap
    rw [ofText_eq_ok_iff.mpr hread]
    exact ⟨fun h => absurd h (not_refusesInput_ok entries), fun h => absurd rfl (h entries)⟩
  · have hno : value.NoMapping := fun entries h => hmap ⟨entries, h⟩
    refine ⟨fun _ => hno, fun _ => ⟨.documentNotMapping, ?_, rfl⟩⟩
    unfold ofText
    rw [hread]
    split
    · next heq => exact absurd (Except.ok.inj heq) (hno _)
    · rfl
    all_goals next heq => cases heq

/-- A text is refused if it is no JSON or its value is no mapping; what comes to a limit has to be
JSON. -/
theorem refusesInput_ofText_iff {s : String} (hlimits : ¬Json.IsJson s → Json.IsWithinLimits s) :
    RefusesInput (ofText s) ↔
      ¬Json.IsJson s ∨ ∃ value, Json.read s = .ok value ∧ value.NoMapping := by
  have htells := Json.tells_read s
  generalize hread : Json.read s = outcome at htells
  cases htells with
  | @ok value hjson =>
    rw [refusesInput_ofText_of_read hread, or_iff_right (not_not_intro hjson)]
    constructor
    · exact fun h => ⟨value, rfl, h⟩
    · rintro ⟨_, heq, h⟩
      cases heq
      exact h
  | malformed cause position hjson =>
    refine ⟨fun _ => Or.inl hjson, fun _ => ⟨.documentNotJson s cause position, ?_, rfl⟩⟩
    rw [ofText, hread]
  | tooLong hlong =>
    have hjson : ¬¬Json.IsJson s := fun h => (hlimits h).1 hlong
    have hfault : ¬RefusesInput (ofText s) := by
      rw [ofText, hread]
      exact not_refusesInput_error rfl
    simp [hjson, hfault]
  | tooDeep hdeep =>
    have hjson : ¬¬Json.IsJson s := fun h => by
      have hnesting := (hlimits h).2
      omega
    have hfault : ¬RefusesInput (ofText s) := by
      rw [ofText, hread]
      exact not_refusesInput_error rfl
    simp [hjson, hfault]

inductive Argument (d : Data) : Prop
  | absent (h : d = .null)
  | spells {s : String} (h : Spells d s)
  | broken {value : List UInt8} (hbytes : d = .scalar (.bytes value))
      (h : ¬Text.Utf8.IsUtf8 value)
  | mapping {entries : Entries Data} (h : d = .map entries)
  | other (hnull : d ≠ .null) (htext : ∀ s, d ≠ .text s)
      (hbytes : ∀ value, d ≠ .scalar (.bytes value)) (hmap : d.NoMapping)

theorem argument (d : Data) : Argument d := by
  by_cases hnull : d = .null
  · exact .absent hnull
  · by_cases htext : ∃ s, d = .text s
    · obtain ⟨s, rfl⟩ := htext
      exact .spells (.text s)
    · by_cases hbytes : ∃ value, d = .scalar (.bytes value)
      · obtain ⟨value, rfl⟩ := hbytes
        by_cases hutf8 : Text.Utf8.IsUtf8 value
        · obtain ⟨chars, hvalue⟩ := hutf8
          exact .spells (.bytes hvalue)
        · exact .broken rfl hutf8
      · by_cases hmap : ∃ entries, d = .map entries
        · obtain ⟨entries, hentries⟩ := hmap
          exact .mapping hentries
        · exact .other hnull (fun s h => htext ⟨s, h⟩) (fun value h => hbytes ⟨value, h⟩)
            fun entries h => hmap ⟨entries, h⟩

theorem decode_of_spells {d : Data} {s : String} (h : Spells d s) :
    decode (Source.ofValue d) = ofText s := by
  cases h with
  | text s => rfl
  | @bytes value chars hvalue =>
    have hread := Text.Utf8.decode_eq_ok_iff.mpr ⟨chars, hvalue, rfl⟩
    change decode (.bytes value) = _
    rw [decode, hread]

theorem decode_of_broken {value : List UInt8} (h : ¬Text.Utf8.IsUtf8 value) :
    ∃ fault, decode (.bytes value) = .error (.documentNotText fault) := by
  rw [Text.Utf8.isUtf8_iff] at h
  cases hread : Text.Utf8.decode value with
  | ok s => exact absurd ⟨s, hread⟩ h
  | error fault =>
    refine ⟨fault, ?_⟩
    rw [decode, hread]

theorem decode_of_other {d : Data} (hnull : d ≠ .null) (htext : ∀ s, d ≠ .text s)
    (hbytes : ∀ value, d ≠ .scalar (.bytes value)) (hmap : d.NoMapping) :
    ∃ kind, decode (Source.ofValue d) = .error (.documentOfKind kind) := by
  cases d with
  | scalar value =>
    cases value with
    | null => exact absurd rfl hnull
    | text s => exact absurd rfl (htext s)
    | bytes value => exact absurd rfl (hbytes value)
    | _ => exact ⟨_, rfl⟩
  | map entries => exact absurd rfl (hmap entries)
  | _ => exact ⟨_, rfl⟩

theorem decode_ofValue_iff {d : Data} {entries : Entries Data} :
    decode (Source.ofValue d) = .ok entries ↔ DecodesTo d (.map entries) := by
  constructor
  · intro h
    cases argument d with
    | absent hnull =>
      subst hnull
      cases h
    | spells hspells =>
      rw [decode_of_spells hspells, ofText_eq_ok_iff] at h
      exact .json hspells h
    | broken hbytes hbroken =>
      subst hbytes
      obtain ⟨fault, hfault⟩ := decode_of_broken hbroken
      change decode (.bytes _) = _ at h
      rw [hfault] at h
      cases h
    | mapping hmap =>
      subst hmap
      cases h
      exact .itself entries
    | other hnull htext hbytes hmap =>
      obtain ⟨kind, hkind⟩ := decode_of_other hnull htext hbytes hmap
      rw [hkind] at h
      cases h
  · intro h
    cases h with
    | json hspells hread =>
      rw [decode_of_spells hspells]
      exact ofText_eq_ok_iff.mpr hread
    | itself => rfl

/-- Decoding an argument refuses exactly what is not one of a document. -/
theorem refusesInput_decode_iff {d : Data}
    (hlimits : ∀ s, Spells d s → ¬Json.IsJson s → Json.IsWithinLimits s) :
    RefusesInput (decode (Source.ofValue d)) ↔ IsUndecodable d := by
  constructor
  · intro h
    cases argument d with
    | absent hnull =>
      rw [hnull]
      exact .absent
    | spells hspells =>
      rw [decode_of_spells hspells, refusesInput_ofText_iff (hlimits _ hspells)] at h
      rcases h with hjson | ⟨value, hread, hmap⟩
      · exact .notJson hspells hjson
      · exact .notMapping (.json hspells hread) hmap
    | broken hbytes hbroken =>
      rw [hbytes]
      exact .notUtf8 hbroken
    | mapping hmap =>
      subst hmap
      exact absurd h (not_refusesInput_ok _)
    | other hnull htext hbytes hmap => exact .otherKind hnull htext hbytes hmap
  · intro h
    cases h with
    | absent => exact ⟨_, rfl, rfl⟩
    | otherKind hnull htext hbytes hmap =>
      obtain ⟨kind, hkind⟩ := decode_of_other hnull htext hbytes hmap
      exact ⟨_, hkind, rfl⟩
    | notUtf8 hbroken =>
      obtain ⟨fault, hfault⟩ := decode_of_broken hbroken
      exact ⟨_, hfault, rfl⟩
    | notJson hspells hjson =>
      rw [decode_of_spells hspells, refusesInput_ofText_iff (hlimits _ hspells)]
      exact Or.inl hjson
    | notMapping hdecodes hmap =>
      cases hdecodes with
      | json hspells hread =>
        rw [decode_of_spells hspells, refusesInput_ofText_iff (hlimits _ hspells)]
        exact Or.inr ⟨_, hread, hmap⟩
      | itself entries => exact absurd rfl (hmap entries)

end Document

namespace Session

variable {session : Session} {source : Source} {document : Entries Data}

/-- A document has no definitions and no extension block of its own, and its version can be
taken. -/
structure Bare (session : Session) (document : Entries Data) : Prop where
  definitions : (Entries.value document "definitions").isTruthy = false
  block : (Entries.value document session.settings.compiler.extensionKey).isTruthy = false
  legacy : (Entries.value document session.settings.compiler.legacyExtensionKey).isTruthy = false
  size : ¬(Entries.value document "swagger").IsOversized
  short : (Entries.value document "swagger").isShort = true

theorem compileDefinitions_of_bare (hdecode : Document.decode source = .ok document)
    (hsharing : source.sharing = none) (hbare : session.Bare document) :
    (session.compileDefinitions source .absent).outcome = .ok [] := by
  obtain ⟨hfalsy, hblock, hlegacy, hsize, hshort⟩ := hbare
  obtain ⟨version, hversion⟩ :=
    (Document.finds_detectVersion document []).exists_eq_ok hsize hshort
  let ctx : Context :=
    { definitions := [], settings := session.settings.compiler, version,
      validators := session.validators }
  have hkey : (Entries.value document ctx.extensionKey).isTruthy = false := by
    unfold Context.extensionKey
    split
    · exact hlegacy
    · exact hblock
  have hbuilds : session.Builds document ctx := by
    refine ⟨Document.definitionsOf_of_falsy hfalsy, rfl, hversion, ?_, rfl⟩
    rw [Document.gatherExtensions_blockless hkey (by rintro e ⟨⟩)]
    rfl
  have hctx := (contextOf_eq_ok_iff hdecode hsharing).mpr hbuilds
  rw [outcome_compileDefinitions hctx]
  rfl

/-- An argument is refused as invalid input exactly if it is not one of a document or has truthy
definitions that are no mapping; a bare document compiles to nothing. A text that is no JSON is
refused if it comes to no limit before its fault. -/
theorem refuses_exactly (session : Session) (d : Data)
    (hlimits : ∀ s, Spells d s → ¬Json.IsJson s → Json.IsWithinLimits s) :
    (RefusesInput (session.contextOf (Source.ofValue d) .absent) ↔
      IsRefused (fun declared => declared.isTruthy = true ∧ declared.NoMapping) d) ∧
    ∀ document, DecodesTo d (.map document) → session.Bare document →
      (session.compileDefinitions (Source.ofValue d) .absent).outcome = .ok [] := by
  constructor
  · rw [Document.refusesInput_contextOf_iff (Source.sharing_ofValue d),
      Document.refusesInput_decode_iff hlimits]
    unfold IsRefused
    simp only [Document.decode_ofValue_iff, Document.refusesInput_definitionsOf_iff]
  · intro document hdecodes hbare
    exact compileDefinitions_of_bare (Document.decode_ofValue_iff.mpr hdecodes)
      (Source.sharing_ofValue d) hbare

/-- A text of a document whose definitions are null. -/
def nullDefinitions : Data := .text "\x7b\"swagger\": \"2.0\", \"definitions\": null\x7d"

theorem null_definitions_compile :
    (∀ s, Spells nullDefinitions s → ¬Json.IsJson s → Json.IsWithinLimits s) ∧
    DecodesTo nullDefinitions
      (.map [(.text "swagger", .text "2.0"), (.text "definitions", .null)]) ∧
    (({} : Session).compileDefinitions (Source.ofValue nullDefinitions) .absent).outcome =
      .ok [] := by
  have hlimits : ∀ s, Spells nullDefinitions s → ¬Json.IsJson s → Json.IsWithinLimits s := by
    intro s hs _
    rw [hs.unique (.text _)]
    exact Json.isWithinLimits_of_length_le (by decide)
  have hdecodes : DecodesTo nullDefinitions
      (.map [(.text "swagger", .text "2.0"), (.text "definitions", .null)]) :=
    .json (.text _) rfl
  have hbare : ({} : Session).Bare [(.text "swagger", .text "2.0"), (.text "definitions", .null)] :=
    ⟨rfl, rfl, rfl, id, rfl⟩
  exact ⟨hlimits, hdecodes, (refuses_exactly {} nullDefinitions hlimits).2 _ hdecodes hbare⟩

/-- Definitions that are an empty list are there and are no mapping, and are not refused. -/
theorem empty_list_not_refused :
    ¬(RefusesInput (({} : Session).contextOf
        (Source.ofValue (.map [(.text "definitions", .list [])])) .absent) ↔
      IsRefused (fun declared => declared ≠ .null ∧ declared.NoMapping)
        (.map [(.text "definitions", .list [])])) := by
  intro h
  have hrefused : IsRefused (fun declared => declared ≠ .null ∧ declared.NoMapping)
      (.map [(.text "definitions", .list [])]) :=
    Or.inr ⟨_, .itself _, by rintro ⟨⟩, by rintro entries ⟨⟩⟩
  obtain ⟨fault, hfault, -⟩ := h.mpr hrefused
  cases hfault

end Session

end StoreSchema
