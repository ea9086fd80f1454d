import StoreSchema.Proofs.Meaning
import StoreSchema.Proofs.Throughout
import StoreSchema.Proofs.Merging

set_option autoImplicit false

namespace StoreSchema

def Shape.nodeKeywords : List String :=
  ["allOf", "properties", "required", "type", "format", "items"]

def Data.erase (name : String) : Data → Data
  | .map entries => .map (Entries.erase entries (.text name))
  | d => d

theorem Data.members_erase (name : String) (d : Data) :
    (d.erase name).members = d.members.map fun es => Entries.erase es (.text name) := by
  unfold Data.erase
  split
  · rfl
  · next hmap =>
    unfold Data.members
    split
    · next entries => exact absurd rfl (hmap entries)
    · rfl
    · rfl

namespace Entries

variable {α : Type} {name word : String}

theorem get?_erase_word (h : name ≠ word) (es : Entries α) :
    get? (erase es (.text name)) (.text word) = get? es (.text word) :=
  get?_erase_other (Scalar.same_text_of_ne h) es

theorem value_erase_word (h : name ≠ word) (es : Entries Data) :
    value (erase es (.text name)) word = value es word := by
  rw [value, get?_erase_word h, value]

theorem erase_comm (es : Entries α) (key other : Scalar) :
    erase (erase es key) other = erase (erase es other) key := by
  unfold erase
  rw [List.filter_filter, List.filter_filter]
  simp only [Bool.and_comm]

theorem erase_put_other {key other : Scalar} (h : other.same key = false) (es : Entries α) (v : α) :
    erase (put es other v) key = put (erase es key) other v := by
  induction es with
  | nil => simp [put, erase, h]
  | cons e rest ih =>
    obtain ⟨k, w⟩ := e
    unfold erase at ih ⊢
    rw [put]
    cases hk : k.same other with
    | true =>
      have hkept : k.same key = false := by
        rw [Scalar.same_comm, Scalar.same_congr hk, Scalar.same_comm, h]
      simp [hkept, put, hk]
    | false =>
      simp only [Bool.false_eq_true, if_false, List.filter_cons, ih]
      split
      · rw [put, hk]
        rfl
      · rfl

end Entries

section Node

variable {key : String} (hkey : key ∉ Shape.nodeKeywords)

include hkey

private theorem ne_of_keyword {word : String} (hword : word ∈ Shape.nodeKeywords) : key ≠ word :=
  fun h => hkey (h ▸ hword)

theorem FieldType.ofEntries_erase (entries : Entries Data) :
    ofEntries (Entries.erase entries (.text key)) = ofEntries entries := by
  have hvalue := fun {word} (hword : word ∈ Shape.nodeKeywords) =>
    Entries.value_erase_word (ne_of_keyword hkey hword) entries
  have hitems := Entries.get?_erase_word (ne_of_keyword hkey
    (by decide : "items" ∈ Shape.nodeKeywords)) entries
  rw [ofEntries, ofEntries, hvalue (by decide : "type" ∈ Shape.nodeKeywords),
    hvalue (by decide : "format" ∈ Shape.nodeKeywords)]
  split
  · split
    · rfl
    · split
      · split <;> split <;> grind
      · rfl
  · rfl

omit hkey in
theorem Shape.members_erase (entries : Entries Data) :
    members key true (Entries.erase entries (.text key)) = members key true entries := by
  induction entries with
  | nil => rfl
  | cons e rest ih =>
    obtain ⟨name, d⟩ := e
    unfold Entries.erase at ih ⊢
    rw [List.filter_cons]
    cases hname : name.same (.text key) with
    | true => simp [members, isDirectField, hname, ih]
    | false => simp [members, ih]

theorem Shape.ofNode_erase (entries : Entries Data) :
    ofNode key (Entries.erase entries (.text key)) = ofNode key entries := by
  have hvalue := fun {word} (hword : word ∈ Shape.nodeKeywords) =>
    Entries.value_erase_word (ne_of_keyword hkey hword) entries
  rw [ofNode, ofNode]
  simp only [hvalue (by decide : "required" ∈ Shape.nodeKeywords),
    hvalue (by decide : "type" ∈ Shape.nodeKeywords), members_erase,
    FieldType.ofEntries_erase hkey]
  have := hvalue (by decide : "properties" ∈ Shape.nodeKeywords)
  split <;> split <;> grind

private theorem add_erase (gathered : Composition.Gathered) (node : Data) :
    gathered.add (node.erase key) = gathered.add node := by
  cases node with
  | map entries =>
    have hvalue := fun {word} (hword : word ∈ Shape.nodeKeywords) =>
      Entries.value_erase_word (ne_of_keyword hkey hword) entries
    simp only [Data.erase, Composition.Gathered.add, Data.members, ok_bind,
      Composition.Gathered.propertiesOf, Composition.Gathered.requiredOf,
      hvalue (by decide : "properties" ∈ Shape.nodeKeywords),
      hvalue (by decide : "required" ∈ Shape.nodeKeywords)]
  | _ => rfl

theorem finish_erase (gathered : Composition.Gathered) (entries : Entries Data) :
    gathered.finish (Entries.erase entries (.text key)) =
      Entries.erase (gathered.finish entries) (.text key) := by
  have hput := fun {word} (hword : word ∈ Shape.nodeKeywords) (es : Entries Data) (d : Data) =>
    Entries.erase_put_other (Scalar.same_text_of_ne (ne_of_keyword hkey hword).symm) es d
  unfold Composition.Gathered.finish
  simp only [Entries.erase_comm entries (.text key),
    apply_ite (fun es => Entries.erase es (.text key)),
    hput (by decide : "properties" ∈ Shape.nodeKeywords),
    hput (by decide : "required" ∈ Shape.nodeKeywords)]

theorem isComposed_erase (node : Data) :
    Composition.isComposed (node.erase key) = Composition.isComposed node := by
  cases node with
  | map entries =>
    have hvalue := Entries.value_erase_word
      (ne_of_keyword hkey (by decide : "allOf" ∈ Shape.nodeKeywords)) entries
    simp only [Composition.isComposed, Data.erase, Data.value, hvalue]
  | _ => rfl

end Node

namespace Context

variable (ctx : Context)

/-- The context with the definitions stripped of their extension blocks, and without facets. -/
def stripped : Context :=
  { ctx with
    definitions := Entries.mapValues (Data.erase ctx.extensionKey) ctx.definitions
    extensions := {} }

@[simp] theorem extensionKey_stripped : ctx.stripped.extensionKey = ctx.extensionKey := rfl

variable {ctx} (hkey : ctx.extensionKey ∉ Shape.nodeKeywords)

theorem rawDefinition_stripped (name : Scalar) :
    ctx.stripped.rawDefinition name =
      (ctx.rawDefinition name).map (Data.erase ctx.extensionKey) := by
  simp only [rawDefinition, stripped, Entries.get?_mapValues]
  cases Entries.get? ctx.definitions name <;> rfl

theorem requireDefinition_stripped :
    ctx.stripped.requireDefinition = ctx.requireDefinition := by
  funext name
  rw [requireDefinition, requireDefinition, rawDefinition_stripped]
  cases ctx.rawDefinition name <;> rfl

section Merging

variable {lookup lookup' : Scalar → Except Fault Data}
  (hlookup : ∀ name, lookup' name = (lookup name).map (Data.erase ctx.extensionKey))

include hkey hlookup

private theorem gather_erase (fragments : List Data) (gathered : Composition.Gathered) :
    gather lookup' gathered fragments = gather lookup gathered fragments := by
  induction fragments generalizing gathered with
  | nil => rfl
  | cons fragment rest ih =>
    simp only [gather, ofExcept_eq, ih]
    cases Composition.source fragment with
    | error fault => simp only [error_bind]
    | ok source =>
      simp only [ok_bind]
      cases source with
      | inline node => rfl
      | named target =>
        simp only [nodeOf, hlookup]
        cases lookup (.text target) with
        | error fault => rfl
        | ok node => simp only [Except.map, ok_bind, add_erase hkey]

private theorem merge_erase (node : Data) :
    merge lookup' (node.erase ctx.extensionKey) =
      (merge lookup node).map fun entries => Entries.erase entries (.text ctx.extensionKey) := by
  simp only [merge, ofExcept_eq, Data.members_erase]
  cases node.members with
  | error misuse => simp only [Except.map, orMisuse_error, error_bind]
  | ok entries =>
    have hfragments : Composition.fragments (Entries.erase entries (.text ctx.extensionKey)) =
        Composition.fragments entries := by
      unfold Composition.fragments
      rw [Entries.value_erase_word
        (ne_of_keyword hkey (by decide : "allOf" ∈ Shape.nodeKeywords))]
    simp only [Except.map, orMisuse_ok, ok_bind, hfragments]
    cases Composition.fragments entries with
    | error misuse => simp only [orMisuse_error, error_bind]
    | ok fragments =>
      simp only [orMisuse_ok, ok_bind, gather_erase hkey hlookup]
      cases gather lookup .empty fragments with
      | error fault => simp only [error_bind]
      | ok gathered => simp only [ok_bind, finish_erase hkey, pure, Except.pure]

end Merging

include hkey

private theorem normalAt_stripped (depth : Nat) (name : Scalar) :
    ctx.stripped.normalAt depth name =
      (ctx.normalAt depth name).map (Data.erase ctx.extensionKey) := by
  induction depth generalizing name with
  | zero => rfl
  | succ depth ih =>
    simp only [normalAt, readDefinition, ofExcept_eq, rawDefinition_stripped]
    cases ctx.rawDefinition name with
    | error fault => simp only [Except.map, error_bind]
    | ok raw =>
      simp only [Except.map, ok_bind, isComposed_erase hkey, merge_erase hkey ih]
      split
      · cases merge (ctx.normalAt depth) raw with
        | error fault => rfl
        | ok entries => rfl
      · rfl

/-- A definition that is stripped of its block has the normal form that it had, without the
block. -/
theorem normalForm_stripped (name : Scalar) :
    ctx.stripped.normalForm name = (ctx.normalForm name).map (Data.erase ctx.extensionKey) := by
  have hlength : ctx.stripped.definitions.length = ctx.definitions.length := List.length_map _
  rw [normalForm, normalForm, hlength, normalAt_stripped hkey]

section Embedding

variable {lookup : Scalar → Except Fault Data} {resolve : Resolve (Except Fault)}
  {node : Data} (hplain : Composition.isComposed node = false)

include hplain

private theorem compileSetWith_erase (owner : Scalar) :
    ctx.compileSetWith lookup resolve owner (node.erase ctx.extensionKey) =
      ctx.compileSetWith lookup resolve owner node := by
  unfold compileSetWith
  rw [isComposed_erase hkey, hplain, if_neg Bool.false_ne_true, if_neg Bool.false_ne_true,
    Data.members_erase]
  cases node.members with
  | error misuse => simp only [Except.map, orMisuse_error, ofExcept_eq, error_bind]
  | ok entries => simp only [Except.map, orMisuse_ok, ofExcept_eq, ok_bind, Shape.ofNode_erase hkey]

private theorem compileTarget_erase (name field : Scalar) (many : Bool) :
    ctx.compileTarget lookup resolve name field many (node.erase ctx.extensionKey) =
      ctx.compileTarget lookup resolve name field many node := by
  have hset : ctx.compileSetWith lookup resolve name (node.erase ctx.extensionKey) =
      ctx.compileSetWith lookup resolve name node := compileSetWith_erase hkey hplain name
  unfold compileTarget
  rw [hset, Data.members_erase]
  cases node.members with
  | error misuse => simp only [Except.map, orMisuse_error, ofExcept_eq, error_bind]
  | ok entries =>
    have hvalue := fun {word} (hword : word ∈ Shape.nodeKeywords) =>
      Entries.value_erase_word (ne_of_keyword hkey hword) entries
    have hget := fun {word} (hword : word ∈ Shape.nodeKeywords) =>
      Entries.get?_erase_word (ne_of_keyword hkey hword) entries
    have hcontainer : isContainer (Entries.erase entries (.text ctx.extensionKey)) =
        isContainer entries := by
      simp only [isContainer, hvalue (by decide : "type" ∈ Shape.nodeKeywords), Entries.has,
        hget (by decide : "properties" ∈ Shape.nodeKeywords),
        hget (by decide : "allOf" ∈ Shape.nodeKeywords)]
    have htwice : Entries.erase (Entries.erase entries (.text ctx.extensionKey))
        (.text ctx.extensionKey) = Entries.erase entries (.text ctx.extensionKey) := by
      unfold Entries.erase
      rw [List.filter_filter]
      simp only [Bool.and_self]
    simp only [Except.map, orMisuse_ok, ofExcept_eq, ok_bind, hcontainer, htwice,
      hvalue (by decide : "type" ∈ Shape.nodeKeywords),
      hvalue (by decide : "items" ∈ Shape.nodeKeywords)]

end Embedding

omit hkey in
private theorem agrees_stripped : ctx.stripped.Agrees ctx fun _ _ => True where
  extensionKey := rfl
  isReserved _ := rfl
  override extension base many _ := by
    unfold override
    rw [requireDefinition_stripped]
    rfl

omit hkey in
private theorem resolution_stripped {embed embed' : Embed (Except Fault)} (h : embed = embed')
    (stack : List Scalar) : ctx.stripped.resolution embed stack = ctx.resolution embed' stack := by
  unfold resolution
  rw [requireDefinition_stripped, h]
  rfl

private theorem embedAt_stripped (depth : Nat) (stack : List Scalar) :
    ctx.stripped.embedAt depth stack = ctx.embedAt depth stack := by
  induction depth generalizing stack with
  | zero => rfl
  | succ depth ih =>
    funext field target many
    simp only [embedAt, normalForm_stripped hkey]
    cases hnode : ctx.normalForm (.text target) with
    | error fault => simp only [Except.map, error_bind]
    | ok node =>
      have hplain := isComposed_normalForm hnode
      let inner := stack ++ [Scalar.text target]
      have hres : ctx.stripped.resolution (ctx.stripped.embedAt depth inner) inner =
          ctx.resolution (ctx.embedAt depth inner) inner := resolution_stripped (ih inner) inner
      have hplain' := (isComposed_erase hkey node).trans hplain
      simp only [Except.map, ok_bind]
      rw [← compileTarget_erase hkey hplain, hres]
      exact agrees_stripped.compileTarget_eq (fun _ _ _ _ _ _ => rfl) hplain' (nodeReads_any _ _)
        _ field many

/-- References compile to the same after the definitions are stripped. -/
theorem meaning_stripped (stack : List Scalar) :
    ctx.stripped.meaning stack = ctx.meaning stack := by
  have hbound : ctx.stripped.referenceBound = ctx.referenceBound := by
    simp only [referenceBound, stripped, Entries.mapValues, List.length_map]
  unfold meaning
  rw [hbound]
  exact resolution_stripped (embedAt_stripped hkey _ stack) stack

theorem fieldsMeaning_stripped (stack : List Scalar) (name : Scalar) :
    ctx.stripped.fieldsMeaning stack name = ctx.fieldsMeaning stack name := by
  simp only [fieldsMeaning, normalForm_stripped hkey, meaning_stripped hkey]
  cases hnode : ctx.normalForm name with
  | error fault => simp only [Except.map, error_bind]
  | ok node =>
    have hplain := isComposed_normalForm hnode
    have hplain' := (isComposed_erase hkey node).trans hplain
    simp only [Except.map, ok_bind]
    rw [← compileSetWith_erase hkey hplain]
    exact agrees_stripped.compileSetWith_eq (fun _ _ _ _ _ _ => rfl) hplain' (nodeReads_any _ _)
      name

theorem compileAdditional_stripped (stack : List Scalar) (name : Scalar)
    (properties : Entries Data) :
    ctx.stripped.compileAdditional (ctx.stripped.meaning stack) name properties =
      ctx.compileAdditional (ctx.meaning stack) name properties := by
  rw [meaning_stripped hkey]
  exact agrees_stripped.compileAdditional_eq (fun _ _ _ _ _ _ => rfl) name properties
    fun _ _ _ _ => Shape.reads_any _

end Context

end StoreSchema
