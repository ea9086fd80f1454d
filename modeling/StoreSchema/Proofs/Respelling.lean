import StoreSchema.Proofs.FieldNames
import StoreSchema.Proofs.Locality
import StoreSchema.Proofs.Spelling
import StoreSchema.Proofs.Shorthand

set_option autoImplicit false

namespace StoreSchema

namespace Context

variable (ctx : Context)

/-- A composition refers to the definition. -/
def IsComposedInto (target : String) : Prop :=
  ∃ name entries fragments fragment, ctx.rawDefinition name = .ok (.map entries) ∧
    Composition.fragments entries = .ok fragments ∧ fragment ∈ fragments ∧
    Composition.source fragment = .ok (.named target)

/-- Every reference that compiling the definitions meets stands under a field and leads to a
definition as given, whichever definitions are embedded on the way. -/
structure Covers (met : (field : Scalar) → (target : String) → Prop) : Prop where
  fields : ∀ {name node entries}, ctx.normalForm name = .ok node → node.members = .ok entries →
    ctx.Meets (fun _ => met) name name (Shape.ofNode ctx.extensionKey entries)
  items : ∀ {target node entries}, ctx.normalForm (.text target) = .ok node →
    node.members = .ok entries → (Entries.value entries "type").isText "array" = true →
      ctx.isReserved (.text target) = false →
        ctx.Meets (fun _ => met) (.text target) (.text target)
          (Shape.ofProperty ctx.extensionKey (Entries.value entries "items"))
  property : ∀ {field target node entries}, met field target →
    ctx.normalForm (.text target) = .ok node → node.members = .ok entries →
      isContainer entries = false →
        ctx.Meets (fun _ => met) (.text target) field (Shape.ofProperty ctx.extensionKey
          (.map (Entries.erase entries (.text ctx.extensionKey))))

/-- Inside a definition a reference is cut off under its own name as under that of a field. -/
def CutAlike (field : Scalar) (target inner : String) : Prop :=
  (field = .text inner ↔ target = inner) ∨ ctx.settings.detectCycles = true ∧ target = inner

/-- Nothing that reads the definition tells it in shorthand from what it is written out as: no
composition refers to it, unless it has no fields, and where a field refers to it the references in
it are cut off alike under either name. -/
structure Indifferent (met : Scalar → String → Prop) (name : Scalar) (entries : Entries Data) :
    Prop where
  parts : ∀ target, name = .text target → ctx.IsComposedInto target →
    Shape.directFields ctx.extensionKey entries = []
  owners : ∀ field target, name = .text target → met field target →
    ∀ e ∈ Shape.members ctx.extensionKey true entries, ctx.isReserved e.1 = false →
      ∀ inner, e.2.target? = some inner → ctx.CutAlike field target inner

def redefined (definitions : Entries Data) : Context := { ctx with definitions }

end Context

/-- Definitions that are the same, compile to the same, or are one in shorthand and what it is
written out as. -/
inductive DefinitionLike (key : String) (apart : Entries Data → Prop) : Data → Data → Prop
  | same (d : Data) : DefinitionLike key apart d d
  | changed {es es' : Entries Data} (h : NodeLike key es es') :
      DefinitionLike key apart (.map es) (.map es')
  | writtenOut {es : Entries Data} (h : Shape.IsShorthand key es) (hapart : apart es) :
      DefinitionLike key apart (.map es) (.map (Shape.writtenOut key es))

namespace DefinitionLike

variable {key : String} {apart : Entries Data → Prop} {node node' : Data}

theorem isComposed_eq (h : DefinitionLike key apart node node') :
    Composition.isComposed node = Composition.isComposed node' := by
  cases h with
  | same _ => rfl
  | changed hnode => exact hnode.isComposed_eq
  | writtenOut hshorthand _ => rw [hshorthand.isComposed_eq, Shape.isComposed_writtenOut]

theorem mono {apart' : Entries Data → Prop} (h : DefinitionLike key apart node node')
    (happly : ∀ entries, apart entries → apart' entries) :
    DefinitionLike key apart' node node' := by
  cases h with
  | same _ => exact .same _
  | changed hnode => exact .changed hnode
  | writtenOut hshorthand hapart => exact .writtenOut hshorthand (happly _ hapart)

end DefinitionLike

namespace Context

/-- Definitions under the same names, in order, that compile to the same or are indifferent. -/
structure RespelledAs (ctx : Context) (met : Scalar → String → Prop)
    (definitions' : Entries Data) : Prop where
  distinct : ∀ e ∈ ctx.definitions, ∀ entries, e.2 = .map entries → Entries.DistinctKeys entries
  covers : ctx.Covers met
  definitions : List.Forall₂ (fun e e' => e.1 = e'.1 ∧
    DefinitionLike ctx.extensionKey (ctx.Indifferent met e.1) e.2 e'.2) ctx.definitions definitions'

variable {ctx : Context} {met : Scalar → String → Prop} {definitions' : Entries Data}

theorem covers_any : ctx.Covers fun _ _ => True where
  fields _ _ := meets_any _ _ _ _
  items _ _ _ _ := meets_any _ _ _ _
  property _ _ _ _ := meets_any _ _ _ _

private theorem Indifferent.of_same {k name : Scalar} {entries : Entries Data}
    (h : ctx.Indifferent met k entries) (hk : k.same name = true) :
    ctx.Indifferent met name entries := by
  have hnamed : ∀ target, name = .text target → k = .text target := by
    rintro target rfl
    exact Scalar.same_text.mp hk
  constructor
  · exact fun target htarget => h.parts target (hnamed target htarget)
  · exact fun field target htarget => h.owners field target (hnamed target htarget)

section Resolving

variable {lookup : Scalar → Except Fault Data} {resolve resolve' : Resolve (Except Fault)}
  (hresolve : ∀ owner field target many, met field target → ctx.isReserved field = false →
    resolve owner field target many = resolve' owner field target many)

include hresolve

private theorem compileNode_meets {owner field : Scalar} {shape : Shape}
    (hshape : ctx.Meets (fun _ => met) field owner shape) :
    ctx.compileNode resolve owner shape = ctx.compileNode resolve' owner shape := by
  cases shape with
  | fields required members =>
    have hsame := compileMembers_meets (fun owner => hresolve owner) owner required members hshape
    simp only [compileNode, hsame]
  | _ => rfl

private theorem compileSetWith_meets (hcovers : ctx.Covers met) {name : Scalar} {node : Data}
    (hnode : ctx.normalForm name = .ok node) :
    ctx.compileSetWith lookup resolve name node = ctx.compileSetWith lookup resolve' name node := by
  unfold compileSetWith
  rw [isComposed_normalForm hnode, if_neg Bool.false_ne_true]
  cases hentries : node.members with
  | error misuse => simp only [orMisuse_error, ofExcept_eq, error_bind]
  | ok entries =>
    simp only [orMisuse_ok, ofExcept_eq, ok_bind]
    exact compileNode_meets hresolve (hcovers.fields hnode hentries)

private theorem compilePropertyWith_meets {owner field : Scalar} {property : Data}
    (hproperty : ctx.isReserved field = false →
      ctx.Meets (fun _ => met) owner field (Shape.ofProperty ctx.extensionKey property))
    (required : Data) :
    ctx.compilePropertyWith resolve property field required owner =
      ctx.compilePropertyWith resolve' property field required owner := by
  unfold compilePropertyWith
  cases hfield : ctx.isReserved field with
  | true => rfl
  | false =>
    exact compileShape_meets (fun owner => hresolve owner) owner field required hfield _
      (hproperty hfield)

private theorem compileTarget_meets (hcovers : ctx.Covers met) {field : Scalar}
    {target : String} (hmet : met field target) {node : Data}
    (hnode : ctx.normalForm (.text target) = .ok node) (many : Bool) :
    ctx.compileTarget lookup resolve (.text target) field many node =
      ctx.compileTarget lookup resolve' (.text target) field many node := by
  unfold compileTarget
  cases hentries : node.members with
  | error misuse => simp only [orMisuse_error, ofExcept_eq, error_bind]
  | ok entries =>
    simp only [orMisuse_ok, ofExcept_eq, ok_bind]
    split
    · split
      · next harray =>
        have hdeclared : ctx.isReserved (.text target) = false →
            ctx.Meets (fun _ => met) (.text target) (.text target)
              (Shape.ofProperty ctx.extensionKey (if (Entries.value entries "items").isTruthy then
                Entries.value entries "items" else .map [])) := by
          intro hopen
          split
          · exact hcovers.items hnode hentries harray hopen
          · rw [Shape.ofProperty_empty]
            trivial
        rw [compilePropertyWith_meets hresolve hdeclared]
      · rw [compileSetWith_meets hresolve hcovers hnode]
    · next hsimple =>
      rw [compilePropertyWith_meets hresolve fun _ =>
        hcovers.property hmet hnode hentries (Bool.eq_false_iff.mpr hsimple)]

end Resolving

section Definitions

private theorem partLike_of_fragment {target : String} {node node' : Data}
    (hlike : DefinitionLike ctx.extensionKey (ctx.Indifferent met (.text target)) node node')
    (hfragment : ctx.IsComposedInto target) : PartLike ctx.extensionKey node node' := by
  cases hlike with
  | same _ => exact .same _
  | changed hnode => exact .changed hnode.fragmentLike
  | writtenOut hshorthand hapart =>
    exact .changed (hshorthand.fragmentLike (hapart.parts target rfl hfragment))

variable (h : ctx.RespelledAs met definitions')

include h

private theorem RespelledAs.rawDefinition_like (name : Scalar) :
    (∃ fault, ctx.rawDefinition name = .error fault ∧
        (ctx.redefined definitions').rawDefinition name = .error fault) ∨
      ∃ raw raw', ctx.rawDefinition name = .ok raw ∧
        (ctx.redefined definitions').rawDefinition name = .ok raw' ∧
        (∀ entries, raw = .map entries → Entries.DistinctKeys entries) ∧
        DefinitionLike ctx.extensionKey (ctx.Indifferent met name) raw raw' := by
  rcases Entries.get?_of_forall₂ (fun _ _ => And.left) h.definitions name with
    ⟨hnone, hnone'⟩ | ⟨k, raw, raw', hk, ⟨-, hlike⟩, hraw, hraw'⟩
  · refine Or.inl ⟨.unresolvedReference name, ?_, ?_⟩
    · rw [rawDefinition, hnone]
    · rw [rawDefinition, redefined, hnone']
  · obtain ⟨_, hmem, -⟩ := Entries.exists_mem_of_get? hraw
    refine Or.inr ⟨raw, raw', ?_, ?_, h.distinct _ hmem,
      hlike.mono fun _ hapart => hapart.of_same hk⟩
    · rw [rawDefinition, hraw]
    · rw [rawDefinition, redefined, hraw']

private theorem RespelledAs.requireDefinition (name : Scalar) :
    ctx.requireDefinition name = (ctx.redefined definitions').requireDefinition name := by
  rcases h.rawDefinition_like name with ⟨fault, hraw, hraw'⟩ | ⟨raw, raw', hraw, hraw', -⟩
  · rw [Context.requireDefinition, Context.requireDefinition, hraw, hraw']
  · rw [Context.requireDefinition, Context.requireDefinition, hraw, hraw']
    rfl

omit h in
private theorem merged_like {depth : Nat}
    (hbelow : ∀ name, BothYield (DefinitionLike ctx.extensionKey (ctx.Indifferent met name))
      (ctx.normalAt depth name) ((ctx.redefined definitions').normalAt depth name))
    {name : Scalar} {es es' : Entries Data} (hraw : ctx.rawDefinition name = .ok (.map es))
    (hnode : NodeLike ctx.extensionKey es es') :
    BothYield (DefinitionLike ctx.extensionKey (ctx.Indifferent met name))
      (do
        let entries ← merge (ctx.normalAt depth) (.map es)
        pure (Data.map entries))
      (do
        let entries ← merge ((ctx.redefined definitions').normalAt depth) (.map es')
        pure (Data.map entries)) := by
  refine (merge_like hnode fun fragments hfragments fragment hmem target hsource => ?_).bind
    fun merged merged' hmerged => .value (.changed hmerged)
  exact (hbelow (.text target)).mono fun node node' hlike =>
    partLike_of_fragment hlike ⟨name, es, fragments, fragment, hraw, hfragments, hmem, hsource⟩

private theorem RespelledAs.normalAt_like (depth : Nat) : ∀ name : Scalar,
    BothYield (DefinitionLike ctx.extensionKey (ctx.Indifferent met name))
      (ctx.normalAt depth name) ((ctx.redefined definitions').normalAt depth name) := by
  induction depth with
  | zero => exact fun _ => .fault Fault.endless
  | succ depth ih =>
    intro name
    rcases h.rawDefinition_like name with
      ⟨fault, hraw, hraw'⟩ | ⟨raw, raw', hraw, hraw', hdistinct, hlike⟩
    · rw [normalAt, normalAt, readDefinition_of_unregistered hraw,
        readDefinition_of_unregistered hraw']
      exact .fault fault
    · rw [normalAt, normalAt, readDefinition_of_raw hraw, readDefinition_of_raw hraw']
      cases hlike with
      | same raw =>
        cases hcomposed : Composition.isComposed raw with
        | false => exact .value (.same raw)
        | true =>
          cases raw with
          | map entries => exact merged_like ih hraw (.refl (hdistinct entries rfl))
          | _ => cases hcomposed
      | changed hnode =>
        rw [← hnode.isComposed_eq]
        cases Composition.isComposed _ with
        | false => exact .value (.changed hnode)
        | true => exact merged_like ih hraw hnode
      | writtenOut hshorthand hapart =>
        rw [hshorthand.isComposed_eq, Shape.isComposed_writtenOut]
        exact .value (.writtenOut hshorthand hapart)

private theorem RespelledAs.length_eq :
    (ctx.redefined definitions').definitions.length = ctx.definitions.length :=
  h.definitions.length_eq.symm

private theorem RespelledAs.normalForm_like (name : Scalar) :
    BothYield (DefinitionLike ctx.extensionKey (ctx.Indifferent met name))
      (ctx.normalForm name) ((ctx.redefined definitions').normalForm name) := by
  unfold Context.normalForm
  rw [h.length_eq]
  exact h.normalAt_like (ctx.definitions.length + 1) name

end Definitions

section Owners

variable {key : String} {entries : Entries Data}

private theorem refused?_withDefaultOf (shape : Shape) :
    (Shape.withDefaultOf entries shape).refused? = shape.refused? := by
  rw [Shape.withDefaultOf]
  split <;> rfl

private theorem refused?_ofNode : (Shape.ofNode key entries).refused? = none := by
  rcases Shape.ofNode_cases key entries with ⟨members, hnode⟩ | ⟨type, hnode⟩ | hnode | hnode
  all_goals
    rw [hnode]
    rfl

private theorem refused?_ofProperty {d : Data} (h : d.isMap = true) :
    (Shape.ofProperty key d).refused? = none := by
  cases d with
  | map entries =>
    rw [Shape.ofProperty_map, refused?_withDefaultOf]
    cases Form.ofEntries key entries with
    | embedded => exact refused?_ofNode
    | _ => rfl
  | recurrence isMap =>
    obtain rfl : isMap = true := h
    rw [Shape.ofProperty]
    rfl
  | _ => cases h

private theorem refused?_of_direct : ∀ e ∈ Shape.members key true entries, e.2.refused? = none := by
  rw [← Shape.members_directFields, Shape.members_all]
  intro e he
  obtain ⟨direct, hdirect, rfl⟩ := List.mem_map.mp he
  have hmap := (List.mem_filter.mp hdirect).2
  unfold Shape.isDirectField at hmap
  exact refused?_ofProperty (by simp only [Bool.and_eq_true] at hmap; exact hmap.1.1)

private theorem erase_of_shorthand (h : Shape.IsShorthand key entries) :
    Entries.erase entries (.text key) = entries := by
  have hnone : Entries.get? entries (.text key) = none := h.get? List.mem_cons_self
  rw [Entries.get?_eq_find?, Option.map_eq_none_iff, List.find?_eq_none] at hnone
  refine List.filter_eq_self.mpr fun e he => ?_
  rw [Bool.eq_false_iff.mpr (hnone e he), Bool.not_false]

private theorem isContainer_of_shorthand (h : Shape.IsShorthand key entries) :
    isContainer entries = false := by
  have htype : Entries.value entries "type" = .null := h.value (by simp)
  simp only [isContainer, htype, h "properties" (by simp), h "allOf" (by simp), Bool.or_self]

private theorem isContainer_writtenOut : isContainer (Shape.writtenOut key entries) = true := by
  have htype : Entries.value (Shape.writtenOut key entries) "type" = .null :=
    Shape.value_writtenOut (by decide) (by decide)
  have hhas : Entries.has (Shape.writtenOut key entries) (.text "properties") = true := by
    rw [Entries.has, Shape.writtenOut, Entries.get?_cons, if_pos (Scalar.same_refl _)]
    rfl
  simp only [isContainer, htype, hhas, Bool.true_or]

variable {lookup : Scalar → Except Fault Data} {resolve : Resolve (Except Fault)}
  {name field : Scalar}

private theorem compileMembers_direct
    (howner : ∀ e ∈ Shape.members key true entries, ctx.isReserved e.1 = false →
      ∀ inner many, e.2.target? = some inner →
        resolve field e.1 inner many = resolve name e.1 inner many) (required : Data) :
    ctx.compileMembers resolve field required (Shape.members key true entries) =
      ctx.compileMembers resolve name required (Shape.members key true entries) := by
  refine compileMembers_owner sequential_eq (fun _ => rfl) required (fun e he value hvalue => ?_)
    fun e he hname target many htarget => howner e he hname target many htarget
  rw [refused?_of_direct e he] at hvalue
  cases hvalue

/-- A definition in shorthand is embedded as its fields, with the name of the field as their
owner. -/
theorem compileTarget_of_shorthand (h : Shape.IsShorthand ctx.extensionKey entries)
    (hopen : ctx.isReserved field = false) (many : Bool) :
    ctx.compileTarget lookup resolve name field many (.map entries) = (do
      let fields ← ctx.compileMembers resolve field (Entries.value entries "required")
        (Shape.members ctx.extensionKey true entries)
      pure (some ((Value.embedded fields).manyOf many))) := by
  rw [compileTarget_map, isContainer_of_shorthand h, if_neg Bool.false_ne_true,
    erase_of_shorthand h]
  simp only [compilePropertyWith, hopen, Bool.false_eq_true, if_false, h.ofProperty_eq,
    h.ofNode_eq, compileShape]
  cases ctx.compileMembers resolve field (Entries.value entries "required")
    (Shape.members ctx.extensionKey true entries) with
  | error fault => rfl
  | ok fields => cases many <;> rfl

/-- Written out it is embedded as its fields, with its own name as their owner. -/
theorem compileTarget_of_writtenOut (h : Shape.IsShorthand ctx.extensionKey entries)
    (many : Bool) :
    ctx.compileTarget lookup resolve name field many
        (.map (Shape.writtenOut ctx.extensionKey entries)) = (do
      let fields ← ctx.compileMembers resolve name (Entries.value entries "required")
        (Shape.members ctx.extensionKey true entries)
      pure (some ((Value.embedded fields).manyOf many))) := by
  have htype : Entries.value (Shape.writtenOut ctx.extensionKey entries) "type" = .null :=
    Shape.value_writtenOut (by decide) (by decide)
  rw [compileTarget_map, isContainer_writtenOut, if_pos rfl, htype, if_neg (by decide),
    compileSetWith_map Shape.isComposed_writtenOut, Shape.ofNode_writtenOut h, h.ofNode_eq]
  simp only [compileNode]
  cases ctx.compileMembers resolve name (Entries.value entries "required")
    (Shape.members ctx.extensionKey true entries) <;> rfl

private theorem resolution_cutAlike {embed : Embed (Except Fault)} {stack : List Scalar}
    {field : Scalar} {target inner : String} (hstack : .text target ∈ stack)
    (hcut : ctx.CutAlike field target inner) (under : Scalar) (many : Bool) :
    ctx.resolution embed stack field under inner many =
      ctx.resolution embed stack (.text target) under inner many := by
  have hself : ctx.isSelfReference field inner stack =
      ctx.isSelfReference (.text target) inner stack := by
    unfold isSelfReference
    rcases hcut with hiff | ⟨hguard, rfl⟩
    · have hsame : field.same (.text inner) = (Scalar.text target).same (.text inner) := by
        rw [Bool.eq_iff_iff, Scalar.same_text, Scalar.same_text, hiff, Scalar.text.injEq]
      rw [hsame]
    · -- With the guard on a reference back to the definition itself is cut off in either case.
      have hresolving : (stack.any fun name => name.same (.text target)) = true :=
        List.any_eq_true.mpr ⟨_, hstack, Scalar.same_refl _⟩
      rw [hguard, hresolving, Bool.and_self, Bool.or_true, Bool.or_true]
  simp only [resolution, hself]

end Owners

section Run

/-- A node compiles to the same as another one, as the definition of a name and for the fields that
refer to it, if a reference that is cut off alike comes to the same under the name of the field and
under that of the definition. -/
structure MeansAs (ctx : Context) (met : Scalar → String → Prop) (name : Scalar)
    (node node' : Data) : Prop where
  plain : Composition.isComposed node' = false
  fields : ∀ (lookup : Scalar → Except Fault Data) (resolve : Resolve (Except Fault)),
    ctx.compileSetWith lookup resolve name node = ctx.compileSetWith lookup resolve name node'
  target : ∀ (lookup : Scalar → Except Fault Data) (resolve : Resolve (Except Fault))
    (field : Scalar) (target : String) (many : Bool), name = .text target → met field target →
      ctx.isReserved field = false →
        (∀ inner, ctx.CutAlike field target inner → ∀ under many,
          resolve field under inner many = resolve (.text target) under inner many) →
            ctx.compileTarget lookup resolve name field many node =
              ctx.compileTarget lookup resolve name field many node'

/-- Other definitions under the same names, of which the normal forms compile to the same. -/
structure Redefines (ctx : Context) (met : Scalar → String → Prop)
    (definitions' : Entries Data) : Prop where
  covers : ctx.Covers met
  keys : Entries.keys ctx.definitions = Entries.keys definitions'
  requireDefinition : ∀ name,
    ctx.requireDefinition name = (ctx.redefined definitions').requireDefinition name
  normalForm : ∀ name, BothYield (ctx.MeansAs met name) (ctx.normalForm name)
    ((ctx.redefined definitions').normalForm name)

private theorem DefinitionLike.meansAs {name : Scalar} {node node' : Data}
    (hlike : DefinitionLike ctx.extensionKey (ctx.Indifferent met name) node node')
    (hplain : Composition.isComposed node = false) : ctx.MeansAs met name node node' where
  plain := hlike.isComposed_eq.symm.trans hplain
  fields lookup resolve := by
    cases hlike with
    | same _ => rfl
    | changed hnode => exact hnode.compileSetWith_eq hplain name
    | writtenOut hshorthand _ =>
      rw [compileSetWith_map hplain, compileSetWith_map Shape.isComposed_writtenOut,
        Shape.ofNode_writtenOut hshorthand]
  target lookup resolve field target many hname hmet hopen howner := by
    cases hlike with
    | same _ => rfl
    | changed hnode => exact hnode.compileTarget_eq hplain _ field many
    | writtenOut hshorthand hapart =>
      subst hname
      rw [compileTarget_of_shorthand hshorthand hopen, compileTarget_of_writtenOut hshorthand]
      rw [compileMembers_direct fun e he hname inner many htarget =>
        howner inner (hapart.owners field target rfl hmet e he hname inner htarget) e.1 many]

private theorem RespelledAs.redefines (h : ctx.RespelledAs met definitions') :
    ctx.Redefines met definitions' where
  covers := h.covers
  keys := Entries.keys_of_forall₂ (fun _ _ => And.left) h.definitions
  requireDefinition := h.requireDefinition
  normalForm name := by
    rcases (h.normalForm_like name).outcomes with
      ⟨fault, hfault, hfault'⟩ | ⟨node, node', hnode, hnode', hlike⟩
    · rw [hfault, hfault']
      exact .fault fault
    · rw [hnode, hnode']
      exact .value (DefinitionLike.meansAs hlike (isComposed_normalForm hnode))

namespace Redefines

variable (h : ctx.Redefines met definitions')

include h

theorem agrees : ctx.Agrees (ctx.redefined definitions') fun _ _ => True where
  extensionKey := rfl
  isReserved _ := rfl
  override extension base many _ := by
    have hmatch : ctx.Matches (ctx.redefined definitions') .null := by constructor <;> rfl
    have hrequire : ∀ target, (fun _ : String => True) target →
        ctx.requireDefinition (.text target) =
          (ctx.redefined definitions').requireDefinition (.text target) :=
      fun target _ => h.requireDefinition (.text target)
    exact hmatch.override hrequire ⟨fun _ _ => trivial, fun _ _ => trivial⟩ many

private theorem resolution_eq {embed embed' : Embed (Except Fault)} (stack : List Scalar)
    (hembed : ∀ field target many, met field target → ctx.isReserved field = false →
      embed field target many = embed' field target many)
    (owner field : Scalar) (target : String) (many : Bool) (hmet : met field target)
    (hopen : ctx.isReserved field = false) :
    ctx.resolution embed stack owner field target many =
      (ctx.redefined definitions').resolution embed' stack owner field target many := by
  have hself : (ctx.redefined definitions').isSelfReference = ctx.isSelfReference := rfl
  simp only [resolution, h.requireDefinition, hself, hembed field target many hmet hopen]

private theorem embedAt_eq (depth : Nat) :
    ∀ (stack : List Scalar) (field : Scalar) (target : String) (many : Bool), met field target →
      ctx.isReserved field = false → ctx.embedAt depth stack field target many =
        (ctx.redefined definitions').embedAt depth stack field target many := by
  induction depth with
  | zero => exact fun _ _ _ _ _ _ => rfl
  | succ depth ih =>
    intro stack field target many hmet hopen
    simp only [embedAt]
    rcases (h.normalForm (.text target)).outcomes with
      ⟨fault, hfault, hfault'⟩ | ⟨node, node', hnode, hnode', hmeans⟩
    · rw [hfault, hfault', error_bind, error_bind]
    · rw [hnode, hnode', ok_bind, ok_bind]
      let inner := stack ++ [Scalar.text target]
      let resolve := ctx.resolution (ctx.embedAt depth inner) inner
      let resolve' := (ctx.redefined definitions').resolution
        ((ctx.redefined definitions').embedAt depth inner) inner
      have hresolve : ∀ owner field target many, met field target →
          ctx.isReserved field = false →
            resolve owner field target many = resolve' owner field target many :=
        h.resolution_eq inner (ih inner)
      have howner : ∀ other, ctx.CutAlike field target other → ∀ under many,
          resolve' field under other many = resolve' (.text target) under other many :=
        fun other hcut => resolution_cutAlike (by simp [inner]) hcut
      calc ctx.compileTarget ctx.normalForm resolve (.text target) field many node
          = ctx.compileTarget ctx.normalForm resolve' (.text target) field many node :=
            compileTarget_meets hresolve h.covers hmet hnode many
        _ = ctx.compileTarget ctx.normalForm resolve' (.text target) field many node' :=
            hmeans.target _ resolve' field target many rfl hmet hopen howner
        _ = (ctx.redefined definitions').compileTarget
              (ctx.redefined definitions').normalForm resolve' (.text target) field many node' :=
            h.agrees.compileTarget_eq (fun _ _ _ _ _ _ => rfl) hmeans.plain (nodeReads_any _ _)
              _ _ _

theorem meaning_eq (stack : List Scalar) (owner field : Scalar) (target : String) (many : Bool)
    (hmet : met field target) (hopen : ctx.isReserved field = false) :
    ctx.meaning stack owner field target many =
      (ctx.redefined definitions').meaning stack owner field target many := by
  have hlength : (ctx.redefined definitions').definitions.length = ctx.definitions.length := by
    have hkeys := congrArg List.length h.keys
    unfold Entries.keys at hkeys
    rw [List.length_map, List.length_map] at hkeys
    exact hkeys.symm
  unfold meaning referenceBound
  rw [hlength]
  exact h.resolution_eq stack (h.embedAt_eq ctx.referenceBound stack) owner field target many hmet
    hopen

private theorem fieldsMeaning_eq (name : Scalar) :
    ctx.fieldsMeaning [] name = (ctx.redefined definitions').fieldsMeaning [] name := by
  simp only [fieldsMeaning]
  rcases (h.normalForm name).outcomes with
    ⟨fault, hfault, hfault'⟩ | ⟨node, node', hnode, hnode', hmeans⟩
  · rw [hfault, hfault', error_bind, error_bind]
  · rw [hnode, hnode', ok_bind, ok_bind]
    calc ctx.compileSetWith ctx.normalForm (ctx.meaning ([] ++ [name])) name node
        = ctx.compileSetWith ctx.normalForm
            ((ctx.redefined definitions').meaning ([] ++ [name])) name node :=
          compileSetWith_meets (h.meaning_eq _) h.covers hnode
      _ = ctx.compileSetWith ctx.normalForm
            ((ctx.redefined definitions').meaning ([] ++ [name])) name node' :=
          hmeans.fields _ _
      _ = (ctx.redefined definitions').compileSetWith (ctx.redefined definitions').normalForm
            ((ctx.redefined definitions').meaning ([] ++ [name])) name node' :=
          h.agrees.compileSetWith_eq (fun _ _ _ _ _ _ => rfl) hmeans.plain (nodeReads_any _ _) name

/-- A context compiles to the same with other definitions that compile to the same, if its
additional properties do. -/
theorem compileAll_eq
    (hadded : ∀ name, ctx.compileAdditional (ctx.meaning []) name
        (ctx.extensions.additionalFor name) =
      (ctx.redefined definitions').compileAdditional ((ctx.redefined definitions').meaning []) name
        (ctx.extensions.additionalFor name)) :
    (ctx.redefined definitions').compileAll = ctx.compileAll := by
  have hmeaning : (ctx.redefined definitions').definitionMeaning [] =
      ctx.definitionMeaning [] := by
    funext name
    simp only [definitionMeaning, compileDefinitionWith, hadded, ← h.fieldsMeaning_eq]
    rfl
  have hkeys : Entries.keys (ctx.redefined definitions').definitions =
      Entries.keys ctx.definitions := h.keys.symm
  rw [Context.compileAll_eq, Context.compileAll_eq, hmeaning, hkeys]

end Redefines

/-- Contexts without additional properties whose definitions compile to the same or are not read
apart compile to the same. -/
theorem RespelledAs.compileAll_eq (h : ctx.RespelledAs met definitions')
    (hadded : ∀ name, ctx.extensions.additionalFor name = []) :
    (ctx.redefined definitions').compileAll = ctx.compileAll := by
  refine h.redefines.compileAll_eq fun name => ?_
  simp only [hadded, compileAdditional]

end Run

/-- Definitions of which one has a node inside it written out, or is written out itself where
nothing reads it apart. -/
theorem exists_respelledAs {name : Scalar} {before after entries entries' : Entries Data}
    (hdefinitions : ctx.definitions = before ++ (name, .map entries) :: after)
    (hdistinct : (Data.map (before ++ (name, .map entries) :: after)).Throughout
      Entries.DistinctKeys)
    (hblocks : (Data.map (before ++ (name, .map entries) :: after)).Throughout
      (Data.Unblocked ctx.extensionKey))
    (hblocks' : (Data.map (before ++ (name, .map entries') :: after)).Throughout
      (Data.Unblocked ctx.extensionKey))
    (h : Respelled ctx.extensionKey .definition entries entries' ∨
      Shape.IsShorthand ctx.extensionKey entries ∧
        entries' = Shape.writtenOut ctx.extensionKey entries ∧
        ∃ met, ctx.Covers met ∧ ctx.Indifferent met name entries) :
    ∃ met, ctx.RespelledAs met (before ++ (name, .map entries') :: after) := by
  have hplain : ∀ e ∈ ctx.definitions, ∀ own, e.2 = .map own → Entries.DistinctKeys own := by
    intro e he own hmap
    rw [hdefinitions] at he
    have hown := hdistinct.values e he
    rw [hmap] at hown
    exact hown.1
  rcases h with hinside | ⟨hshorthand, rfl, met, hcovers, hindifferent⟩
  · have hnode := (hinside.like hdistinct.entry hblocks.entry hblocks'.entry).2 rfl
    refine ⟨fun _ _ => True, hplain, covers_any, ?_⟩
    rw [hdefinitions]
    exact forall₂_replaced (fun e => ⟨rfl, .same e.2⟩) ⟨rfl, .changed hnode⟩ before after
  · refine ⟨met, hplain, hcovers, ?_⟩
    rw [hdefinitions]
    exact forall₂_replaced (fun e => ⟨rfl, .same e.2⟩)
      ⟨rfl, .writtenOut hshorthand hindifferent⟩ before after

end Context

end StoreSchema
