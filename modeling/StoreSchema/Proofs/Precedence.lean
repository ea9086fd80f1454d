import StoreSchema.Proofs.Layering

/-!
What a definition is compiled with, of the blocks that bear on it.

Four layers bear on a definition: the block of the document, the `default` block and the named block
from beside the document, and the block of the definition itself, which a named one replaces. Main
statement of this module: a definition is compiled with the facets of the document, then those of
the `default` block, then those of its named or its own block, each laid on those before; and of the
blocks beside the document neither the order, nor the unknown names, nor laying them twice makes a
difference.
-/

set_option autoImplicit false

namespace StoreSchema

namespace Extensions

/-- The facets of extension blocks that are mappings. -/
def mappingFacets : List String :=
  ["schema-options", "additional-properties", "index"]

instance (d : Data) : Decidable (∃ entries, d = .map entries) :=
  match d with
  | .map entries => isTrue ⟨entries, rfl⟩
  | .scalar _ | .list _ | .pair _ _ _ | .set _ _ | .recurrence _ => isFalse (by rintro ⟨_, ⟨⟩⟩)

/-- The facets of a block that are mappings are so, or are not there. -/
def IsPlain (block : Data) : Prop :=
  ∀ facet ∈ mappingFacets, ∀ d ∈ Entries.get? block.entriesOf (.text facet),
    ∃ entries, d = .map entries

instance (block : Data) : Decidable (IsPlain block) :=
  inferInstanceAs (Decidable (∀ facet ∈ mappingFacets,
    ∀ d ∈ Entries.get? block.entriesOf (.text facet), ∃ entries, d = .map entries))

def layer (block : Data) (facet : String) : Entries Data :=
  (block.value facet).entriesOf

/-- A facet of a block, or that of the block under it if it is not there. -/
def ownOr (base block : Data) (facet : String) : Data :=
  (Entries.get? block.entriesOf (.text facet)).getD (base.value facet)

def indexOf (declared : Entries Data) : Option Index :=
  let fields := Entries.erase declared (.text "unique")
  if fields.isEmpty then none
  else some ⟨Value.ofEntries fields, (Entries.value declared "unique").isTruthy⟩

theorem isPlain_null : IsPlain .null := by
  decide

section Plain

variable {base block d : Data} {facet : String}

theorem IsPlain.of_get? (h : IsPlain block) (hfacet : facet ∈ mappingFacets)
    (hget : Entries.get? block.entriesOf (.text facet) = some d) :
    ∃ entries, d = .map entries ∧ layer block facet = entries := by
  obtain ⟨entries, rfl⟩ := h facet hfacet d hget
  refine ⟨entries, rfl, ?_⟩
  rw [layer, ← Data.value_entriesOf, Entries.value, hget]
  rfl

private theorem layer_of_get?_none (h : Entries.get? block.entriesOf (.text facet) = none) :
    layer block facet = [] := by
  rw [layer, ← Data.value_entriesOf, Entries.value, h]
  rfl

theorem IsPlain.getD_of_givenEntries (h : IsPlain block) (hfacet : facet ∈ mappingFacets)
    {entries : Option (Entries Data)} (hgiven : givenEntries (block.value facet) = .ok entries) :
    entries.getD [] = layer block facet := by
  rw [← Data.value_entriesOf, Entries.value] at hgiven
  cases hget : Entries.get? block.entriesOf (.text facet) with
  | none =>
    rw [hget] at hgiven
    cases hgiven
    exact (layer_of_get?_none hget).symm
  | some d =>
    obtain ⟨own, rfl, hlayer⟩ := h.of_get? hfacet hget
    rw [hget, Option.getD_some, givenEntries] at hgiven
    rw [hlayer]
    split at hgiven
    · cases hgiven
      rfl
    · next hfalsy =>
      cases hgiven
      exact (Data.eq_nil_of_falsy (Bool.eq_false_iff.mpr hfalsy)).symm

theorem layer_laidOn (hbase : IsPlain base) (hblock : IsPlain block)
    (hdistinct : block.Throughout Entries.DistinctKeys) (hfacet : facet ∈ mappingFacets) :
    layer (laidOn base block) facet = Entries.overlay (layer base facet) (layer block facet) := by
  have hentries := Data.throughout_entriesOf hdistinct
  have hlayer : Entries.DistinctKeys (layer block facet) :=
    (Data.throughout_entriesOf (hdistinct.throughout_value facet)).1
  unfold laidOn
  split
  · rw [layer, Data.value, Entries.value, get?_mergeOn hentries.1]
    cases habove : Entries.get? block.entriesOf (.text facet) with
    | none =>
      rw [layer_of_get?_none habove, layer, ← Data.value_entriesOf base, Entries.value]
      rfl
    | some above =>
      obtain ⟨upper, rfl, hupper⟩ := hblock.of_get? hfacet habove
      rw [hupper] at hlayer ⊢
      cases hbelow : Entries.get? base.entriesOf (.text facet) with
      | none =>
        rw [layer_of_get?_none hbelow, Entries.overlay_nil hlayer]
        rfl
      | some below =>
        obtain ⟨lower, rfl, hlower⟩ := hbase.of_get? hfacet hbelow
        rw [hlower]
        rfl
  · next hfalsy =>
    have hnone : layer base facet = [] := by
      rw [layer, Data.value_of_falsy (Bool.eq_false_iff.mpr hfalsy)]
      rfl
    rw [hnone, Entries.overlay_nil hlayer]

theorem isPlain_laidOn (hbase : IsPlain base) (hblock : IsPlain block)
    (hdistinct : block.Throughout Entries.DistinctKeys) : IsPlain (laidOn base block) := by
  intro facet hfacet d hget
  unfold laidOn at hget
  split at hget
  · rw [Data.entriesOf, get?_mergeOn (Data.throughout_entriesOf hdistinct).1] at hget
    split at hget
    · next above habove =>
      obtain ⟨upper, rfl⟩ := hblock facet hfacet above habove
      cases hget
      unfold mergeFacet
      split <;> exact ⟨_, rfl⟩
    · exact hbase facet hfacet d hget
  · exact hblock facet hfacet d hget

private theorem overlay_eq_nil {α : Type} {es upper : Entries α}
    (h : Entries.overlay es upper = []) : upper = [] := by
  cases upper with
  | nil => rfl
  | cons e rest =>
    have hget := Entries.get?_overlay es (e :: rest) e.1
    rw [h, List.reverse_cons, Entries.get?_append, Entries.get?_cons, Scalar.same_refl] at hget
    cases hrest : Entries.get? rest.reverse e.1 <;> rw [hrest] at hget <;> cases hget

private theorem mergeFacet_of_falsy {below : Option Data} {above : Data}
    (h : (mergeFacet below above).isTruthy = false) : mergeFacet below above = above := by
  unfold mergeFacet at h ⊢
  split
  · next lower upper =>
    dsimp only at h
    have hnil := Data.eq_nil_of_falsy h
    rw [hnil, overlay_eq_nil hnil]
  · rfl

theorem value_laidOn_of_falsy (hdistinct : block.Throughout Entries.DistinctKeys)
    (h : ((laidOn base block).value facet).isTruthy = false) :
    (laidOn base block).value facet = ownOr base block facet := by
  unfold laidOn at h ⊢
  unfold ownOr
  split at h
  · next htruthy =>
    rw [if_pos htruthy]
    rw [Data.value, Entries.value, get?_mergeOn (Data.throughout_entriesOf hdistinct).1] at h ⊢
    cases hget : Entries.get? block.entriesOf (.text facet) with
    | none => rw [← Data.value_entriesOf base, Entries.value]; rfl
    | some above =>
      rw [hget] at h
      exact mergeFacet_of_falsy h
  · next hfalsy =>
    rw [if_neg hfalsy, Data.value_of_falsy (Bool.eq_false_iff.mpr hfalsy) facet,
      ← Data.value_entriesOf block, Entries.value]

/-- A facet of three blocks, each laid on those before. -/
def layered (facet : String) (global base block : Data) : Entries Data :=
  Entries.overlay (Entries.overlay (layer global facet) (layer base facet)) (layer block facet)

theorem overlay_layer_laidOn (hbase : IsPlain base) (hblock : IsPlain block)
    (hdbase : base.Throughout Entries.DistinctKeys)
    (hdblock : block.Throughout Entries.DistinctKeys) (hfacet : facet ∈ mappingFacets)
    (global : Data) : Entries.overlay (layer global facet) (layer (laidOn base block) facet) =
      layered facet global base block := by
  have hlayer : Entries.DistinctKeys (layer base facet) :=
    (Data.throughout_entriesOf (hdbase.throughout_value facet)).1
  rw [layer_laidOn hbase hblock hdblock hfacet, Entries.overlay_assoc hlayer, layered]

end Plain

variable {x : Extensions} {name : Scalar}

theorem eq_indexOf {index : Option Index} (h : x.indexFor name = .ok index) :
    index = indexOf ((Entries.get? x.indexes name).getD []) := by
  unfold indexFor at h
  unfold indexOf
  dsimp only at h ⊢
  split at h
  · next hempty =>
    cases h
    rw [if_pos hempty]
  · next hfields =>
    rw [if_neg hfields]
    unfold Index.make at h
    split at h
    · split at h
      · cases h
      · cases h
        rfl
    · cases h

theorem isTruthy_excluded (h : x.isExcluded name = false) :
    ((Entries.get? x.excluded name).getD .null).isTruthy = false := by
  unfold isExcluded at h
  split at h
  · cases h
  · next hfalsy => exact Bool.eq_false_iff.mpr hfalsy

private theorem isTruthy_of_given {facet : Data}
    (h : ((given facet).getD .null).isTruthy = false) : facet.isTruthy = false := by
  unfold given at h
  split at h
  · exact h
  · next hfalsy => exact Bool.eq_false_iff.mpr hfalsy

end Extensions

namespace Context

open Extensions

variable {ctx : Context} {c : Compiled} {global base block : Data}

variable (ctx) in
/-- A definition is compiled with the facets of the document, then those of the `default` block,
then those of a block of its own, each laid on those before; its exclusion is that of its block, or
else that of the `default` block. -/
structure Layered (global base block : Data) (c : Compiled) : Prop where
  options : c.options = Extensions.layered "schema-options" global base block
  properties : ∃ fields added, ctx.fieldsMeaning [] c.name = .ok fields ∧
    ctx.compileAdditional (ctx.meaning []) c.name
      (Extensions.layered "additional-properties" global base block) = .ok added ∧
    c.properties = addFields fields added
  index : c.index = indexOf (Entries.overlay (layer base "index") (layer block "index"))
  exclusion : Entries.get? ctx.extensions.excluded c.name =
    given (ownOr base block "exclude-schema")

/-- What is gathered for a definition from a block that is laid on another comes in layers. -/
theorem Assembles.layered {fields : Value} {added : Entries Value} {whole own : Facets}
    (h : ctx.Assembles [] c fields added) (hgathers : ctx.extensions.GathersFor c.name whole own)
    (hwhole : whole.Of false global) (hown : own.Of true (laidOn base block))
    (hglobal : IsPlain global) (hbase : IsPlain base) (hblock : IsPlain block)
    (hdbase : base.Throughout Entries.DistinctKeys)
    (hdblock : block.Throughout Entries.DistinctKeys) : ctx.Layered global base block c := by
  have hlaid := isPlain_laidOn hbase hblock hdblock
  have hoverlay := fun {facet : String} (hfacet : facet ∈ mappingFacets) =>
    overlay_layer_laidOn hbase hblock hdbase hdblock hfacet global
  refine ⟨?_, ⟨fields, added, h.own, ?_, h.properties⟩, ?_, ?_⟩
  · rw [h.options, hgathers.options, hglobal.getD_of_givenEntries (by decide) hwhole.options,
      hlaid.getD_of_givenEntries (by decide) hown.options, hoverlay (by decide)]
  · rw [← hoverlay (by decide), ← hglobal.getD_of_givenEntries (by decide) hwhole.additional,
      ← hlaid.getD_of_givenEntries (by decide) hown.additional, ← hgathers.additional]
    exact h.additional
  · have hindex : givenEntries ((laidOn base block).value "index") = .ok own.index := hown.index
    rw [eq_indexOf h.index, hgathers.index, hlaid.getD_of_givenEntries (by decide) hindex,
      layer_laidOn hbase hblock hdblock (by decide)]
  · have hfalsy := isTruthy_excluded h.included
    rw [hgathers.excluded, hown.excluded] at hfalsy ⊢
    rw [value_laidOn_of_falsy hdblock (isTruthy_of_given hfalsy)]

end Context

namespace Document

variable {key : String} {document declared extra laid : Entries Data}

def declaredOf (document : Entries Data) : Entries Data :=
  (definitionsOf document).toOption.getD []

/-- The extension block of a document of which the definitions have blocks laid on them. -/
def blockWith (key : String) (document laid : Entries Data) : Data :=
  Entries.value (withDefinitions document laid) key

/-- The blocks beside a document for which there is a definition, and the `default` block. -/
def known (definitions extra : Entries Data) : Entries Data :=
  extra.filter fun e => e.1.same (.text "default") || Entries.has definitions e.1

theorem blockWith_of_ne (hkey : key ≠ "definitions") (document laid : Entries Data) :
    blockWith key document laid = Entries.value document key := by
  unfold blockWith withDefinitions
  split
  · exact Entries.value_put_other hkey document _
  · rfl

theorem layExtra_known (key : String) (definitions extra : Entries Data) :
    layExtra key definitions (.map (known definitions extra)) =
      layExtra key definitions (.map extra) := by
  have hdefault : Entries.value (known definitions extra) "default" =
      Entries.value extra "default" := by
    have hkept : ∀ k : Scalar, k.same (.text "default") = true →
        (k.same (.text "default") || Entries.has definitions k) = true := by
      intro k hk
      rw [hk, Bool.true_or]
    exact congrArg (Option.getD · Data.null) (Entries.get?_filter hkept extra)
  have hnamed : Entries.erase (known definitions extra) (.text "default") =
      (Entries.erase extra (.text "default")).filter fun e => Entries.has definitions e.1 := by
    unfold known Entries.erase
    rw [List.filter_filter, List.filter_filter]
    refine List.filter_congr fun e _ => ?_
    cases e.1.same (.text "default") <;> simp
  have hunknown : ∀ name, Entries.has definitions name = false →
      Entries.get? definitions name = none := by
    intro name hname
    simpa [Entries.has] using hname
  rw [layExtra_map, layExtra_map, hdefault, hnamed, layNamed_filter hunknown]

/-- The order of the blocks does not matter. -/
theorem layExtra_perm {extra' : Entries Data} (hdeclared : Entries.DistinctKeys declared)
    (hextra : Entries.DistinctKeys extra) (hperm : extra.Perm extra') :
    layExtra key declared (.map extra') = layExtra key declared (.map extra) := by
  have hdefault : Entries.value extra' "default" = Entries.value extra "default" := by
    unfold Entries.value
    rw [Entries.get?_perm hextra hperm]
  have hothers : (Entries.erase extra (.text "default")).Perm
      (Entries.erase extra' (.text "default")) := hperm.filter _
  rw [layExtra_map, layExtra_map, hdefault, layNamed_perm hdeclared (hextra.erase _) hothers]

theorem isPlain_blockWith {named : Entries Data} {base : Data}
    (hdeclared : definitionsOf document = .ok declared) (hkeys : Entries.DistinctKeys declared)
    (hplain : Extensions.IsPlain (Entries.value document key))
    (hlaid : laid = declared.map fun e => (e.1, layOwn key named base e.1 e.2)) :
    Extensions.IsPlain (blockWith key document laid) := by
  by_cases hkey : key = "definitions"
  · -- The block of the document is the definitions themselves.
    subst hkey
    unfold blockWith withDefinitions
    split
    · next htruthy =>
      rw [value_of_definitionsOf hdeclared htruthy] at hplain
      intro facet hfacet d hget
      rw [Entries.value, Entries.get?_put_same] at hget
      obtain ⟨k, hmem, hk⟩ := Entries.exists_mem_of_get? hget
      rw [hlaid] at hmem
      obtain ⟨e, he, hsame⟩ := List.mem_map.mp hmem
      cases hsame
      refine exists_map_layOwn (hplain facet hfacet e.2 ?_)
      rw [Data.entriesOf, ← Entries.get?_same hk]
      exact Entries.get?_of_mem hkeys he
    · exact hplain
  · rw [blockWith_of_ne hkey]
    exact hplain

theorem declaredOf_eq (hdeclared : definitionsOf document = .ok declared) :
    declaredOf document = declared := by
  rw [declaredOf, hdeclared]
  rfl

theorem throughout_declaredOf (h : (Data.map document).Throughout Entries.DistinctKeys) :
    (Data.map (declaredOf document)).Throughout Entries.DistinctKeys := by
  have hvalue := Data.throughout_value h.values "definitions"
  have hempty : (Data.map []).Throughout Entries.DistinctKeys := ⟨List.Pairwise.nil, trivial⟩
  unfold declaredOf definitionsOf
  split
  · next hmap =>
    rw [hmap] at hvalue
    exact hvalue
  · split <;> exact hempty

end Document

namespace Session

open Extensions Document

variable {session : Session} {source extraSource : Source} {document extra : Entries Data}
  {key : String}

theorem outcome_congr {blocks blocks' : Data} {extraSource' : Source}
    (hdecode : decode source = .ok document) (hsharing : source.sharing = none)
    (hextra : decodeExtra extraSource = .ok blocks)
    (hextra' : decodeExtra extraSource' = .ok blocks')
    (hkey : session.extensionKeyOf document = .ok key)
    (hlaid : layExtra key (declaredOf document) blocks' =
      layExtra key (declaredOf document) blocks) :
    (session.compileDefinitions source extraSource').outcome =
      (session.compileDefinitions source extraSource).outcome := by
  rw [outcome_compileDefinitions_eq, outcome_compileDefinitions_eq, contextOf_eq, contextOf_eq,
    hdecode, hextra, hextra', hsharing]
  simp only [ok_bind]
  cases hdeclared : definitionsOf document with
  | error fault => rfl
  | ok declared =>
    rw [declaredOf_eq hdeclared] at hlaid
    cases hversion : (detectVersion document).outcome with
    | error fault => rfl
    | ok version =>
      rw [extensionKeyOf, hversion] at hkey
      cases hkey
      simp only [ok_bind, layOn]
      have hsame : layExtra (Context.extensionKey
          { definitions := declared, settings := session.settings.compiler, version,
            validators := session.validators }) declared blocks' =
          layExtra (Context.extensionKey
          { definitions := declared, settings := session.settings.compiler, version,
            validators := session.validators }) declared blocks := hlaid
      rw [hsame]

section Layers

variable (hdocument : (Data.map document).Throughout Entries.DistinctKeys)
  (hdistinct : (Data.map extra).Throughout Entries.DistinctKeys)
  (hblocks : ∀ e ∈ extra, ∃ block, e.2 = .map block)

include hdocument hdistinct hblocks

private theorem layered_of_mem {ctx : Context} {declared : Entries Data} {compiled : List Compiled}
    (hdeclared : definitionsOf document = .ok declared)
    (hlaid : layExtra ctx.extensionKey declared (.map extra) = .ok ctx.definitions)
    (hgathered : (gatherExtensions ctx.extensionKey
      (blockWith ctx.extensionKey document ctx.definitions) ctx.definitions).run.run {} =
        (.ok (), ctx.extensions))
    (hglobal : IsPlain (Entries.value document ctx.extensionKey))
    (hown : ∀ e ∈ declared, IsPlain (e.2.value ctx.extensionKey))
    (hbeside : ∀ e ∈ extra, IsPlain e.2) (hall : ctx.compileAll = .ok compiled) {c : Compiled}
    (hc : c ∈ compiled) :
    ∃ definition, Entries.get? declared c.name = some definition ∧
      ctx.Layered (blockWith ctx.extensionKey document ctx.definitions)
        (Entries.value extra "default")
        (blockOf ctx.extensionKey (namedOf extra) c.name definition) c := by
  have hdefinitions := throughout_declaredOf hdocument
  rw [declaredOf_eq hdeclared] at hdefinitions
  have hmap := eq_map_of_layExtra hdefinitions hdistinct hblocks hlaid
  have hkeys : Entries.DistinctKeys ctx.definitions := by
    unfold Entries.DistinctKeys
    rw [keys_layExtra hlaid]
    exact hdefinitions.1
  obtain ⟨whole, owns, hwhole, howns, hextensions⟩ := leads_gatherExtensions.mp hgathered
  rw [Context.compileAll_eq] at hall
  obtain ⟨name, hname, hmeaning⟩ := Context.exists_of_mem_compileEach hall hc
  obtain ⟨rfl, fields, added, hassembles⟩ := Context.exists_of_definitionMeaning hmeaning
  -- The definition as it was declared, and as it is with the blocks laid on it.
  obtain ⟨e, he, hsame⟩ := List.mem_map.mp hname
  have hmem := he
  rw [hmap] at hmem
  obtain ⟨⟨_, definition⟩, hmember, rfl⟩ := List.mem_map.mp hmem
  obtain rfl : _ = c.name := hsame
  have hnamed := exists_map_of_layExtra hdefinitions hdistinct hlaid hmember
  obtain ⟨own, hof, hgathers⟩ := howns.gathersFor hkeys whole (Entries.get?_of_mem hkeys he)
  rw [value_layOwn hnamed] at hof
  rw [← hextensions] at hgathers
  have hblock : IsPlain (blockOf ctx.extensionKey (namedOf extra) c.name definition) :=
    of_blockOf hbeside (hown _ hmember)
  have hbase : IsPlain (Entries.value extra "default") :=
    Entries.of_value hbeside isPlain_null "default"
  exact ⟨definition, Entries.get?_of_mem hdefinitions.1 hmember,
    hassembles.layered hgathers hwhole hof
      (isPlain_blockWith hdeclared hdefinitions.1 hglobal hmap) hbase hblock
      (Data.throughout_value hdistinct.values "default")
      (throughout_blockOf hdefinitions hdistinct hmember)⟩

private theorem applyExtra_applyExtra :
    ((applyExtra (declaredOf document) (.map extra) key).outcome >>= fun laid =>
      (applyExtra laid (.map extra) key).outcome) =
        (applyExtra (declaredOf document) (.map extra) key).outcome := by
  simp only [(gives_applyExtra _ _ _).outcome]
  cases hlaid : layExtra key (declaredOf document) (.map extra) with
  | error fault => rfl
  | ok laid =>
    exact layExtra_layExtra (throughout_declaredOf hdocument) hdistinct hblocks hlaid

end Layers

/-- The layers of a document and of the blocks beside it: each definition is compiled with the
facets of the document, of the `default` block and of a block of its own; blocks that no definition
has the name of make no difference, nor does the order of the blocks, nor laying them twice. -/
theorem layers_compileDefinitions (hdecode : decode source = .ok document)
    (hsharing : source.sharing = none) (hextra : decodeExtra extraSource = .ok (.map extra))
    (hkey : session.extensionKeyOf document = .ok key)
    (hdocument : (Data.map document).Throughout Entries.DistinctKeys)
    (hdistinct : (Data.map extra).Throughout Entries.DistinctKeys)
    (hblocks : ∀ e ∈ extra, ∃ block, e.2 = .map block)
    (hglobal : IsPlain (Entries.value document key))
    (hown : ∀ e ∈ declaredOf document, IsPlain (e.2.value key))
    (hbeside : ∀ e ∈ extra, IsPlain e.2) :
    (∀ compiled, (session.compileDefinitions source extraSource).outcome = .ok compiled →
      ∃ ctx, session.contextOf source extraSource = .ok ctx ∧
        ∀ c ∈ compiled, ∃ definition,
          Entries.get? (declaredOf document) c.name = some definition ∧
          ctx.Layered (blockWith key document ctx.definitions) (Entries.value extra "default")
            (blockOf key (namedOf extra) c.name definition) c) ∧
    (session.compileDefinitions source
      (.data (.map (known (declaredOf document) extra)))).outcome =
        (session.compileDefinitions source extraSource).outcome ∧
    (∀ extra' : Entries Data, extra.Perm extra' →
      (session.compileDefinitions source (.data (.map extra'))).outcome =
        (session.compileDefinitions source extraSource).outcome) ∧
    ((applyExtra (declaredOf document) (.map extra) key).outcome >>= fun laid =>
      (applyExtra laid (.map extra) key).outcome) =
        (applyExtra (declaredOf document) (.map extra) key).outcome := by
  refine ⟨fun compiled hcompiled => ?_, ?_, fun extra' hperm => ?_, ?_⟩
  · obtain ⟨ctx, hctx, hall⟩ := exists_contextOf hcompiled
    have hbuilds := (contextOf_eq_ok_iff_buildsWith hdecode hsharing hextra).mp hctx
    obtain ⟨declared, hdeclared, hlaid⟩ := hbuilds.definitions
    obtain rfl : ctx.extensionKey = key :=
      extensionKey_of_version hkey hbuilds.version hbuilds.settings
    obtain rfl : declaredOf document = declared := declaredOf_eq hdeclared
    exact ⟨ctx, hctx, fun c hc => layered_of_mem hdocument hdistinct hblocks hdeclared hlaid
      hbuilds.extensions hglobal hown hbeside hall hc⟩
  · exact outcome_congr hdecode hsharing hextra rfl hkey (layExtra_known key _ extra)
  · exact outcome_congr hdecode hsharing hextra rfl hkey
      (layExtra_perm (throughout_declaredOf hdocument).1 hdistinct.1 hperm)
  · exact applyExtra_applyExtra hdocument hdistinct hblocks

end Session

section Shop

/-- An order whose block gives a collection; the document gives another one and a flag. -/
def shop : Entries Data :=
  [(.text "swagger", .int 2),
    (.text "x-swagger-mongoose", .map [(.text "schema-options",
      .map [(.text "strict", .bool true), (.text "collection", .text "all")])]),
    (.text "definitions", .map [(.text "Order", .map (order
      [(.text "schema-options", .map [(.text "collection", .text "orders")])]))])]
where
  order (block : Entries Data) : Entries Data :=
    [(.text "properties", .map [(.text "number", .map [(.text "type", .text "string")])]),
      (.text "x-swagger-mongoose", .map block)]

/-- Blocks beside the shop: one for all, one for orders, and one for what the shop does not have. -/
def shopExtra : Entries Data :=
  [(.text "default", .map [(.text "schema-options", .map [(.text "collection", .text "things")]),
      (.text "index", .map [(.text "number", .int 1)])]),
    (.text "Order", .map [(.text "index", .map [(.text "unique", .bool true)])]),
    (.text "Parcel", .map [(.text "exclude-schema", .bool true)])]

def laidShop : Context where
  definitions := [(.text "Order", .map (shop.order
    [(.text "schema-options", .map [(.text "collection", .text "things")]),
      (.text "index", .map [(.text "number", .int 1), (.text "unique", .bool true)])]))]
  version := Number.Binary64.ofInt? 2
  extensions :=
    { options := [(.text "Order", [(.text "collection", .text "things")])]
      indexes := [(.text "Order", [(.text "number", .int 1), (.text "unique", .bool true)])]
      globalOptions := [(.text "strict", .bool true), (.text "collection", .text "all")] }

private theorem contextOf_laidShop :
    ({} : Session).contextOf (.data (.map shop)) (.data (.map shopExtra)) = .ok laidShop :=
  rfl

private theorem ofNode_order (block : Entries Data) :
    Shape.ofNode "x-swagger-mongoose" (shop.order block) =
      .fields .null [(.text "number", .typed (.ok (.scalar .text)) none)] :=
  Shape.ofNode_of_property rfl (Shape.ofProperty_string (by decide))

private theorem compileDefinitions_shop :
    (({} : Session).compileDefinitions (.data (.map shop)) (.data (.map shopExtra))).outcome = .ok
      [{ name := .text "Order"
         properties := .embedded [(.text "number", .map [(.text "type", .type .text)])]
         options := [(.text "strict", .bool true), (.text "collection", .text "things")]
         index := some ⟨[(.text "number", .scalar (.int 1))], true⟩ }] := by
  have horder : laidShop.fieldsMeaning [] (.text "Order") =
      .ok (.embedded [(.text "number", .map [(.text "type", .type .text)])]) := by
    have hkey : laidShop.extensionKey = "x-swagger-mongoose" := rfl
    rw [@Context.fieldsMeaning_map laidShop _ (shop.order _) rfl, hkey, ofNode_order]
    rfl
  have hmeaning := Context.definitionMeaning_of_fields rfl rfl rfl horder
  have hkeys : Entries.keys laidShop.definitions = [.text "Order"] := rfl
  rw [Session.outcome_compileDefinitions contextOf_laidShop, Context.compileAll_eq, hkeys,
    Context.compileEach, hmeaning]
  rfl

/-- Orders are compiled with the options of the shop under those for all, and with an index of which
the two blocks beside the shop each give a part. -/
theorem shop_layers :
    ∃ c : Compiled, (({} : Session).compileDefinitions (.data (.map shop))
        (.data (.map shopExtra))).outcome = .ok [c] ∧
      c.index = some ⟨[(.text "number", .scalar (.int 1))], true⟩ ∧
      ∃ ctx, ({} : Session).contextOf (.data (.map shop)) (.data (.map shopExtra)) = .ok ctx ∧
        ∃ definition, Entries.get? (Document.declaredOf shop) c.name = some definition ∧
          ctx.Layered
            (Document.blockWith "x-swagger-mongoose" shop ctx.definitions)
            (Entries.value shopExtra "default")
            (Document.blockOf "x-swagger-mongoose" (Document.namedOf shopExtra) c.name definition)
            c := by
  have hkey : ({} : Session).extensionKeyOf shop = .ok "x-swagger-mongoose" := rfl
  have hdocument : (Data.map shop).Throughout Entries.DistinctKeys := by
    simp only [shop, shop.order, Data.Throughout, Data.ThroughoutEntries]
    decide
  have hextra : (Data.map shopExtra).Throughout Entries.DistinctKeys := by
    simp only [shopExtra, Data.Throughout, Data.ThroughoutEntries]
    decide
  have hlayers := @Session.layers_compileDefinitions {} (.data (.map shop))
    (.data (.map shopExtra)) _ _ _ rfl rfl rfl hkey hdocument hextra (by decide) (by decide)
    (by decide) (by decide)
  obtain ⟨ctx, hctx, hcompiled⟩ := hlayers.1 _ compileDefinitions_shop
  exact ⟨_, compileDefinitions_shop, rfl, ctx, hctx, hcompiled _ (List.mem_singleton.mpr rfl)⟩

end Shop

section Twins

/-- Two definitions that are one mapping. -/
def twins : Source :=
  .file (.map [(.text "definitions", .map [(.text "A", .map twin), (.text "B", .map twin)])])
    [[[0, 0], [0, 1]]]
where
  twin : Entries Data := [(.text "type", .text "string")]

/-- Each of the two is given a collection of its own. -/
def twinsExtra : Entries Data :=
  [(.text "A", .map (collection "a")), (.text "B", .map (collection "b"))]
where
  collection (name : String) : Entries Data :=
    [(.text "schema-options", .map [(.text "collection", .text name)])]

/-- The context of the two with the blocks beside them: the last one written is in both. -/
def laidTwins : Context where
  definitions := [(.text "A", .map laid), (.text "B", .map laid)]
  extensions := { options := [(.text "A", options), (.text "B", options)] }
where
  laid : Entries Data := twins.twin ++ [(.text "_mongoose", .map (twinsExtra.collection "b"))]
  options : Entries Data := [(.text "collection", .text "b")]

private theorem contextOf_laidTwins :
    ({} : Session).contextOf twins (.data (.map twinsExtra)) = .ok laidTwins :=
  rfl

/-- Where two definitions are one mapping, the first one is not compiled with the options that its
own block gives. -/
theorem twins_not_layered :
    ∃ first second : Compiled,
      (({} : Session).compileDefinitions twins (.data (.map twinsExtra))).outcome =
        .ok [first, second] ∧
      first.name = .text "A" ∧ Entries.get? twinsExtra first.name =
        some (.map (twinsExtra.collection "a")) ∧
      first.options ≠ Extensions.layered "schema-options" .null .null
        (.map (twinsExtra.collection "a")) := by
  have hfields : ∀ name, name = .text "A" ∨ name = .text "B" →
      laidTwins.fieldsMeaning [] name = .ok (.map [(.text "type", .type .text)]) := by
    have htext : FieldType.ofEntries laidTwins.laid = .ok (.scalar .text) := by
      rw [FieldType.ofEntries]
      rfl
    rintro name (rfl | rfl)
    all_goals
      rw [@Context.fieldsMeaning_map laidTwins _ laidTwins.laid rfl,
        Shape.ofNode_of_typed _ rfl rfl rfl, htext]
      rfl
  have hkeys : Entries.keys laidTwins.definitions = [.text "A", .text "B"] := rfl
  refine ⟨⟨.text "A", .map [(.text "type", .type .text)], laidTwins.options, none⟩,
    ⟨.text "B", .map [(.text "type", .type .text)], laidTwins.options, none⟩, ?_, rfl, rfl, ?_⟩
  · rw [Session.outcome_compileDefinitions contextOf_laidTwins, Context.compileAll_eq]
    simp only [hkeys, Context.compileEach, Context.definitionMeaning,
      Context.compileDefinitionWith, hfields _ (Or.inl rfl), hfields _ (Or.inr rfl)]
    rfl
  · intro h
    have hcollection : Data.text "b" = .text "a" := congrArg (Entries.value · "collection") h
    simp at hcollection

end Twins

end StoreSchema
