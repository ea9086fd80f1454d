import StoreSchema.Proofs.Facets
import StoreSchema.Proofs.Throughout

set_option autoImplicit false

namespace StoreSchema

theorem Data.throughout_entriesOf {d : Data} (h : d.Throughout Entries.DistinctKeys) :
    (Data.map d.entriesOf).Throughout Entries.DistinctKeys := by
  cases d with
  | map entries => exact h
  | _ => exact ⟨List.Pairwise.nil, trivial⟩

/-- A block laid on another one, unless that is falsy. -/
def Extensions.laidOn (base block : Data) : Data :=
  if base.isTruthy then .map (mergeOn base.entriesOf block.entriesOf) else block

namespace Document

/-- The extension block of a definition, unless a block of its name stands beside the document. -/
def blockOf (key : String) (named : Entries Data) (name : Scalar) (definition : Data) : Data :=
  (Entries.get? named name).getD (definition.value key)

/-- A definition with the named block, if there is one, in place of its own, and with the `default`
block, unless that is falsy, laid under it. -/
def layOwn (key : String) (named : Entries Data) (base : Data) (name : Scalar) (definition : Data) :
    Data :=
  if base.isTruthy then underlay key base.entriesOf (replaceOwn key named name definition)
  else replaceOwn key named name definition

section Own

variable {key : String} {named : Entries Data} {base definition : Data} {name : Scalar}
  (hreplaced : (Entries.get? named name).isSome = true → ∃ entries, definition = .map entries)

include hreplaced

private theorem value_replaceOwn :
    (replaceOwn key named name definition).value key = blockOf key named name definition := by
  unfold replaceOwn blockOf
  cases hnamed : Entries.get? named name with
  | none => rfl
  | some block =>
    obtain ⟨entries, rfl⟩ := hreplaced (by rw [hnamed]; rfl)
    simp only [putBlock, Data.value, Entries.value, Entries.get?_put_same, Option.getD_some]

theorem value_layOwn : (layOwn key named base name definition).value key =
    Extensions.laidOn base (blockOf key named name definition) := by
  unfold layOwn Extensions.laidOn
  split
  · simp only [underlay, Data.value, Entries.value, Entries.get?_put_same, Option.getD_some]
    rw [← value_replaceOwn hreplaced]
    rfl
  · exact value_replaceOwn hreplaced

omit hreplaced in
private theorem underlay_underlay (hbase : base.Throughout Entries.DistinctKeys)
    (hblock : Entries.DistinctKeys (definition.value key).entriesOf) :
    underlay key base.entriesOf (underlay key base.entriesOf definition) =
      underlay key base.entriesOf definition := by
  have hentries := Data.throughout_entriesOf hbase
  have hfacets : ∀ facet inner, Entries.get? base.entriesOf facet = some (.map inner) →
      Entries.DistinctKeys inner := by
    intro facet inner hget
    have hinner : (Data.map inner).Throughout Entries.DistinctKeys :=
      Entries.of_get? hentries.values hget
    exact hinner.1
  have hmerged := Extensions.mergeOn_mergeOn hentries.1 hblock hfacets
  simp only [underlay, Data.value, Entries.value, Entries.get?_put_same, Option.getD_some,
    Data.entriesOf] at hmerged ⊢
  rw [hmerged, Entries.put_put_same (Scalar.same_refl _)]

private theorem replaceOwn_layOwn {block : Data} (hnamed : Entries.get? named name = some block) :
    replaceOwn key named name (layOwn key named base name definition) =
      replaceOwn key named name definition := by
  obtain ⟨entries, rfl⟩ := hreplaced (by rw [hnamed]; rfl)
  simp only [layOwn, replaceOwn, hnamed, putBlock]
  cases base.isTruthy with
  | true =>
    simp only [if_true, underlay, Data.entriesOf, Entries.put_put_same (Scalar.same_refl _)]
  | false =>
    simp only [Bool.false_eq_true, if_false, Entries.put_put_same (Scalar.same_refl _)]

theorem layOwn_layOwn (hbase : base.Throughout Entries.DistinctKeys)
    (hblock : Entries.DistinctKeys (blockOf key named name definition).entriesOf) :
    layOwn key named base name (layOwn key named base name definition) =
      layOwn key named base name definition := by
  cases hnamed : Entries.get? named name with
  | some block => rw [layOwn, replaceOwn_layOwn hreplaced hnamed, ← layOwn]
  | none =>
    have hown : ∀ d, replaceOwn key named name d = d := by
      intro d
      rw [replaceOwn, hnamed]
    rw [← value_replaceOwn hreplaced, hown] at hblock
    simp only [layOwn, hown]
    split
    · exact underlay_underlay hbase hblock
    · rfl

private theorem layUnder_layOwn {entries : Entries Data}
    (htruthy : (Data.map entries).isTruthy = true)
    (hbase : (Data.map entries).Throughout Entries.DistinctKeys)
    (hnamed : ∀ block, Entries.get? named name = some block → ∃ facets, block = .map facets)
    (hblock : Entries.DistinctKeys (blockOf key named name definition).entriesOf) :
    layUnder key (.map entries)
        (replaceOwn key named name (layOwn key named (.map entries) name definition)) =
      .ok (layOwn key named (.map entries) name definition) := by
  have hagain := layOwn_layOwn hreplaced hbase hblock
  have hlaid : ∀ d, layOwn key named (.map entries) name d =
      underlay key entries (replaceOwn key named name d) := by
    intro d
    rw [layOwn, if_pos htruthy]
    rfl
  rw [hlaid (layOwn key named (.map entries) name definition)] at hagain
  refine Eq.trans ?_ (congrArg Except.ok hagain)
  cases hname : Entries.get? named name with
  | some block =>
    obtain ⟨facets, rfl⟩ := hnamed block hname
    have hown : blockOf key named name definition = .map facets := by
      rw [blockOf, hname]
      rfl
    obtain ⟨own, rfl⟩ := hreplaced (by rw [hname]; rfl)
    rw [replaceOwn_layOwn hreplaced hname]
    rw [hown] at hblock
    have hmap : replaceOwn key named name (.map own) =
        .map (Entries.put own (.text key) (.map facets)) := by
      rw [replaceOwn, hname]
      rfl
    exact layUnder_eq_ok ⟨_, hmap⟩ ((value_replaceOwn hreplaced).trans hown) hblock
  | none =>
    have hown : ∀ d, replaceOwn key named name d = d := by
      intro d
      rw [replaceOwn, hname]
    have hvalue : (layOwn key named (.map entries) name definition).value key =
        .map (Extensions.mergeOn entries (blockOf key named name definition).entriesOf) := by
      rw [value_layOwn hreplaced, Extensions.laidOn, if_pos htruthy]
      rfl
    rw [hown]
    exact layUnder_eq_ok ⟨_, hlaid definition⟩ hvalue (hbase.1.overlay _)

omit hreplaced in
theorem exists_map_layOwn (hmap : ∃ entries, definition = .map entries) :
    ∃ entries, layOwn key named base name definition = .map entries := by
  obtain ⟨entries, rfl⟩ := hmap
  unfold layOwn
  split
  · exact ⟨_, rfl⟩
  · unfold replaceOwn
    split
    · exact ⟨_, rfl⟩
    · exact ⟨_, rfl⟩

end Own

section Laid

variable {key : String} {definitions extra laid : Entries Data}

def namedOf (extra : Entries Data) : Entries Data :=
  Entries.erase extra (.text "default")

variable (hdefinitions : (Data.map definitions).Throughout Entries.DistinctKeys)
  (hextra : (Data.map extra).Throughout Entries.DistinctKeys)
  (hblocks : ∀ e ∈ extra, ∃ block, e.2 = .map block)

omit hdefinitions in
theorem of_blockOf {P : Data → Prop} {name : Scalar} {definition : Data}
    (hbeside : ∀ e ∈ extra, P e.2) (hown : P (definition.value key)) :
    P (blockOf key (namedOf extra) name definition) := by
  unfold blockOf
  cases hnamed : Entries.get? (namedOf extra) name with
  | none => exact hown
  | some block => exact Entries.of_get? (fun e he => hbeside e (List.mem_of_mem_filter he)) hnamed

include hextra in
private theorem distinctKeys_namedOf : Entries.DistinctKeys (namedOf extra) :=
  hextra.1.erase _

include hdefinitions hextra

theorem throughout_blockOf {e : Scalar × Data} (he : e ∈ definitions) :
    (blockOf key (namedOf extra) e.1 e.2).Throughout Entries.DistinctKeys :=
  of_blockOf hextra.values ((hdefinitions.values e he).throughout_value key)

private theorem distinctKeys_blockOf {e : Scalar × Data} (he : e ∈ definitions) :
    Entries.DistinctKeys (blockOf key (namedOf extra) e.1 e.2).entriesOf :=
  (Data.throughout_entriesOf (throughout_blockOf hdefinitions hextra he)).1

omit hdefinitions in
private theorem layExtra_eq_ok_iff (hkeys : Entries.DistinctKeys definitions) :
    layExtra key definitions (.map extra) = .ok laid ↔
    (∀ e ∈ namedOf extra, isReplaceable definitions e.1 = true) ∧
      layDefault key (Entries.value extra "default")
        (definitions.map fun e => (e.1, replaceOwn key (namedOf extra) e.1 e.2)) = .ok laid := by
  rw [layExtra_map, ← namedOf, layNamed_eq hkeys (distinctKeys_namedOf hextra),
    ← List.all_eq_true]
  cases (namedOf extra).all fun e => isReplaceable definitions e.1 with
  | true => simp
  | false => simp

theorem exists_map_of_layExtra (h : layExtra key definitions (.map extra) = .ok laid)
    {e : Scalar × Data} (he : e ∈ definitions)
    (hnamed : (Entries.get? (namedOf extra) e.1).isSome = true) :
    ∃ entries, e.2 = .map entries := by
  obtain ⟨block, hblock⟩ := Option.isSome_iff_exists.mp hnamed
  obtain ⟨k, hmem, hk⟩ := Entries.exists_mem_of_get? hblock
  have hreplaceable := ((layExtra_eq_ok_iff hextra hdefinitions.1).mp h).1 _ hmem
  rw [isReplaceable, Entries.get?_same hk, Entries.get?_of_mem hdefinitions.1 he] at hreplaceable
  split at hreplaceable
  · next entries hentries => exact ⟨entries, Option.some.inj hentries⟩
  · next hnone => cases hnone
  · cases hreplaceable

omit hdefinitions hextra in
private theorem exists_map_of_truthy (hblocks : ∀ e ∈ extra, ∃ block, e.2 = .map block)
    {name : String} (h : (Entries.value extra name).isTruthy = true) :
    ∃ base, Entries.value extra name = .map base := by
  unfold Entries.value at h ⊢
  cases hget : Entries.get? extra (.text name) with
  | none =>
    rw [hget] at h
    cases h
  | some d => exact Entries.of_get? (P := fun d => ∃ block, d = .map block) hblocks hget

include hblocks

theorem eq_map_of_layExtra (h : layExtra key definitions (.map extra) = .ok laid) :
    laid = definitions.map fun e =>
      (e.1, layOwn key (namedOf extra) (Entries.value extra "default") e.1 e.2) := by
  have hdefault := ((layExtra_eq_ok_iff hextra hdefinitions.1).mp h).2
  unfold layDefault at hdefault
  unfold layOwn
  split at hdefault
  · next htruthy =>
    obtain ⟨base, hbase⟩ := exists_map_of_truthy hblocks htruthy
    rw [hbase] at hdefault ⊢
    rw [hbase] at htruthy
    have hlaid := eq_map_of_mapM (f := layUnder key (.map base)) (h := fun _ => underlay key base)
      (fun e he d hd => ?_) (eq_ok_of_orMisuse hdefault)
    · rw [hlaid, List.map_map]
      simp only [htruthy, if_true, Function.comp_def, Data.entriesOf]
    · obtain ⟨own, hmem, rfl⟩ := List.mem_map.mp he
      refine eq_underlay ?_ hd
      rw [value_replaceOwn (exists_map_of_layExtra hdefinitions hextra h hmem)]
      exact distinctKeys_blockOf hdefinitions hextra hmem
  · next hfalsy =>
    cases hdefault
    simp only [if_neg hfalsy]

/-- Laying the same blocks again changes nothing. -/
theorem layExtra_layExtra (h : layExtra key definitions (.map extra) = .ok laid) :
    layExtra key laid (.map extra) = .ok laid := by
  have hlaid := eq_map_of_layExtra hdefinitions hextra hblocks h
  have hkeys : Entries.DistinctKeys laid := by
    unfold Entries.DistinctKeys
    rw [keys_layExtra h]
    exact hdefinitions.1
  have hmap : ∀ e ∈ definitions, (Entries.get? (namedOf extra) e.1).isSome = true →
      ∃ entries, e.2 = .map entries :=
    fun e he => exists_map_of_layExtra hdefinitions hextra h he
  have hbase := Data.throughout_value hextra.values "default"
  refine (layExtra_eq_ok_iff hextra hkeys).mpr ⟨fun e he => ?_, ?_⟩
  · unfold isReplaceable
    cases hfound : Entries.get? laid e.1 with
    | none => rfl
    | some definition =>
      obtain ⟨k, hmem, hk⟩ := Entries.exists_mem_of_get? hfound
      rw [hlaid] at hmem
      obtain ⟨own, hown, hsame⟩ := List.mem_map.mp hmem
      cases hsame
      have hnamed : (Entries.get? (namedOf extra) own.1).isSome = true := by
        rw [Entries.get?_same hk, Entries.get?_of_mem (distinctKeys_namedOf hextra) he]
        rfl
      obtain ⟨entries, hentries⟩ := exists_map_layOwn (hmap own hown hnamed)
      rw [hentries]
  · rw [hlaid, List.map_map]
    unfold layDefault
    split
    · next htruthy =>
      obtain ⟨base, hentries⟩ := exists_map_of_truthy hblocks htruthy
      rw [hentries] at htruthy hbase ⊢
      have hagain := mapM_map_eq_ok (f := layUnder key (.map base)) fun e he =>
        layUnder_layOwn (hmap e he) htruthy hbase (fun block hblock => ?_)
          (distinctKeys_blockOf hdefinitions hextra he)
      · exact congrArg orMisuse hagain
      · exact Entries.of_get? (P := fun d => ∃ facets, d = .map facets)
          (fun e he => hblocks e (List.mem_of_mem_filter he)) hblock
    · next hfalsy =>
      refine congrArg Except.ok (List.map_congr_left fun e he => Prod.ext rfl ?_)
      have hblock : Entries.DistinctKeys (blockOf key (namedOf extra) e.1 e.2).entriesOf :=
        distinctKeys_blockOf hdefinitions hextra he
      have hagain := layOwn_layOwn (hmap e he) hbase hblock
      simp only [layOwn, if_neg hfalsy] at hagain ⊢
      exact hagain

end Laid

end Document

end StoreSchema
