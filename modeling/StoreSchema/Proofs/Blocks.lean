import StoreSchema.Proofs.Fields
import StoreSchema.Proofs.Intake
import StoreSchema.Proofs.Throughout

set_option autoImplicit false

namespace StoreSchema

namespace Data

mutual
/-- No mapping in the data has an extension block, found under `key`. -/
def Blockless (key : String) : Data → Prop
  | .map entries => (Entries.value entries key).isTruthy = false ∧ BlocklessEntries key entries
  | .list items => BlocklessItems key items
  | .pair first second _ => Blockless key first ∧ Blockless key second
  | _ => True

def BlocklessItems (key : String) : List Data → Prop
  | [] => True
  | item :: rest => Blockless key item ∧ BlocklessItems key rest

def BlocklessEntries (key : String) : List (Scalar × Data) → Prop
  | [] => True
  | (_, d) :: rest => Blockless key d ∧ BlocklessEntries key rest
end

/-- A mapping has no extension block. -/
def Unblocked (key : String) (entries : Entries Data) : Prop :=
  (Entries.value entries key).isTruthy = false

variable {key : String}

mutual
theorem blockless_iff_throughout (d : Data) : d.Blockless key ↔ d.Throughout (Unblocked key) := by
  match d with
  | .map entries => exact and_congr Iff.rfl (blocklessEntries_iff_throughout entries)
  | .list items => exact blocklessItems_iff_throughout items
  | .pair first second _ =>
    exact and_congr (blockless_iff_throughout first) (blockless_iff_throughout second)
  | .scalar _ | .set _ _ | .recurrence _ => exact Iff.rfl

private theorem blocklessItems_iff_throughout (items : List Data) :
    BlocklessItems key items ↔ ThroughoutItems (Unblocked key) items := by
  match items with
  | [] => exact Iff.rfl
  | item :: rest =>
    exact and_congr (blockless_iff_throughout item) (blocklessItems_iff_throughout rest)

private theorem blocklessEntries_iff_throughout (entries : List (Scalar × Data)) :
    BlocklessEntries key entries ↔ ThroughoutEntries (Unblocked key) entries := by
  match entries with
  | [] => exact Iff.rfl
  | (_, d) :: rest =>
    exact and_congr (blockless_iff_throughout d) (blocklessEntries_iff_throughout rest)
end

theorem isTruthy_value_of_throughout {d : Data} (h : d.Throughout (Unblocked key)) :
    (d.value key).isTruthy = false :=
  h.value (fun block => block.isTruthy = false) (fun _ hentries => hentries) rfl

end Data

theorem Form.ofEntries_ne_override {key : String} {entries : Entries Data}
    (hown : (Entries.value entries key).isTruthy = false)
    (hitems : ((Entries.value entries "items").value key).isTruthy = false)
    (extension base : Data) (many : Bool) :
    ofEntries key entries ≠ .override extension base many := by
  simp only [ofEntries, hown, hitems, Bool.false_eq_true, if_false]
  intro h
  repeat' split at h
  all_goals cases h

namespace Shape

variable {reached : String → Prop}

mutual
/-- A shape is plain if all that it reads is references. -/
theorem plain_iff_reads (shape : Shape) :
    shape.Plain reached ↔ shape.Reads reached fun _ _ => False := by
  match shape with
  | .notMapping _ | .endless | .noFields | .malformed _ | .composed | .typed _ _
  | .override _ _ _ | .reference _ _ => simp only [Plain, Reads]
  | .fields _ members =>
    simp only [Plain, Reads]
    exact plainMembers_iff_reads members
  | .withDefault shape _ =>
    simp only [Plain, Reads]
    exact plain_iff_reads shape

private theorem plainMembers_iff_reads (members : List (Scalar × Shape)) :
    PlainMembers reached members ↔ ReadsMembers reached (fun _ _ => False) members := by
  match members with
  | [] => simp only [PlainMembers, ReadsMembers]
  | (_, shape) :: rest =>
    simp only [PlainMembers, ReadsMembers]
    exact and_congr (plain_iff_reads shape) (plainMembers_iff_reads rest)
end

end Shape

theorem Form.reads_of_unblocked {key : String} {entries : Entries Data}
    (hown : (Entries.value entries key).isTruthy = false)
    (hitems : ((Entries.value entries "items").value key).isTruthy = false) :
    (ofEntries key entries).Reads (fun _ => True) fun _ _ => False := by
  have hnone := ofEntries_ne_override hown hitems
  cases hform : ofEntries key entries with
  | override extension base many => exact hnone extension base many hform
  | _ => trivial

theorem Form.eachReads_unblocked (key : String) :
    EachReads key (fun _ => True) (fun _ _ => False) (Data.Unblocked key) :=
  fun _ hentries => reads_of_unblocked hentries.1
    (Data.isTruthy_value_of_throughout (Data.throughout_value hentries.values "items"))

theorem Shape.plain_of_blockless {key : String} {d : Data} (h : d.Blockless key) :
    (ofProperty key d).Plain fun _ => True := by
  rw [plain_iff_reads]
  exact reads_ofProperty (Form.eachReads_unblocked key) d ((Data.blockless_iff_throughout d).mp h)

namespace Context

variable {ctx : Context}

/-- No extension block is read in any definition, and none adds properties. -/
structure Unextended (ctx : Context) : Prop where
  definitions : ∀ name, ctx.PlainAt (fun _ => True) name
  additional : ∀ name, ctx.extensions.additionalFor name = []

theorem plainAt_of_blockless
    (hdefinitions : ∀ e ∈ ctx.definitions, e.2.Blockless ctx.extensionKey) (name : Scalar) :
    ctx.PlainAt (fun _ => True) name := by
  have hconfined : ctx.Confined (Data.Unblocked ctx.extensionKey) fun _ => True := by
    refine ⟨fun name raw _ hraw => ?_, fun _ _ _ _ => trivial⟩
    obtain ⟨k, hmem, -⟩ := exists_key_of_rawDefinition hraw
    exact (Data.blockless_iff_throughout raw).mp (hdefinitions _ hmem)
  intro node entries hnode hentries
  have hthroughout : ∀ own, node.members = .ok own →
      Data.NodeThroughout (Data.Unblocked ctx.extensionKey) own :=
    fun own hown => hconfined.normalForm trivial hnode hown
  have hreads : NodeReads ctx.extensionKey (fun _ => True) (fun _ _ => False) node := by
    refine nodeReads_of_throughout (Form.eachReads_unblocked _) hthroughout fun own hown => ?_
    have herased := (hthroughout own hown).erase ctx.extensionKey
    refine Form.reads_of_unblocked ?_
      (Data.isTruthy_value_of_throughout (herased.throughout_value (by decide)))
    rw [Entries.value_erase, if_pos (Scalar.same_refl _)]
    rfl
  simpa only [Shape.plain_iff_reads] using hreads entries hentries

end Context

namespace Document

private theorem register_falsy {name : Scalar} {block : Data} (h : block.isTruthy = false) :
    Extensions.register name block = pure () := by
  unfold Extensions.register Extensions.registerUnder
  rw [h]
  rfl

theorem gatherExtensions_blockless {key : String} {block : Data} {definitions : Entries Data}
    (hblock : block.isTruthy = false)
    (hdefinitions : ∀ e ∈ definitions, (e.2.value key).isTruthy = false) :
    gatherExtensions key block definitions = pure () := by
  have hall : (definitions.forM fun e => Extensions.register e.1 (e.2.value key)) = pure () := by
    induction definitions with
    | nil => rfl
    | cons e rest ih =>
      obtain ⟨he, hrest⟩ := List.forall_mem_cons.mp hdefinitions
      rw [List.forM, register_falsy he, ih hrest]
      rfl
  have hglobal : Extensions.registerGlobal block = pure () := by
    unfold Extensions.registerGlobal
    rw [hblock]
    rfl
  rw [gatherExtensions, hglobal, hall]
  rfl

theorem throughout_definitionsOf {kind : Entries Data → Prop} {document definitions : Entries Data}
    (h : (Data.map document).Throughout kind)
    (hdefinitions : definitionsOf document = .ok definitions) :
    ∀ e ∈ definitions, e.2.Throughout kind := by
  have hdeclared := Data.throughout_value h.values "definitions"
  unfold definitionsOf at hdefinitions
  split at hdefinitions
  · next hmap =>
    obtain rfl := Except.ok.inj hdefinitions
    rw [hmap] at hdeclared
    exact hdeclared.values
  · split at hdefinitions
    · cases hdefinitions
    · obtain rfl := Except.ok.inj hdefinitions
      intro e he
      cases he

end Document

namespace Session

variable {session : Session} {document : Entries Data} {ctx : Context}

/-- The definitions of a document without extension blocks have none. -/
theorem Builds.blockless_definitions (hbuilds : session.Builds document ctx)
    (hdocument : (Data.map document).Blockless ctx.extensionKey) :
    ∀ e ∈ ctx.definitions, e.2.Blockless ctx.extensionKey := by
  simp only [Data.blockless_iff_throughout] at hdocument ⊢
  exact Document.throughout_definitionsOf hdocument hbuilds.definitions

/-- A document without extension blocks, with none added, is taken in as one in which no block is
read. -/
theorem Builds.unextended (hbuilds : session.Builds document ctx)
    (hdocument : (Data.map document).Blockless ctx.extensionKey) : ctx.Unextended := by
  have hdefinitions := hbuilds.blockless_definitions hdocument
  have hextensions := hbuilds.extensions
  rw [Document.gatherExtensions_blockless hdocument.1 fun e he =>
    Data.isTruthy_value_of_throughout ((Data.blockless_iff_throughout e.2).mp (hdefinitions e he))]
    at hextensions
  replace hextensions : {} = ctx.extensions := (Prod.mk.inj hextensions).2
  refine ⟨Context.plainAt_of_blockless hdefinitions, fun name => ?_⟩
  rw [← hextensions]
  rfl

end Session

end StoreSchema
