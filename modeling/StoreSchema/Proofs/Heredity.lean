import StoreSchema.Proofs.Facets
import StoreSchema.Proofs.Meaning
import StoreSchema.Proofs.Throughout

set_option autoImplicit false

namespace StoreSchema

namespace Data

/-- A property of data that passes on to the parts of a value, and from parts to lists and mappings
of them. -/
structure Hereditary (good : Data → Prop) : Prop where
  null : good .null
  bool : ∀ flag : Bool, good (.bool flag)
  text : ∀ s : String, good (.text s)
  list : ∀ {items : List Data}, good (.list items) ↔ ∀ item ∈ items, good item
  map : ∀ {entries : Entries Data},
    good (.map entries) ↔ ∀ e ∈ entries, good (.scalar e.1) ∧ good e.2
  items : ∀ {d : Data} {items : List Data}, good d → d.items = .ok items → ∀ item ∈ items, good item

theorem hereditary_true : Hereditary fun _ => True where
  null := trivial
  bool _ := trivial
  text _ := trivial
  list := by simp
  map := by simp
  items _ _ _ _ := trivial

namespace Hereditary

variable {good : Data → Prop} {d : Data} {entries upper : Entries Data}

theorem get? (h : Hereditary good) (hentries : good (.map entries)) {key : Scalar}
    (hget : Entries.get? entries key = some d) : good d := by
  obtain ⟨k, hmem, -⟩ := Entries.exists_mem_of_get? hget
  exact (h.map.mp hentries _ hmem).2

theorem value (h : Hereditary good) (hentries : good (.map entries)) (name : String) :
    good (Entries.value entries name) := by
  unfold Entries.value
  cases hget : Entries.get? entries (.text name) with
  | none => exact h.null
  | some found => exact h.get? hentries hget

theorem valueOf (h : Hereditary good) (hd : good d) (name : String) : good (d.value name) := by
  cases d with
  | map entries => exact h.value hd name
  | _ => exact h.null

theorem nil (h : Hereditary good) : good (.map []) :=
  h.map.mpr fun e he => by cases he

theorem members (h : Hereditary good) (hd : good d) (hentries : d.members = .ok entries) :
    good (.map entries) := by
  rcases eq_of_members hentries with rfl | ⟨-, rfl⟩
  · exact hd
  · exact h.nil

theorem put (h : Hereditary good) (hentries : good (.map entries)) {key : Scalar}
    (hkey : good (.scalar key)) (hd : good d) : good (.map (Entries.put entries key d)) := by
  induction entries with
  | nil => exact h.map.mpr (List.forall_mem_cons.mpr ⟨⟨hkey, hd⟩, fun e he => by cases he⟩)
  | cons entry rest ih =>
    obtain ⟨k, v⟩ := entry
    obtain ⟨hfirst, hrest⟩ := List.forall_mem_cons.mp (h.map.mp hentries)
    rw [Entries.put]
    split
    · exact h.map.mpr (List.forall_mem_cons.mpr ⟨⟨hfirst.1, hd⟩, hrest⟩)
    · have hmore := h.map.mp (ih (h.map.mpr hrest))
      exact h.map.mpr (List.forall_mem_cons.mpr ⟨hfirst, hmore⟩)

theorem foldl (h : Hereditary good) {step : Entries Data → Scalar × Data → Entries Data}
    (hstep : ∀ merged e, good (.map merged) → good (.scalar e.1) → good e.2 →
      good (.map (step merged e)))
    (hentries : good (.map entries)) (hupper : good (.map upper)) :
    good (.map (upper.foldl step entries)) := by
  induction upper generalizing entries with
  | nil => exact hentries
  | cons entry rest ih =>
    obtain ⟨hfirst, hrest⟩ := List.forall_mem_cons.mp (h.map.mp hupper)
    exact ih (hstep entries entry hentries hfirst.1 hfirst.2) (h.map.mpr hrest)

theorem overlay (h : Hereditary good) (hentries : good (.map entries))
    (hupper : good (.map upper)) : good (.map (Entries.overlay entries upper)) :=
  h.foldl (fun _ _ hmerged hkey hd => h.put hmerged hkey hd) hentries hupper

theorem erase (h : Hereditary good) (hentries : good (.map entries)) (key : Scalar) :
    good (.map (Entries.erase entries key)) :=
  h.map.mpr fun e he => h.map.mp hentries e (List.mem_filter.mp he).1

theorem key (_ : Hereditary good) (hd : good d) {name : Scalar} (hname : d.key = .ok name) :
    good (.scalar name) := by
  cases d with
  | scalar s =>
    cases hname
    exact hd
  | _ => cases hname

theorem toEntries (h : Hereditary good) (hd : good d) (hentries : d.toEntries = .ok entries) :
    good (.map entries) :=
  toEntries_induction (fun entries => good (.map entries)) h.items id h.nil
    (fun hstart hk hname hv => h.put hstart (h.key hk hname) hv) hd hentries

end Hereditary

end Data

namespace Composition.Gathered

variable {good : Data → Prop} {gathered : Gathered} {node : Data} {own : Entries Data}

structure Holds (good : Data → Prop) (gathered : Gathered) : Prop where
  properties : good (.map gathered.properties)
  required : ∀ name ∈ gathered.required, good (.scalar name)

private theorem holds_keys (h : Data.Hereditary good) {items : List Data}
    (hitems : ∀ item ∈ items, good item) {names : List Scalar}
    (hnames : items.mapM Data.key = .ok names) : ∀ name ∈ names, good (.scalar name) := by
  induction items generalizing names with
  | nil =>
    cases hnames
    exact fun name hname => by cases hname
  | cons item rest ih =>
    obtain ⟨hitem, hrest⟩ := List.forall_mem_cons.mp hitems
    rw [List.mapM_cons] at hnames
    obtain ⟨name, hname, hnames⟩ := exists_of_bind_eq_ok hnames
    obtain ⟨more, hmore, hnames⟩ := exists_of_bind_eq_ok hnames
    cases hnames
    exact List.forall_mem_cons.mpr ⟨h.key hitem hname, ih hrest hmore⟩

private theorem holds_requiredOf (h : Data.Hereditary good) (hown : good (.map own))
    {names : List Scalar} (hnames : requiredOf own = .ok names) :
    ∀ name ∈ names, good (.scalar name) := by
  have hrequired := h.value hown "required"
  unfold requiredOf at hnames
  split at hnames
  · next items hlist =>
    rw [hlist] at hrequired
    exact holds_keys h (h.list.mp hrequired) hnames
  · next first second origin hpair =>
    rw [hpair] at hrequired
    have hparts := h.items hrequired rfl
    obtain ⟨a, ha, hnames⟩ := exists_of_bind_eq_ok hnames
    obtain ⟨b, hb, hnames⟩ := exists_of_bind_eq_ok hnames
    cases hnames
    intro name hname
    rcases List.mem_cons.mp hname with rfl | hname
    · exact h.key (hparts _ (by simp)) ha
    · rw [List.mem_singleton.mp hname]
      exact h.key (hparts _ (by simp)) hb
  · cases hnames
    exact fun name hname => by cases hname

theorem Holds.add (h : Data.Hereditary good) (hgathered : gathered.Holds good) (hnode : good node)
    {next : Gathered} (hnext : gathered.add node = .ok next) : next.Holds good := by
  unfold Gathered.add at hnext
  obtain ⟨entries, hmembers, hnext⟩ := exists_of_bind_eq_ok hnext
  obtain ⟨properties, hproperties, hnext⟩ := exists_of_bind_eq_ok hnext
  obtain ⟨required, hrequired, hnext⟩ := exists_of_bind_eq_ok hnext
  cases hnext
  have hentries := h.members hnode hmembers
  have hdeclared : good (.map properties) := by
    unfold propertiesOf at hproperties
    dsimp only at hproperties
    split at hproperties
    · exact h.toEntries (h.value hentries "properties") hproperties
    · cases hproperties
      exact h.nil
  exact ⟨h.overlay hgathered.properties hdeclared, fun name hname =>
    (mem_of_mem_foldl_addRequired hname).elim (hgathered.required name)
      (holds_requiredOf h hentries hrequired name)⟩

theorem Holds.finish (h : Data.Hereditary good) (hgathered : gathered.Holds good)
    (hown : good (.map own)) : good (.map (gathered.finish own)) := by
  have hrequired : good (.list (gathered.required.map .scalar)) := by
    rw [h.list]
    intro item hitem
    obtain ⟨name, hname, rfl⟩ := List.mem_map.mp hitem
    exact hgathered.required name hname
  have hplain := h.erase hown (.text "allOf")
  have hproperties : good (.map (if gathered.properties.isEmpty then
      Entries.erase own (.text "allOf") else Entries.put (Entries.erase own (.text "allOf"))
        (.text "properties") (.map gathered.properties))) := by
    split
    · exact hplain
    · exact h.put hplain (h.text _) hgathered.properties
  unfold Gathered.finish
  dsimp only
  split
  · exact hproperties
  · exact h.put hproperties (h.text _) hrequired

end Composition.Gathered

namespace Context

variable {ctx : Context} {good : Data → Prop} {lookup : Scalar → Except Fault Data}

/-- A property holds of all that a run reads: of the definitions and of the properties that are
added to them. -/
structure Holds (ctx : Context) (good : Data → Prop) : Prop where
  definitions : ∀ name raw, ctx.rawDefinition name = .ok raw → good raw
  additional : ∀ name, good (.map (ctx.extensions.additionalFor name))

private theorem holds_gather (h : Data.Hereditary good)
    (hlookup : ∀ name node, lookup name = .ok node → good node) {fragments : List Data}
    (hfragments : ∀ fragment ∈ fragments, good fragment) {start gathered : Composition.Gathered}
    (hstart : start.Holds good) (hgather : Context.gather lookup start fragments = .ok gathered) :
    gathered.Holds good := by
  refine gather_induction (·.Holds good)
    (fun fragment hmem source node hsource hnode start next hstart hnext => ?_) hstart hgather
  have hgood : good node := by
    cases source with
    | named target => exact hlookup _ node hnode
    | inline own =>
      cases hnode
      rw [eq_of_source_inline hsource]
      exact hfragments fragment hmem
  exact hstart.add h hgood hnext

theorem holds_merge (h : Data.Hereditary good)
    (hlookup : ∀ name node, lookup name = .ok node → good node) {node : Data} (hnode : good node)
    {merged : Entries Data} (hmerge : Context.merge lookup node = .ok merged) :
    good (.map merged) := by
  obtain ⟨own, fragments, gathered, hown, hfragments, hgathered, rfl⟩ :=
    exists_gathered_of_merge hmerge
  have hentries := h.members hnode hown
  have hlisted : ∀ fragment ∈ fragments, good fragment := by
    unfold Composition.fragments at hfragments
    dsimp only at hfragments
    split at hfragments
    · exact h.items (h.value hentries "allOf") hfragments
    · cases hfragments
      exact fun fragment hfragment => by cases hfragment
  have hempty : Composition.Gathered.empty.Holds good := ⟨h.nil, fun name hname => by cases hname⟩
  exact (holds_gather h hlookup hlisted hempty hgathered).finish h hentries

private theorem holds_normalAt (h : Data.Hereditary good)
    (hdefinitions : ∀ name raw, ctx.rawDefinition name = .ok raw → good raw) (depth : Nat) :
    ∀ name node, ctx.normalAt depth name = .ok node → good node := by
  -- By induction on the depth of the composition, since fragments are normal forms themselves.
  induction depth with
  | zero =>
    intro name node hnode
    cases hnode
  | succ depth ih =>
    intro name node hnode
    obtain ⟨raw, hraw, hnode⟩ := exists_of_bind_eq_ok hnode
    rw [ofExcept_eq] at hraw
    have hgood := hdefinitions name raw hraw
    split at hnode
    · obtain ⟨merged, hmerge, hnode⟩ := exists_of_bind_eq_ok hnode
      cases hnode
      exact holds_merge h ih hgood hmerge
    · cases hnode
      exact hgood

theorem Holds.normalForm (hctx : ctx.Holds good) (h : Data.Hereditary good) {name : Scalar}
    {node : Data} (hnode : ctx.normalForm name = .ok node) : good node :=
  holds_normalAt h hctx.definitions _ name node hnode

end Context

namespace Shape

variable {good : Data → Prop} {key : String}

mutual
def Holds (good : Data → Prop) : Shape → Prop
  | .override extension base _ => good extension ∧ good base
  | .typed _ choices => ∀ values, choices = some values → ∀ d ∈ values, good d
  | .fields _ members => HoldsMembers good members
  | .withDefault shape default => Holds good shape ∧ good default
  | _ => True

def HoldsMembers (good : Data → Prop) : List (Scalar × Shape) → Prop
  | [] => True
  | (name, shape) :: rest => good (.scalar name) ∧ Holds good shape ∧ HoldsMembers good rest
end

theorem holds_choicesOf (h : Data.Hereditary good) {entries : Entries Data}
    (hentries : good (.map entries)) :
    ∀ values, choicesOf entries = some values → ∀ d ∈ values, good d := by
  intro values hvalues
  have hlisted := h.value hentries "enum"
  unfold choicesOf at hvalues
  split at hvalues
  · next items hitems =>
    cases hvalues
    rw [hitems] at hlisted
    exact h.list.mp hlisted
  · cases hvalues

private theorem reads_ofEntries (h : Data.Hereditary good) {entries : Entries Data}
    (hentries : good (.map entries)) : (Form.ofEntries key entries).Reads (fun _ => True)
      fun extension base => good extension ∧ good base := by
  have hitems := h.value hentries "items"
  unfold Form.ofEntries
  dsimp only
  split
  · exact ⟨h.value hentries key, hentries⟩
  · split
    · exact ⟨h.valueOf hitems key, hitems⟩
    · repeat' split
      all_goals trivial

private theorem holds_withDefaultOf (h : Data.Hereditary good) {entries : Entries Data}
    (hentries : good (.map entries)) {shape : Shape} (hshape : shape.Holds good) :
    (withDefaultOf entries shape).Holds good := by
  unfold withDefaultOf
  split
  · next default hdefault => exact ⟨hshape, h.get? hentries hdefault⟩
  · exact hshape

mutual
theorem holds_ofProperty (h : Data.Hereditary good) (key : String) (d : Data) (hd : good d) :
    (ofProperty key d).Holds good := by
  match d with
  | .map entries =>
    have hnode := holds_ofNode h key entries hd
    have hreads : (Form.ofEntries key entries).Reads (fun _ => True)
        fun extension base => good extension ∧ good base := reads_ofEntries h hd
    rw [ofProperty_map]
    apply holds_withDefaultOf h hd
    cases hform : Form.ofEntries key entries with
    | embedded => exact hnode
    | override _ _ _ =>
      rw [hform] at hreads
      exact hreads
    | array | scalar => exact holds_choicesOf h hd
    | _ => trivial
  | .recurrence true | .recurrence false => simp only [ofProperty, Holds]
  | .scalar _ | .list _ | .pair _ _ _ | .set _ _ => simp only [ofProperty, Holds]
termination_by 3 * sizeOf d

theorem holds_ofNode (h : Data.Hereditary good) (key : String) (entries : List (Scalar × Data))
    (hentries : good (.map entries)) : (ofNode key entries).Holds good := by
  have hdirect := holds_members h key true entries hentries
  rw [ofNode]
  split
  · next properties hmap =>
    have := Entries.sizeOf_lt_of_value hmap
    have hproperties := h.value hentries "properties"
    rw [hmap] at hproperties
    exact holds_members h key false properties hproperties
  · split
    · exact hdirect
    · split
      · trivial
      · intro values hvalues
        cases hvalues
  · trivial
  · trivial
termination_by 3 * sizeOf entries + 1
decreasing_by
  all_goals try simp only [Data.map.sizeOf_spec] at this
  all_goals omega

theorem holds_members (h : Data.Hereditary good) (key : String) (direct : Bool)
    (entries : List (Scalar × Data)) (hentries : good (.map entries)) :
    HoldsMembers good (members key direct entries) := by
  match entries with
  | [] => simp only [members, HoldsMembers]
  | (name, d) :: rest =>
    obtain ⟨hd, hrest⟩ := List.forall_mem_cons.mp (h.map.mp hentries)
    have hmore := holds_members h key direct rest (h.map.mpr hrest)
    rw [members]
    split
    · exact hmore
    · exact ⟨hd.1, holds_ofProperty h key d hd.2, hmore⟩
termination_by 3 * sizeOf entries
end

end Shape

namespace Extensions

variable {good : Data → Prop} {x : Extensions} {facets : Facets} {block : Data}

structure Holds (good : Data → Prop) (x : Extensions) : Prop where
  global : good (.map x.globalAdditional)
  own : ∀ name entries, Entries.get? x.additional name = some entries → good (.map entries)

private theorem holds_additional (h : Data.Hereditary good) {indexed : Bool}
    (hof : facets.Of indexed block) (hblock : good block) {entries : Entries Data}
    (hentries : facets.additional = some entries) : good (.map entries) := by
  have hgiven := hof.additional
  rw [hentries] at hgiven
  unfold givenEntries at hgiven
  split at hgiven
  · cases hread : (block.value "additional-properties").toEntries with
    | error misuse =>
      rw [hread] at hgiven
      cases hgiven
    | ok read =>
      rw [hread] at hgiven
      cases hgiven
      exact h.toEntries (h.valueOf hblock _) hread
  · cases hgiven

private theorem Holds.addGlobal (h : Data.Hereditary good) (hx : x.Holds good) {indexed : Bool}
    (hof : facets.Of indexed block) (hblock : good block) : (x.addGlobal facets).Holds good := by
  refine ⟨?_, hx.own⟩
  change good (.map (facets.additional.getD x.globalAdditional))
  cases hentries : facets.additional with
  | none => exact hx.global
  | some entries => exact holds_additional h hof hblock hentries

private theorem Holds.add (h : Data.Hereditary good) (hx : x.Holds good) {indexed : Bool}
    (hof : facets.Of indexed block) (hblock : good block) (name : Scalar) :
    (x.add name facets).Holds good := by
  refine ⟨hx.global, fun other entries hget => ?_⟩
  change Entries.get? (putGiven x.additional name facets.additional) other = some entries at hget
  cases hadded : facets.additional with
  | none =>
    rw [hadded] at hget
    exact hx.own other entries hget
  | some added =>
    rw [hadded, putGiven, Entries.get?_put] at hget
    split at hget
    · cases hget
      exact holds_additional h hof hblock hadded
    · exact hx.own other entries hget

private theorem Holds.addAll (h : Data.Hereditary good) (hx : x.Holds good) {key : String}
    {definitions : Entries Data} (hdefinitions : good (.map definitions)) {owns : Entries Facets}
    (howns : FacetsOf key definitions owns) : (x.addAll owns).Holds good := by
  induction howns generalizing x with
  | nil => exact hx
  | cons hfirst _ ih =>
    obtain ⟨hdefinition, hrest⟩ := List.forall_mem_cons.mp (h.map.mp hdefinitions)
    have hblock := h.valueOf hdefinition.2 key
    exact ih (hx.add h hfirst.2 hblock _) (h.map.mpr hrest)

/-- Whatever holds of the blocks of a document and of its definitions holds of the additional
properties that are gathered from them. -/
theorem holds_gatherExtensions (h : Data.Hereditary good) {key : String}
    {definitions : Entries Data} (hblock : good block) (hdefinitions : good (.map definitions))
    (hx : x.Holds good) {x' : Extensions}
    (hleads : Leads (Document.gatherExtensions key block definitions) x x') : x'.Holds good := by
  obtain ⟨global, owns, hglobal, howns, rfl⟩ := leads_gatherExtensions.mp hleads
  exact (hx.addGlobal h hglobal hblock).addAll h hdefinitions howns

theorem Holds.additionalFor (h : Data.Hereditary good) (hx : x.Holds good) (name : Scalar) :
    good (.map (x.additionalFor name)) := by
  refine h.overlay hx.global ?_
  cases hget : Entries.get? x.additional name with
  | none => exact h.nil
  | some entries => exact hx.own name entries hget

end Extensions

namespace Document

variable {good : Data → Prop} {key : String} {definitions laid : Entries Data} {base : Data}

private theorem holds_layNamed (h : Data.Hereditary good) {named : Entries Data}
    (hdefinitions : good (.map definitions)) (hnamed : good (.map named))
    (hlaid : layNamed key definitions named = .ok laid) : good (.map laid) := by
  induction named generalizing definitions with
  | nil =>
    cases hlaid
    exact hdefinitions
  | cons entry rest ih =>
    obtain ⟨name, block⟩ := entry
    obtain ⟨hblock, hrest⟩ := List.forall_mem_cons.mp (h.map.mp hnamed)
    rw [layNamed] at hlaid
    cases hget : Entries.get? definitions name with
    | none =>
      rw [hget] at hlaid
      exact ih hdefinitions (h.map.mpr hrest) hlaid
    | some definition =>
      rw [hget] at hlaid
      obtain ⟨replaced, hreplaced, hlaid⟩ := exists_of_bind_eq_ok hlaid
      have hreplaced := eq_ok_of_orMisuse hreplaced
      have hdefinition := h.get? hdefinitions hget
      have hgood : good replaced := by
        cases definition with
        | map entries =>
          cases hreplaced
          exact h.put hdefinition (h.text key) hblock.2
        | _ => cases hreplaced
      exact ih (h.put hdefinitions hblock.1 hgood) (h.map.mpr hrest) hlaid

private theorem holds_mergeBlocks (h : Data.Hereditary good) {upper : Data} (hbase : good base)
    (hupper : good upper) {merged : Entries Data}
    (hmerged : Extensions.mergeBlocks base upper = .ok merged) : good (.map merged) := by
  obtain ⟨below, hbelow, hmerged⟩ := exists_of_bind_eq_ok hmerged
  have hbelow := h.toEntries hbase hbelow
  dsimp only at hmerged
  split at hmerged
  · obtain ⟨above, habove, hmerged⟩ := exists_of_bind_eq_ok hmerged
    cases hmerged
    refine h.foldl ?_ hbelow (h.members hupper habove)
    intro merged facet hmerged hkey hfacet
    split
    · next inner outer hinner houter =>
      rw [houter] at hfacet
      exact h.put hmerged hkey (h.overlay (h.get? hmerged hinner) hfacet)
    · exact h.put hmerged hkey hfacet
  · cases hmerged
    exact hbelow

private theorem holds_layUnder (h : Data.Hereditary good) (hbase : good base) {definition : Data}
    (hdefinition : good definition) {d : Data} (hd : layUnder key base definition = .ok d) :
    good d := by
  obtain ⟨entries, hentries, hd⟩ := exists_of_bind_eq_ok hd
  obtain ⟨merged, hmerged, hd⟩ := exists_of_bind_eq_ok hd
  cases hd
  have hentries := h.members hdefinition hentries
  have hmerged := holds_mergeBlocks h hbase (h.value hentries key) hmerged
  exact h.put hentries (h.text key) hmerged

private theorem holds_layDefault (h : Data.Hereditary good) (hbase : good base)
    (hdefinitions : good (.map definitions))
    (hlaid : layDefault key base definitions = .ok laid) : good (.map laid) := by
  unfold layDefault at hlaid
  split at hlaid
  · replace hlaid := eq_ok_of_orMisuse hlaid
    induction definitions generalizing laid with
    | nil =>
      cases hlaid
      exact h.nil
    | cons entry rest ih =>
      obtain ⟨hfirst, hrest⟩ := List.forall_mem_cons.mp (h.map.mp hdefinitions)
      rw [List.mapM_cons] at hlaid
      obtain ⟨e, he, hlaid⟩ := exists_of_bind_eq_ok hlaid
      obtain ⟨more, hmore, hlaid⟩ := exists_of_bind_eq_ok hlaid
      obtain ⟨d, hd, he⟩ := exists_of_bind_eq_ok he
      cases he
      cases hlaid
      have hlater := h.map.mp (ih (h.map.mpr hrest) hmore)
      exact h.map.mpr
        (List.forall_mem_cons.mpr ⟨⟨hfirst.1, holds_layUnder h hbase hfirst.2 hd⟩, hlater⟩)
  · cases hlaid
    exact hdefinitions

/-- Whatever holds of definitions and of the blocks that are laid on them holds of the result. -/
theorem holds_layExtra (h : Data.Hereditary good) {extra : Data} (hextra : good extra)
    (hdefinitions : good (.map definitions))
    (hlaid : layExtra key definitions extra = .ok laid) : good (.map laid) := by
  unfold layExtra at hlaid
  split at hlaid
  · obtain ⟨blocks, hblocks, hlaid⟩ := exists_of_bind_eq_ok hlaid
    obtain ⟨named, hnamed, hlaid⟩ := exists_of_bind_eq_ok hlaid
    have hblocks := h.toEntries hextra (eq_ok_of_orMisuse hblocks)
    have hnamed := holds_layNamed h hdefinitions (h.erase hblocks _) hnamed
    exact holds_layDefault h (h.value hblocks "default") hnamed hlaid
  · cases hlaid
    exact hdefinitions

end Document

namespace Session

variable {good : Data → Prop} {session : Session} {document : Entries Data} {extra : Data}
  {ctx : Context}

/-- Whatever holds of a document and of the blocks that are added to it holds of all that a run
reads. -/
theorem BuildsWith.holds (h : Data.Hereditary good) (hdocument : good (.map document))
    (hextra : good extra) (hbuilds : session.BuildsWith document extra ctx) : ctx.Holds good := by
  obtain ⟨declared, hdeclared, hlaid⟩ := hbuilds.definitions
  have hown : good (.map declared) := by
    cases htruthy : (Entries.value document "definitions").isTruthy with
    | true =>
      rw [← Document.value_of_definitionsOf hdeclared htruthy]
      exact h.value hdocument "definitions"
    | false =>
      rw [Document.definitionsOf_of_falsy htruthy] at hdeclared
      cases hdeclared
      exact h.nil
  have hdefinitions := Document.holds_layExtra h hextra hown hlaid
  have hwhole : good (.map (Document.withDefinitions document ctx.definitions)) := by
    unfold Document.withDefinitions
    split
    · exact h.put hdocument (h.text _) hdefinitions
    · exact hdocument
  have hnone : Extensions.Holds good {} :=
    ⟨h.nil, fun name entries hget => by cases hget⟩
  have hgathered := Extensions.holds_gatherExtensions h (h.value hwhole _) hdefinitions hnone
    hbuilds.extensions
  refine ⟨fun name raw hraw => ?_, hgathered.additionalFor h⟩
  unfold Context.rawDefinition at hraw
  split at hraw
  · next hget =>
    cases hraw
    exact h.get? hdefinitions hget
  · cases hraw

end Session

end StoreSchema
