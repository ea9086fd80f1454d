import StoreSchema.Proofs.Keys
import StoreSchema.Proofs.Layers
import StoreSchema.Session

set_option autoImplicit false

namespace StoreSchema

namespace Document

def definitionsOf (document : Entries Data) : Except Fault (Entries Data) :=
  match Entries.value document "definitions" with
  | .map definitions => .ok definitions
  | declared => if declared.isTruthy then .error .definitionsNotMapping else .ok []

theorem definitionsOf_of_falsy {document : Entries Data}
    (h : (Entries.value document "definitions").isTruthy = false) :
    definitionsOf document = .ok [] := by
  unfold definitionsOf
  split
  · next definitions hmap =>
    rw [hmap] at h
    rw [Data.eq_nil_of_falsy h]
  · rw [h, if_neg Bool.false_ne_true]

theorem value_of_definitionsOf {document definitions : Entries Data}
    (h : definitionsOf document = .ok definitions)
    (htruthy : (Entries.value document "definitions").isTruthy = true) :
    Entries.value document "definitions" = .map definitions := by
  unfold definitionsOf at h
  split at h
  · next hmap =>
    cases h
    exact hmap
  · rw [if_pos htruthy] at h
    cases h

/-- A document with its definitions replaced, if it declares any. -/
def withDefinitions (document definitions : Entries Data) : Entries Data :=
  if (Entries.value document "definitions").isTruthy then
    Entries.put document (.text "definitions") (.map definitions)
  else document

theorem value_withDefinitions {document definitions : Entries Data}
    (h : definitionsOf document = .ok definitions) (key : String) :
    Entries.value (withDefinitions document definitions) key =
      Entries.value document key := by
  unfold withDefinitions
  split
  · next htruthy =>
    have hdeclared := value_of_definitionsOf h htruthy
    unfold Entries.value at hdeclared ⊢
    rw [Entries.get?_put]
    split
    · next hkey =>
      rw [← Entries.get?_same hkey, hdeclared]
      rfl
    · rfl
  · rfl

private theorem steady_detectVersion (document : Entries Data) :
    (detectVersion document).Steady := by
  unfold detectVersion
  extract_lets declared ofInt unreadable ofText
  have hunreadable : unreadable.Steady := by
    unfold unreadable
    split
    · exact ((Reporting.Gives.warn _).bind fun _ => .ok _).steady
    · exact (Reporting.Gives.error _).steady
  have hofInt : ∀ n, (ofInt n).Steady := by
    intro n
    unfold ofInt
    split
    · exact (Reporting.Gives.ok _).steady
    · exact (Reporting.Gives.error _).steady
  have hofText : ∀ s, (ofText s).Steady := by
    intro s
    unfold ofText
    split
    · exact (Reporting.Gives.ok _).steady
    · exact hunreadable
  clear_value ofInt ofText unreadable declared
  split
  · exact (Reporting.Gives.ok _).steady
  · exact hofInt _
  · exact hofInt _
  · exact (Reporting.Gives.ok _).steady
  · exact hofText _
  · split
    · exact hofText _
    · exact hunreadable
  · exact hunreadable

private theorem steady_applyShared (sharing : Sharing) (document definitions : Entries Data)
    (extra : Data) (key : String) :
    (applyShared sharing document definitions extra key).Steady := by
  unfold applyShared
  refine (Reporting.Gives.ofExcept _).steady.bind fun entries => ?_
  refine (gives_applyExtra definitions _ key).steady.bind fun laid => ?_
  dsimp only
  split
  · split
    · exact (Reporting.Gives.ok _).steady
    · exact (Reporting.Gives.ok _).steady
  · exact (Reporting.Gives.ok _).steady

def layOn (sharing : Option Sharing) (key : String) (document declared : Entries Data)
    (extra : Data) : Except Fault (Entries Data × Entries Data) :=
  match sharing with
  | none => layExtra key declared extra >>= fun laid => .ok (withDefinitions document laid, laid)
  | some sharing => (applyShared sharing document declared extra key).outcome

/-- The context with the facets that are gathered from a document and its definitions, and with the
validators that these name. -/
def equip (bare : Context) (library : ValidatorLibrary) (document laid : Entries Data) :
    Except Fault Context :=
  let (gathered, extensions) := (gatherExtensions bare.extensionKey
    (Entries.value document bare.extensionKey) laid).run.run {}
  orMisuse gathered >>= fun _ =>
    library.loadAll bare.settings.validatorsBaseDir bare.validators extensions.validatorPaths >>=
      fun validators => .ok { bare with definitions := laid, extensions, validators }

theorem equip_eq_ok_iff {bare ctx : Context} {library : ValidatorLibrary}
    {document laid : Entries Data} : equip bare library document laid = .ok ctx ↔
      ∃ extensions validators, (gatherExtensions bare.extensionKey
          (Entries.value document bare.extensionKey) laid).run.run {} = (.ok (), extensions) ∧
        library.loadAll bare.settings.validatorsBaseDir bare.validators
          extensions.validatorPaths = .ok validators ∧
        ctx = { bare with definitions := laid, extensions, validators } := by
  unfold equip
  rcases (gatherExtensions bare.extensionKey (Entries.value document bare.extensionKey)
    laid).run.run {} with ⟨gathered, extensions⟩
  constructor
  · intro h
    dsimp only at h
    obtain ⟨_, hgathered, h⟩ := exists_of_bind_eq_ok h
    obtain ⟨validators, hload, h⟩ := exists_of_bind_eq_ok h
    rw [eq_ok_of_orMisuse hgathered]
    cases h
    exact ⟨extensions, validators, rfl, hload, rfl⟩
  · rintro ⟨extensions', validators, hgathered, hload, rfl⟩
    cases hgathered
    exact bind_eq_ok rfl (bind_eq_ok hload rfl)

theorem gives_buildContext (settings : CompilerSettings) (library : ValidatorLibrary)
    (validators : List (String × String)) (source extraSource : Source) :
    (buildContext settings library validators source extraSource).Gives (do
      let document ← decode source
      let extra ← decodeExtra extraSource
      let declared ← definitionsOf document
      let version ← (detectVersion document).outcome
      let bare : Context := { definitions := declared, settings, version, validators }
      let (whole, laid) ← layOn source.sharing bare.extensionKey document declared extra
      equip bare library whole laid) := by
  unfold buildContext
  refine (Reporting.Gives.ofExcept _).bind fun document =>
    (Reporting.Gives.ofExcept _).bind fun extra => ?_
  extract_lets declared build
  have hbuild : ∀ definitions, (build definitions).Gives (do
      let version ← (detectVersion document).outcome
      let bare : Context := { definitions, settings, version, validators }
      let (whole, laid) ← layOn source.sharing bare.extensionKey document definitions extra
      equip bare library whole laid) := by
    intro definitions
    refine Reporting.Gives.bind (steady_detectVersion document) fun version => ?_
    extract_lets bare key finish
    have hfinish : ∀ whole laid, (finish (whole, laid)).Gives (equip bare library whole laid) := by
      intro whole laid
      exact (Reporting.Gives.ofExcept _).bind fun _ =>
        (Reporting.Gives.ofExcept _).bind fun validators => .ok _
    clear_value finish
    cases source.sharing with
    | none =>
      have hlaid := (gives_applyExtra definitions extra key).bind fun laid =>
        (Reporting.Gives.ok (withDefinitions document laid, laid)).bind fun x =>
          hfinish x.1 x.2
      unfold layOn
      rw [bind_assoc]
      exact hlaid
    | some sharing =>
      exact Reporting.Gives.bind (steady_applyShared sharing document definitions extra key)
        fun x => hfinish x.1 x.2
  have hown : definitionsOf document =
      match declared with
      | .map definitions => .ok definitions
      | declared => if declared.isTruthy then .error .definitionsNotMapping else .ok [] := rfl
  have hempty : declared.isTruthy = false → definitionsOf document = .ok [] :=
    definitionsOf_of_falsy
  clear_value build declared
  cases htruthy : declared.isTruthy with
  | false =>
    rw [if_neg Bool.false_ne_true, hempty htruthy]
    exact (Reporting.Gives.ok []).bind hbuild
  | true =>
    rw [if_pos rfl]
    split
    · next definitions =>
      rw [hown]
      exact (Reporting.Gives.ok definitions).bind hbuild
    · next hmap =>
      have hfault : definitionsOf document = .error .definitionsNotMapping := by
        rw [hown]
        split
        · next definitions => exact absurd rfl (hmap definitions)
        · rw [htruthy, if_pos rfl]
      rw [hfault]
      exact (Reporting.Gives.error _).bind hbuild

end Document

namespace Session

variable {session : Session} {source extraSource : Source} {document : Entries Data} {ctx : Context}

/-- The context that a session builds for a document. -/
def contextOf (session : Session) (source extra : Source) : Except Fault Context :=
  (Document.buildContext session.settings.compiler session.library session.validators source
    extra).outcome

theorem contextOf_eq (session : Session) (source extraSource : Source) :
    session.contextOf source extraSource = (do
      let document ← Document.decode source
      let extra ← Document.decodeExtra extraSource
      let declared ← Document.definitionsOf document
      let version ← (Document.detectVersion document).outcome
      let bare : Context :=
        { definitions := declared, settings := session.settings.compiler, version,
          validators := session.validators }
      let (whole, laid) ← Document.layOn source.sharing bare.extensionKey document declared extra
      Document.equip bare session.library whole laid) :=
  (Document.gives_buildContext _ _ _ _ _).outcome

/-- Compiling a document is building its context and compiling all definitions of it. -/
theorem outcome_compileDefinitions_eq (session : Session) (source extraSource : Source) :
    (session.compileDefinitions source extraSource).outcome =
      session.contextOf source extraSource >>= Context.compileAll := by
  have hcontext := Document.gives_buildContext session.settings.compiler session.library
    session.validators source extraSource
  rw [contextOf, hcontext.outcome]
  exact (hcontext.bind fun ctx => Reporting.Gives.ofExcept ctx.compileAll).outcome

theorem outcome_compileDefinitions (h : session.contextOf source extraSource = .ok ctx) :
    (session.compileDefinitions source extraSource).outcome = ctx.compileAll := by
  rw [outcome_compileDefinitions_eq, h, ok_bind]

theorem exists_contextOf {compiled : List Compiled}
    (h : (session.compileDefinitions source extraSource).outcome = .ok compiled) :
    ∃ ctx, session.contextOf source extraSource = .ok ctx ∧ ctx.compileAll = .ok compiled := by
  rw [outcome_compileDefinitions_eq] at h
  exact exists_of_bind_eq_ok h

theorem settings_contextOf (h : session.contextOf source extraSource = .ok ctx) :
    ctx.settings = session.settings.compiler := by
  rw [contextOf_eq] at h
  obtain ⟨document, -, h⟩ := exists_of_bind_eq_ok h
  obtain ⟨extra, -, h⟩ := exists_of_bind_eq_ok h
  obtain ⟨declared, -, h⟩ := exists_of_bind_eq_ok h
  obtain ⟨version, -, h⟩ := exists_of_bind_eq_ok h
  obtain ⟨⟨whole, laid⟩, -, h⟩ := exists_of_bind_eq_ok h
  obtain ⟨extensions, validators, -, -, rfl⟩ := Document.equip_eq_ok_iff.mp h
  rfl

/-- The key of the extension blocks of a document. -/
def extensionKeyOf (session : Session) (document : Entries Data) : Except Fault String :=
  (Document.detectVersion document).outcome.map fun version =>
    Context.extensionKey { definitions := [], settings := session.settings.compiler, version }

theorem extensionKey_of_version {key : String} (hkey : session.extensionKeyOf document = .ok key)
    (hversion : (Document.detectVersion document).outcome = .ok ctx.version)
    (hsettings : ctx.settings = session.settings.compiler) : ctx.extensionKey = key := by
  rw [extensionKeyOf, hversion] at hkey
  cases hkey
  unfold Context.extensionKey Context.isLegacy
  rw [hsettings]

/-- A context is what a session gathers from a document to which no extension blocks are added. -/
structure Builds (session : Session) (document : Entries Data) (ctx : Context) : Prop where
  definitions : Document.definitionsOf document = .ok ctx.definitions
  settings : ctx.settings = session.settings.compiler
  version : (Document.detectVersion document).outcome = .ok ctx.version
  extensions : (Document.gatherExtensions ctx.extensionKey (Entries.value document ctx.extensionKey)
    ctx.definitions).run.run {} = (.ok (), ctx.extensions)
  validators : session.library.loadAll session.settings.compiler.validatorsBaseDir
    session.validators ctx.extensions.validatorPaths = .ok ctx.validators

/-- A context is what a session gathers from a document and the extension blocks that are added to
its definitions. -/
structure BuildsWith (session : Session) (document : Entries Data) (extra : Data) (ctx : Context) :
    Prop where
  definitions : ∃ declared, Document.definitionsOf document = .ok declared ∧
    Document.layExtra ctx.extensionKey declared extra = .ok ctx.definitions
  settings : ctx.settings = session.settings.compiler
  version : (Document.detectVersion document).outcome = .ok ctx.version
  extensions : (Document.gatherExtensions ctx.extensionKey
    (Entries.value (Document.withDefinitions document ctx.definitions) ctx.extensionKey)
    ctx.definitions).run.run {} = (.ok (), ctx.extensions)
  validators : session.library.loadAll session.settings.compiler.validatorsBaseDir
    session.validators ctx.extensions.validatorPaths = .ok ctx.validators

theorem contextOf_eq_ok_iff_buildsWith {extra : Data}
    (hdecode : Document.decode source = .ok document) (hsharing : source.sharing = none)
    (hextra : Document.decodeExtra extraSource = .ok extra) :
    session.contextOf source extraSource = .ok ctx ↔ session.BuildsWith document extra ctx := by
  rw [contextOf_eq, hdecode, hsharing, hextra, ok_bind, ok_bind]
  constructor
  · intro h
    obtain ⟨declared, hdeclared, h⟩ := exists_of_bind_eq_ok h
    obtain ⟨version, hversion, h⟩ := exists_of_bind_eq_ok h
    obtain ⟨x, hlay, h⟩ := exists_of_bind_eq_ok h
    obtain ⟨laid, hlaid, hx⟩ := exists_of_bind_eq_ok hlay
    cases hx
    obtain ⟨extensions, validators, hgathered, hload, rfl⟩ := Document.equip_eq_ok_iff.mp h
    exact ⟨⟨declared, hdeclared, hlaid⟩, rfl, hversion, hgathered, hload⟩
  · rintro ⟨⟨declared, hdeclared, hlaid⟩, hsettings, hversion, hgathered, hload⟩
    obtain ⟨laid, settings, version, extensions, validators⟩ := ctx
    cases hsettings
    exact bind_eq_ok hdeclared <| bind_eq_ok hversion <| bind_eq_ok (bind_eq_ok hlaid rfl) <|
      Document.equip_eq_ok_iff.mpr ⟨extensions, validators, hgathered, hload, rfl⟩

theorem buildsWith_null_iff :
    session.BuildsWith document .null ctx ↔ session.Builds document ctx := by
  constructor
  · rintro ⟨⟨definitions, hown, happlied⟩, hsettings, hversion, hgather, hload⟩
    cases happlied
    rw [Document.value_withDefinitions hown] at hgather
    exact ⟨hown, hsettings, hversion, hgather, hload⟩
  · rintro ⟨hown, hsettings, hversion, hgather, hload⟩
    refine ⟨⟨ctx.definitions, hown, rfl⟩, hsettings, hversion, ?_, hload⟩
    rw [Document.value_withDefinitions hown]
    exact hgather

theorem contextOf_eq_ok_iff (hdecode : Document.decode source = .ok document)
    (hsharing : source.sharing = none) :
    session.contextOf source .absent = .ok ctx ↔ session.Builds document ctx :=
  (contextOf_eq_ok_iff_buildsWith hdecode hsharing rfl).trans buildsWith_null_iff

end Session

def Data.at? : Place → Data → Option Data
  | [], d => some d
  | n :: rest, .map entries => entries[n]?.bind fun e => at? rest e.2
  | n :: rest, .list items => items[n]?.bind (at? rest)
  | n :: rest, .pair first second _ => at? rest (if n == 0 then first else second)
  | _ :: _, _ => none

private theorem mapIdx_eq_self {α : Type} {items : List α} {f : Nat → α → α}
    (h : ∀ n item, items[n]? = some item → f n item = item) : items.mapIdx f = items := by
  refine List.ext_getElem? fun n => ?_
  rw [List.getElem?_mapIdx]
  cases hitem : items[n]? with
  | none => rfl
  | some item => exact congrArg some (h n item hitem)

theorem Data.changeAt_eq_self {change : Entries Data → Entries Data} {place : Place} {d : Data}
    (h : ∀ own, d.at? place = some (.map own) → change own = own) :
    d.changeAt change place = d := by
  induction place generalizing d with
  | nil =>
    cases d with
    | map own => exact congrArg Data.map (h own rfl)
    | _ => rfl
  | cons n rest ih =>
    cases d with
    | map entries =>
      refine congrArg Data.map (mapIdx_eq_self fun k e he => ?_)
      split
      · next hk =>
        refine Prod.ext rfl (ih fun own hown => h own ?_)
        rw [at?, ← beq_iff_eq.mp hk, he]
        exact hown
      · rfl
    | list items =>
      refine congrArg Data.list (mapIdx_eq_self fun k item hitem => ?_)
      split
      · next hk =>
        refine ih fun own hown => h own ?_
        rw [at?, ← beq_iff_eq.mp hk, hitem]
        exact hown
      · rfl
    | pair first second origin =>
      simp only [at?] at h
      unfold changeAt
      split
      · next hn => rw [ih fun own hown => h own (by rw [if_pos hn, hown])]
      · next hn => rw [ih fun own hown => h own (by rw [if_neg hn, hown])]
    | _ => rfl

theorem Entries.get?_of_value_map {es entries : Entries Data} {name : String}
    (h : value es name = .map entries) : get? es (.text name) = some (.map entries) := by
  unfold value at h
  cases hget : get? es (.text name) with
  | none =>
    rw [hget] at h
    cases h
  | some d =>
    rw [hget] at h
    exact congrArg some h

theorem Entries.getElem?_findIdx {α : Type} {es : Entries α} {key : Scalar} {v : α}
    (h : get? es key = some v) :
    ∃ k, es[(keys es).findIdx fun k => k.same key]? = some (k, v) := by
  induction es with
  | nil => cases h
  | cons e rest ih =>
    obtain ⟨k, w⟩ := e
    rw [get?_cons] at h
    rw [keys, List.map_cons, List.findIdx_cons]
    cases hk : k.same key with
    | true =>
      rw [hk, if_pos rfl] at h
      cases h
      exact ⟨k, rfl⟩
    | false =>
      rw [hk, if_neg Bool.false_ne_true] at h
      exact ih h

namespace Document

variable {key : String} {document declared : Entries Data} {sharing : Sharing}

/-- The places of a group hold mappings with the same extension block. -/
def Shares (key : String) (document : Entries Data) (sharing : Sharing) : Prop :=
  ∀ group ∈ sharing, ∀ place ∈ group, ∀ other ∈ group, ∀ own own',
    (Data.map document).at? place = some (.map own) →
    (Data.map document).at? other = some (.map own') →
    Entries.get? own (.text key) = Entries.get? own' (.text key)

private theorem mem_of_head?_members {row k : Nat} {group : List Place}
    (h : (members row group).head? = some k) : [row, k] ∈ group := by
  obtain ⟨place, hplace, hk⟩ := List.mem_filterMap.mp (List.mem_of_mem_head? h)
  split at hk
  · next n k' =>
    split at hk
    · next hn =>
      cases hk
      rw [← beq_iff_eq.mp hn]
      exact hplace
    · cases hk
  · cases hk

private theorem foldl_eq_self {α β : Type} {f : α → β → α} {a : α} {bs : List β}
    (h : ∀ b ∈ bs, f a b = a) : bs.foldl f a = a := by
  induction bs with
  | nil => rfl
  | cons b rest ih =>
    obtain ⟨hfirst, hrest⟩ := List.forall_mem_cons.mp h
    rw [List.foldl_cons, hfirst, ih hrest]

def writeBlock (key : String) (definition : Data) (own : Entries Data) : Entries Data :=
  match definition with
  | .map entries =>
    match Entries.get? entries (.text key) with
    | some block => Entries.put own (.text key) block
    | none => own
  | _ => own

private theorem changeAt_shared (hshares : Shares key document sharing) {group : List Place}
    (hgroup : group ∈ sharing) {place other : Place} (hplace : place ∈ group)
    (hother : other ∈ group) {definition : Data}
    (hdefinition : (Data.map document).at? place = some definition) :
    (Data.map document).changeAt (writeBlock key definition) other = .map document := by
  refine Data.changeAt_eq_self fun own hown => ?_
  cases definition with
  | map entries =>
    have hsame := hshares group hgroup place hplace other hother entries own hdefinition hown
    simp only [writeBlock, hsame]
    cases hblock : Entries.get? own (.text key) with
    | none => rfl
    | some block => exact Entries.put_of_get? hblock
  | _ => rfl

/-- With no blocks added a document in which places hold one mapping stays as it is. -/
theorem gives_applyShared_null (hdeclared : definitionsOf document = .ok declared)
    (hshares : Shares key document sharing) :
    (applyShared sharing document declared .null key).Gives
      (.ok (Entries.put document (.text "definitions") (.map declared), declared)) := by
  have hspread : ∀ names : List (List Scalar), names.foldl spread [] = [] := fun names =>
    foldl_eq_self fun _ _ => rfl
  have hvalue : Entries.value (Entries.put document (.text "definitions") (.map declared))
      "definitions" = .map declared := by
    rw [Entries.value, Entries.get?_put_same, Option.getD_some]
  intro warnings
  have hentries : (Reporting.ofExcept (orMisuse
      (if Data.null.isTruthy then Data.null.toEntries else .ok []))).run.run warnings =
        (.ok [], warnings) := rfl
  have hlaid : (applyExtra declared (.map []) key).run.run warnings = (.ok declared, warnings) :=
    rfl
  unfold applyShared
  rw [Reporting.run_bind, hentries]
  dsimp only
  rw [hspread, Reporting.run_bind, hlaid]
  have hcopies : (Entries.value [] "default").isTruthy = false := rfl
  simp only [hcopies, Bool.false_eq_true, if_false]
  rw [foldl_eq_self fun group hgroup => ?_]
  · dsimp only
    rw [hvalue]
    rfl
  · split
    · next k definition hfound =>
      -- There is a definition, so that the document declares some, at the place that was found.
      obtain ⟨n, hn, hdefinition⟩ := Option.bind_eq_some_iff.mp hfound
      have htruthy : (Entries.value document "definitions").isTruthy = true := by
        by_contra hfalsy
        rw [definitionsOf_of_falsy (Bool.eq_false_iff.mpr hfalsy)] at hdeclared
        cases hdeclared
        cases hdefinition
      have hown := Entries.get?_of_value_map (value_of_definitionsOf hdeclared htruthy)
      obtain ⟨word, hrow⟩ := Entries.getElem?_findIdx hown
      rw [Entries.put_of_get? hown]
      refine foldl_eq_self fun place hplace => ?_
      refine changeAt_shared hshares hgroup (mem_of_head?_members hn) hplace ?_
      simp only [Data.at?, hrow, Option.bind_some, hdefinition]
    · rfl

end Document

namespace Session

open Document

variable {session : Session} {source : Source} {document : Entries Data} {key : String}

/-- Where no blocks are added, a document in which places hold one mapping is taken in like one in
which they hold the same. -/
theorem contextOf_of_shares (hdecode : decode source = .ok document)
    (hkey : session.extensionKeyOf document = .ok key) (hne : key ≠ "definitions")
    (hshares : ∀ sharing, source.sharing = some sharing → Shares key document sharing) :
    session.contextOf source .absent = session.contextOf (.data (.map document)) .absent := by
  have hdata : decode (.data (.map document)) = .ok document := rfl
  have hextra : decodeExtra .absent = .ok .null := rfl
  rw [contextOf_eq, contextOf_eq, hdecode, hdata, hextra]
  simp only [ok_bind]
  cases hdeclared : definitionsOf document with
  | error fault => rfl
  | ok declared =>
    cases hversion : (detectVersion document).outcome with
    | error fault => rfl
    | ok version =>
      cases hsharing : source.sharing with
      | none => rfl
      | some sharing =>
        rw [extensionKeyOf, hversion] at hkey
        cases hkey
        have hshared := (gives_applyShared_null hdeclared (hshares sharing hsharing)).outcome
        have hvalue : ∀ bare : Context, bare.extensionKey ≠ "definitions" →
            equip bare session.library (Entries.put document (.text "definitions") (.map declared))
              declared =
            equip bare session.library (withDefinitions document declared) declared := by
          intro bare hbare
          unfold equip
          rw [Entries.value_put_other hbare, value_withDefinitions hdeclared]
        simp only [ok_bind, layOn]
        refine (congrArg (· >>= fun x => equip _ session.library x.1 x.2) hshared).trans ?_
        exact hvalue _ hne

/-- A document whose version cannot be read, or in which the places that are one mapping hold the
same, is taken in like one without such places. -/
theorem contextOf_data (hdecode : decode source = .ok document)
    (hshares : ∀ sharing, source.sharing = some sharing → Shares key document sharing)
    (hne : key ≠ "definitions")
    (hkey : ∀ found, session.extensionKeyOf document = .ok found → found = key) :
    session.contextOf source .absent = session.contextOf (.data (.map document)) .absent := by
  cases hfound : session.extensionKeyOf document with
  | ok found =>
    rw [hkey found hfound] at hfound
    exact contextOf_of_shares hdecode hfound hne hshares
  | error fault =>
    have hdata : decode (.data (.map document)) = .ok document := rfl
    have hextra : decodeExtra .absent = .ok .null := rfl
    rw [contextOf_eq, contextOf_eq, hdecode, hdata, hextra]
    simp only [ok_bind]
    cases hversion : (detectVersion document).outcome with
    | error fault => cases definitionsOf document <;> rfl
    | ok version =>
      rw [extensionKeyOf, hversion] at hfound
      cases hfound

/-- The context of a document in which places that are one mapping hold the same is what the session
gathers from it, and has the extension key of the document. -/
theorem builds_of_contextOf {ctx : Context} (hdecode : decode source = .ok document)
    (hshares : ∀ sharing, source.sharing = some sharing → Shares key document sharing)
    (hne : key ≠ "definitions")
    (hkey : ∀ found, session.extensionKeyOf document = .ok found → found = key)
    (hctx : session.contextOf source .absent = .ok ctx) :
    session.Builds document ctx ∧ ctx.extensionKey = key := by
  rw [contextOf_data hdecode hshares hne hkey] at hctx
  have hbuilds := (contextOf_eq_ok_iff rfl rfl).mp hctx
  refine ⟨hbuilds, ?_⟩
  have hok : ∃ found, session.extensionKeyOf document = .ok found := by
    rw [extensionKeyOf, hbuilds.version]
    exact ⟨_, rfl⟩
  obtain ⟨found, hok⟩ := hok
  rw [extensionKey_of_version hok hbuilds.version hbuilds.settings, hkey found hok]

end Session

end StoreSchema
