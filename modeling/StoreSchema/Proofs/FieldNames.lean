import StoreSchema.Proofs.Meaning
import StoreSchema.Proofs.Shapes

/-!
What the name of a field means for an inline object.

The fields of an inline object are compiled with the name of the field that the object stands in as
their owner, so that a reference from one of them to a definition of that name is taken for one back
to the definition that is being compiled. Main statement of this module: that is all that the name
of the field changes, but for the owner that the fault of a field that is no mapping names.
-/

set_option autoImplicit false

namespace StoreSchema

namespace Shape

/-- The definition that a property refers to, its default left aside. -/
def target? : Shape → Option String
  | .reference target _ => some target
  | .withDefault shape _ => shape.target?
  | _ => none

def refused? : Shape → Option Data
  | .notMapping value => some value
  | .withDefault shape _ => shape.refused?
  | _ => none

def declared : Shape → List (Scalar × Shape)
  | .fields _ members => members
  | _ => []

end Shape

/-- Two outcomes are the same, or both are the fault of a field that is no mapping, each with the
owner that the field has there. -/
def SameUnder (owner owner' : Scalar) (α : Type) (a b : Except Fault α) : Prop :=
  a = b ∨ ∃ name value, a = .error (.propertyNotMapping name owner value) ∧
    b = .error (.propertyNotMapping name owner' value)

namespace Compile

/-- From any progress two steps leave the same behind, and end in outcomes that compare. -/
def Matches (cmp : (α : Type) → Except Fault α → Except Fault α → Prop) (α : Type)
    (x y : Compile α) : Prop :=
  ∀ p, cmp α (x.outcome p) (y.outcome p) ∧ x.after p = y.after p

theorem matches_refl (owner owner' : Scalar) {α : Type} (x : Compile α) :
    Matches (SameUnder owner owner') α x x :=
  fun _ => ⟨Or.inl rfl, rfl⟩

theorem sequential_matches (owner owner' : Scalar) :
    Sequential (Matches (SameUnder owner owner')) where
  value _ := matches_refl _ _ _
  fault _ := matches_refl _ _ _
  step {_ _ x y f g} hx hf p := by
    obtain ⟨hout, hafter⟩ := hx p
    rcases hout with hout | ⟨name, value, hout, hout'⟩
    · cases hval : y.outcome p with
      | ok v =>
        rw [hval] at hout
        rw [outcome_bind, outcome_bind, hout, hval, ok_bind, ok_bind, after_bind_ok f hout,
          after_bind_ok g hval, hafter]
        exact hf v _
      | error fault =>
        rw [hval] at hout
        rw [outcome_bind, outcome_bind, hout, hval, after_bind_error f hout,
          after_bind_error g hval]
        exact ⟨Or.inl rfl, hafter⟩
    · rw [outcome_bind, outcome_bind, hout, hout', after_bind_error f hout,
        after_bind_error g hout']
      exact ⟨Or.inr ⟨name, value, rfl, rfl⟩, hafter⟩

end Compile

namespace Context

section Owner

variable {ctx : Context} {m : Type → Type} [Monad m] [MonadExceptOf Fault m]
  {R : (α : Type) → m α → m α → Prop} {resolve : Resolve m} {owner owner' : Scalar}

theorem compileShape_owner (hR : Sequential R) (hrefl : ∀ {α : Type} (x : m α), R α x x)
    (field : Scalar) (required : Data) (shape : Shape)
    (hrefused : ∀ value, shape.refused? = some value →
      R (Option Value) (throw (.propertyNotMapping field owner value))
        (throw (.propertyNotMapping field owner' value)))
    (hreference : ∀ target many, shape.target? = some target →
      R _ (resolve owner field target many) (resolve owner' field target many)) :
    R _ (ctx.compileShape resolve owner field required shape)
      (ctx.compileShape resolve owner' field required shape) := by
  match shape with
  | .notMapping value =>
    simp only [compileShape]
    exact hrefused value rfl
  | .reference target many =>
    simp only [compileShape]
    exact hR.step (hreference target many rfl) fun _ => hR.value _
  | .withDefault shape _ =>
    simp only [compileShape]
    exact hR.step (compileShape_owner hR hrefl field required shape hrefused hreference)
      fun _ => hR.value _
  | .endless | .noFields | .malformed _ | .composed | .override _ _ _ | .typed _ _
  | .fields _ _ =>
    simp only [compileShape]
    exact hrefl _

theorem compileMembers_owner (hR : Sequential R) (hrefl : ∀ {α : Type} (x : m α), R α x x)
    (required : Data) {members : List (Scalar × Shape)}
    (hrefused : ∀ e ∈ members, ∀ value, e.2.refused? = some value →
      R (Option Value) (throw (.propertyNotMapping e.1 owner value))
        (throw (.propertyNotMapping e.1 owner' value)))
    (hreference : ∀ e ∈ members, ctx.isReserved e.1 = false → ∀ target many,
      e.2.target? = some target →
        R _ (resolve owner e.1 target many) (resolve owner' e.1 target many)) :
    R _ (ctx.compileMembers resolve owner required members)
      (ctx.compileMembers resolve owner' required members) := by
  induction members with
  | nil =>
    simp only [compileMembers]
    exact hR.value _
  | cons e rest ih =>
    obtain ⟨name, shape⟩ := e
    obtain ⟨hrefused, hrefused'⟩ := List.forall_mem_cons.mp hrefused
    obtain ⟨hreference, hreference'⟩ := List.forall_mem_cons.mp hreference
    simp only [compileMembers]
    refine hR.step ?_ fun v => hR.step (ih hrefused' hreference') fun _ => hrefl _
    cases hname : ctx.isReserved name with
    | true => exact hR.value none
    | false =>
      exact compileShape_owner hR hrefl name required shape hrefused (hreference hname)

end Owner

section Meets

variable (ctx : Context) (kind : (owner field : Scalar) → (target : String) → Prop)

mutual
/-- Every reference that compiling the shape meets, under a field of an owner, is of a kind. -/
def Meets (owner field : Scalar) : Shape → Prop
  | .reference target _ => kind owner field target
  | .fields _ members => MeetsEach field members
  | .withDefault shape _ => Meets owner field shape
  | _ => True

def MeetsEach (owner : Scalar) : List (Scalar × Shape) → Prop
  | [] => True
  | (name, shape) :: rest =>
    (ctx.isReserved name = false → Meets owner name shape) ∧ MeetsEach owner rest
end

mutual
theorem meets_any (owner field : Scalar) (shape : Shape) :
    ctx.Meets (fun _ _ _ => True) owner field shape := by
  match shape with
  | .notMapping _ | .endless | .noFields | .malformed _ | .composed | .override _ _ _ | .typed _ _
  | .reference _ _ => simp only [Meets]
  | .fields _ members => exact meetsEach_any field members
  | .withDefault shape _ => exact meets_any owner field shape

private theorem meetsEach_any (owner : Scalar) (members : List (Scalar × Shape)) :
    ctx.MeetsEach (fun _ _ _ => True) owner members := by
  match members with
  | [] => trivial
  | (name, shape) :: rest => exact ⟨fun _ => meets_any owner name shape, meetsEach_any owner rest⟩
end

variable {ctx kind} {m : Type → Type} [Monad m] [MonadExceptOf Fault m]
  {resolve resolve' : Resolve m}

mutual
/-- Nothing else matters of how references are treated than how those are that are met. -/
theorem compileShape_meets
    (hresolve : ∀ owner field target many, kind owner field target → ctx.isReserved field = false →
      resolve owner field target many = resolve' owner field target many)
    (owner field : Scalar) (required : Data) (hfield : ctx.isReserved field = false) (shape : Shape)
    (hshape : ctx.Meets kind owner field shape) :
    ctx.compileShape resolve owner field required shape =
      ctx.compileShape resolve' owner field required shape := by
  match shape with
  | .notMapping _ | .endless | .noFields | .malformed _ | .composed | .override _ _ _
  | .typed _ _ => simp only [compileShape]
  | .reference target many =>
    have hsame := hresolve owner field target many hshape hfield
    simp only [compileShape, hsame]
  | .fields inner members =>
    have hsame := compileMembers_meets hresolve field inner members hshape
    simp only [compileShape, hsame]
  | .withDefault shape _ =>
    have hsame := compileShape_meets hresolve owner field required hfield shape hshape
    simp only [compileShape, hsame]

theorem compileMembers_meets
    (hresolve : ∀ owner field target many, kind owner field target → ctx.isReserved field = false →
      resolve owner field target many = resolve' owner field target many)
    (owner : Scalar) (required : Data) (members : List (Scalar × Shape))
    (hmembers : ctx.MeetsEach kind owner members) :
    ctx.compileMembers resolve owner required members =
      ctx.compileMembers resolve' owner required members := by
  match members with
  | [] => simp only [compileMembers]
  | (name, shape) :: rest =>
    have hrest := compileMembers_meets hresolve owner required rest hmembers.2
    simp only [compileMembers, hrest]
    cases hname : ctx.isReserved name with
    | true => rfl
    | false =>
      have hfirst := hmembers.1 hname
      have hsame := compileShape_meets hresolve owner name required hname shape hfirst
      simp only [hsame]
end

end Meets

section Foreign

variable (ctx : Context)

/-- Nothing is registered under the target, or the owner is not named as it. -/
def ForeignTo (owner : Scalar) (target : String) : Prop :=
  ctx.hasDefinition (.text target) = true → owner ≠ .text target

def following {m : Type → Type} [Monad m] [MonadExceptOf Fault m] (embed : Embed m) : Resolve m :=
  fun _ field target many => do
    let _ ← Compile.ofExcept (ctx.requireDefinition (.text target))
    embed field target many

variable {ctx} {owner owner' : Scalar} {target : String}

theorem ForeignTo.not_same (h : ctx.ForeignTo owner target) {name : Scalar}
    (hrequire : ctx.requireDefinition (.text target) = .ok name) :
    owner.same (.text target) = false := by
  rw [Bool.eq_false_iff, Ne, Scalar.same_text]
  exact h (hasDefinition_of_requireDefinition hrequire)

/-- No reference is taken for one back to an owner that is not named as what it leads to. -/
theorem resolve_of_foreign (howner : ctx.ForeignTo owner target)
    (howner' : ctx.ForeignTo owner' target) (embed : Embed Compile) (field : Scalar) (many : Bool) :
    ctx.resolve embed owner field target many = ctx.resolve embed owner' field target many := by
  unfold resolve
  cases hrequire : ctx.requireDefinition (.text target) with
  | error fault => rfl
  | ok name => simp only [isSelfReference, howner.not_same hrequire, howner'.not_same hrequire]

theorem resolve_eq_following (hguard : ctx.settings.detectCycles = false)
    (howner : ctx.ForeignTo owner target) (embed : Embed Compile) (field : Scalar) (many : Bool) :
    ctx.resolve embed owner field target many = ctx.following embed owner field target many := by
  unfold resolve following
  cases hrequire : ctx.requireDefinition (.text target) with
  | error fault => rfl
  | ok name =>
    simp only [isSelfReference, howner.not_same hrequire, hguard, Bool.false_and, Bool.or_self,
      Bool.false_eq_true, if_false]
    rfl

end Foreign

section Renamed

variable {ctx : Context} {entries : Entries Data} {field field' : Scalar}

/-- An object's own fields, less the reserved ones, do not refer to a definition that is named as
the field that the object stands in. -/
def ApartFrom (ctx : Context) (field : Scalar) (entries : Entries Data) : Prop :=
  ∀ e ∈ (Shape.ofNode ctx.extensionKey entries).declared, ctx.isReserved e.1 = false →
    ∀ target, e.2.target? = some target → ctx.ForeignTo field target

private theorem compileShape_ofNode (hfield : ctx.ApartFrom field entries)
    (hfield' : ctx.ApartFrom field' entries) (embed : Embed Compile) (owner : Scalar) :
    Compile.Matches (SameUnder field field') _
      (ctx.compileShape (ctx.resolve embed) owner field .null
        (Shape.ofNode ctx.extensionKey entries))
      (ctx.compileShape (ctx.resolve embed) owner field' .null
        (Shape.ofNode ctx.extensionKey entries)) := by
  have hR := Compile.sequential_matches field field'
  unfold ApartFrom at hfield hfield'
  rcases Shape.ofNode_cases ctx.extensionKey entries with
    ⟨members, hnode⟩ | ⟨type, hnode⟩ | hnode | hnode
  · rw [hnode] at hfield hfield' ⊢
    simp only [compileShape]
    refine hR.step ?_ fun fields => hR.value _
    refine compileMembers_owner hR (Compile.matches_refl _ _) _ ?_ ?_
    · exact fun e _ value _ p => ⟨Or.inr ⟨e.1, value, rfl, rfl⟩, rfl⟩
    · intro e he hopen target many htarget
      rw [resolve_of_foreign (hfield e he hopen target htarget) (hfield' e he hopen target htarget)]
      exact Compile.matches_refl _ _ _
  all_goals
    rw [hnode]
    simp only [compileShape]
    exact Compile.matches_refl _ _ _

/-- An inline object compiles to the same under two fields if none of its own fields refers to a
definition that is named as one of them. Without the guard every reference inside it is followed,
if that holds of the objects inside it as well. -/
theorem compileProperty_renamed (hform : Form.ofEntries ctx.extensionKey entries = .embedded)
    (hopen : ctx.isReserved field = false) (hopen' : ctx.isReserved field' = false)
    (hfield : ctx.ApartFrom field entries) (hfield' : ctx.ApartFrom field' entries)
    (owner : Scalar) (p : Progress) :
    SameUnder field field' _
        ((ctx.compileProperty (.map entries) field .null owner).outcome p)
        ((ctx.compileProperty (.map entries) field' .null owner).outcome p) ∧
      (ctx.settings.detectCycles = false →
        ctx.Meets (fun owner _ target => ctx.ForeignTo owner target) owner field
            (Shape.ofNode ctx.extensionKey entries) →
          ctx.compileProperty (.map entries) field .null owner =
            ctx.compilePropertyWith
              (ctx.following (ctx.embed Compile.within ctx.referenceBound)) (.map entries) field
              .null owner) := by
  have hR := Compile.sequential_matches field field'
  have hshape : Shape.ofProperty ctx.extensionKey (.map entries) =
      Shape.withDefaultOf entries (Shape.ofNode ctx.extensionKey entries) := by
    rw [Shape.ofProperty_map, hform]
  simp only [compileProperty, compilePropertyWith, hopen, hopen', Bool.false_eq_true, if_false,
    hshape, Shape.withDefaultOf]
  constructor
  · have hnode := compileShape_ofNode hfield hfield'
      (ctx.embed Compile.within ctx.referenceBound) owner
    split
    · simp only [compileShape]
      exact (hR.step hnode (fun _ => hR.value _) p).1
    · exact (hnode p).1
  · intro hguard hmeets
    have hfollowed : ∀ owner field target many, ctx.ForeignTo owner target →
        ctx.isReserved field = false →
          ctx.resolve (ctx.embed Compile.within ctx.referenceBound) owner field target many =
            ctx.following (ctx.embed Compile.within ctx.referenceBound) owner field target many :=
      fun owner field target many hkind _ => resolve_eq_following hguard hkind _ field many
    have hnode := compileShape_meets hfollowed owner field .null hopen _ hmeets
    split
    · simp only [compileShape, resolveInRun, hnode]
    · exact hnode

end Renamed

section Barter

/-- A definition, and an inline object that refers to it. -/
def barter : Context where
  definitions := [(.text "User", .map user)]
where
  /-- The entries of a node with one property. -/
  declaring (field : String) (property : Data) : Entries Data :=
    [(.text "type", .text "object"), (.text "properties", .map [(.text field, property)])]
  user : Entries Data := declaring "name" (.map [(.text "type", .text "string")])
  party : Entries Data := declaring "x" (.map [(.text "$ref", .text "#/definitions/User")])

private theorem ofNode_party :
    Shape.ofNode "_mongoose" barter.party =
      .fields .null [(.text "x", .reference "User" false)] :=
  Shape.ofNode_of_property rfl (Shape.ofProperty_pointer (by decide) rfl)

private theorem embedAt_user (depth : Nat) :
    barter.embedAt (depth + 1) [] (.text "x") "User" false =
      .ok (some (.embedded [(.text "name", .map [(.text "type", .type .text)])])) := by
  have hnode : barter.normalForm (.text "User") = .ok (.map barter.user) := rfl
  have hkey : barter.extensionKey = "_mongoose" := rfl
  have hfields : Shape.ofNode "_mongoose" barter.user =
      .fields .null [(.text "name", .typed (.ok (.scalar .text)) none)] :=
    Shape.ofNode_of_property rfl (Shape.ofProperty_string (by decide))
  simp only [embedAt, hnode, ok_bind]
  rw [compileTarget_map, if_pos (by decide), if_neg (by decide), compileSetWith_map rfl, hkey,
    hfields]
  rfl

private theorem compileProperty_party (field : Scalar) :
    (barter.compileProperty (.map barter.party) field .null (.text "Order")).outcome {} =
      barter.compilePropertyWith (barter.meaning []) (.map barter.party) field .null
        (.text "Order") :=
  (compileProperty_yields [] _ _ _ _ {} rfl (remembers_start [])).1

private theorem ofProperty_party :
    Shape.ofProperty barter.extensionKey (.map barter.party) =
      .fields .null [(.text "x", .reference "User" false)] := by
  have hkey : barter.extensionKey = "_mongoose" := rfl
  have hform : Form.ofEntries "_mongoose" barter.party = .embedded := rfl
  rw [hkey, Shape.ofProperty_map, hform, ofNode_party]
  rfl

theorem party_of_buyer :
    (barter.compileProperty (.map barter.party) (.text "buyer") .null (.text "Order")).outcome
        {} =
      .ok (some (.embedded
        [(.text "x", .embedded [(.text "name", .map [(.text "type", .type .text)])])])) := by
  have hembed : barter.embedAt barter.referenceBound [] (.text "x") "User" false =
      .ok (some (.embedded [(.text "name", .map [(.text "type", .type .text)])])) :=
    embedAt_user 3
  have hx : barter.meaning [] (.text "buyer") (.text "x") "User" false =
      .ok (some (.embedded [(.text "name", .map [(.text "type", .type .text)])])) := by
    rw [← hembed]
    rfl
  have hopen : barter.isReserved (.text "buyer") = false := rfl
  have hopen' : barter.isReserved (.text "x") = false := rfl
  rw [compileProperty_party, compilePropertyWith, hopen, if_neg Bool.false_ne_true,
    ofProperty_party]
  simp only [compileShape, compileMembers, hopen', Bool.false_eq_true, if_false, hx, ok_bind]
  rfl

theorem party_of_user :
    (barter.compileProperty (.map barter.party) (.text "User") .null (.text "Order")).outcome
        {} =
      .ok (some (.embedded [(.text "x", Value.referenceTo "User" true)])) := by
  have hopen : barter.isReserved (.text "User") = false := rfl
  rw [compileProperty_party, compilePropertyWith, hopen, if_neg Bool.false_ne_true,
    ofProperty_party]
  rfl

/-- The name of its field changes what an inline object compiles to. -/
theorem party_depends_on_field :
    barter.settings.detectCycles = false ∧ barter.isReserved (.text "User") = false ∧
      barter.isReserved (.text "buyer") = false ∧
      (barter.compileProperty (.map barter.party) (.text "User") .null (.text "Order")).outcome
          {} ≠
        (barter.compileProperty (.map barter.party) (.text "buyer") .null
          (.text "Order")).outcome {} := by
  refine ⟨rfl, rfl, rfl, ?_⟩
  rw [party_of_user, party_of_buyer]
  intro h
  cases h

private theorem apartFrom_party {field : String} (hfield : field ≠ "User") :
    barter.ApartFrom (.text field) barter.party := by
  have hkey : barter.extensionKey = "_mongoose" := rfl
  intro e he _ target htarget _
  rw [hkey, ofNode_party] at he
  rw [List.mem_singleton.mp he] at htarget
  cases htarget
  intro hsame
  injection hsame with hsame
  exact hfield hsame

/-- In the fields of a buyer and of a seller the inline object compiles to the same, and the
reference in it is followed. -/
theorem party_of_traders :
    SameUnder (.text "buyer") (.text "seller") _
        ((barter.compileProperty (.map barter.party) (.text "buyer") .null
          (.text "Order")).outcome {})
        ((barter.compileProperty (.map barter.party) (.text "seller") .null
          (.text "Order")).outcome {}) ∧
      barter.compileProperty (.map barter.party) (.text "buyer") .null (.text "Order") =
        barter.compilePropertyWith
          (barter.following (barter.embed Compile.within barter.referenceBound))
          (.map barter.party) (.text "buyer") .null (.text "Order") := by
  have hkey : barter.extensionKey = "_mongoose" := rfl
  have hform : Form.ofEntries barter.extensionKey barter.party = .embedded := rfl
  have hbuyer : barter.isReserved (.text "buyer") = false := rfl
  have hseller : barter.isReserved (.text "seller") = false := rfl
  obtain ⟨hsame, hfollowed⟩ := compileProperty_renamed hform hbuyer hseller
    (apartFrom_party (by decide)) (apartFrom_party (by decide)) (.text "Order") {}
  refine ⟨hsame, hfollowed rfl ?_⟩
  rw [hkey, ofNode_party]
  refine ⟨fun _ _ hbuyer => ?_, trivial⟩
  injection hbuyer with hbuyer
  exact absurd hbuyer (by decide)

end Barter

end Context

end StoreSchema
