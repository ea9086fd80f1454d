import StoreSchema.Proofs.JsonNumbers
import StoreSchema.Proofs.JsonStrings

set_option autoImplicit false

namespace StoreSchema.Json

variable {l m r : List Char}

/-! ### What the grammar leaves -/

def Leaves (l r : List Char) : Prop := r <:+ l ∧ r.length < l.length

theorem Leaves.cons (h : r <:+ l) (c : Char) : Leaves (c :: l) r := by
  have hlength := h.length_le
  refine ⟨h.trans (List.suffix_cons _ _), ?_⟩
  rw [List.length_cons]
  omega

theorem Leaves.of_suffix (h : Leaves m r) (hsuffix : m <:+ l) : Leaves l r := by
  have hlength := hsuffix.length_le
  obtain ⟨hr, hshorter⟩ := h
  exact ⟨hr.trans hsuffix, by omega⟩

theorem Leaves.of_blanks {c : Char} (h : Blanks l (c :: r)) : Leaves l r :=
  (Leaves.cons (List.suffix_refl r) c).of_suffix h.suffix

theorem leaves_append {s : List Char} (hs : s ≠ []) (r : List Char) : Leaves (s ++ r) r := by
  have hpos := List.length_pos_iff.mpr hs
  refine ⟨List.suffix_append _ _, ?_⟩
  rw [List.length_append]
  omega

theorem Chars.suffix (h : Chars l r) : r <:+ l := by
  induction h with
  | close => exact List.suffix_cons _ _
  | plain _ _ _ _ ih => exact ih.trans (List.suffix_cons _ _)
  | letter _ _ ih => exact ih.trans ⟨['\\', _], rfl⟩
  | unit _ _ _ _ _ ih => exact ih.trans ⟨['\\', 'u', _, _, _, _], rfl⟩

theorem Name.leaves (h : Name l r) : Leaves l r := by
  obtain ⟨hname, hcolon, hblanks⟩ := h
  exact .cons (hblanks.suffix.trans ((Leaves.of_blanks hcolon).1.trans hname.suffix)) _

mutual
theorem Value.leaves {l r : List Char} (h : Value l r) : Leaves l r := by
  match h with
  | .word hword =>
    simp only [literals, List.mem_cons, List.not_mem_nil, or_false] at hword
    rcases hword with rfl | rfl | rfl | rfl | rfl | rfl
    all_goals exact leaves_append (List.cons_ne_nil _ _) r
  | .number hnumber =>
    obtain ⟨sign, d, more, rfl, -⟩ := hnumber.head
    refine leaves_append (fun h => ?_) r
    cases sign <;> cases h
  | .string h => exact .cons h.suffix _
  | .emptyList h => exact .cons ((List.suffix_cons _ _).trans h.suffix) _
  | .list h => exact .cons h.leaves.1 _
  | .emptyObject h => exact .cons ((List.suffix_cons _ _).trans h.suffix) _
  | .object h => exact .cons h.leaves.1 _

theorem Items.leaves {l r : List Char} (h : Items l r) : Leaves l r := by
  match h with
  | .last hbefore h hafter =>
    exact ((Leaves.of_blanks hafter).of_suffix h.leaves.1).of_suffix hbefore.suffix
  | .more hbefore h hafter hmore =>
    have hcomma := (Leaves.of_blanks hafter).1
    exact (hmore.leaves.of_suffix (hcomma.trans h.leaves.1)).of_suffix hbefore.suffix

theorem Members.leaves {l r : List Char} (h : Members l r) : Leaves l r := by
  match h with
  | .last hbefore hname h hafter =>
    have hvalue := h.leaves.1.trans hname.leaves.1
    exact ((Leaves.of_blanks hafter).of_suffix hvalue).of_suffix hbefore.suffix
  | .more hbefore hname h hafter hmore =>
    have hcomma := (Leaves.of_blanks hafter).1
    have hvalue := h.leaves.1.trans hname.leaves.1
    exact (hmore.leaves.of_suffix (hcomma.trans hvalue)).of_suffix hbefore.suffix
end

theorem Items.blanks (h : Items m r) (hblanks : Blanks l m) : Items l r := by
  cases h with
  | last hbefore h hafter => exact .last (hblanks.trans hbefore) h hafter
  | more hbefore h hafter hmore => exact .more (hblanks.trans hbefore) h hafter hmore

theorem Members.blanks (h : Members m r) (hblanks : Blanks l m) : Members l r := by
  cases h with
  | last hbefore hname h hafter => exact .last (hblanks.trans hbefore) hname h hafter
  | more hbefore hname h hafter hmore => exact .more (hblanks.trans hbefore) hname h hafter hmore

/-! ### Reading ends as the grammar says -/

theorem blanks_skipSpace (c : Cursor) : Blanks c.rest c.skipSpace.rest := by
  rw [Cursor.rest_skipSpace]
  exact blanks_dropWhile c.rest

theorem rest_advance_one {c : Cursor} {x : Char} (h : c.rest = x :: l) :
    (c.advance 1).rest = l := by
  rw [Cursor.rest_advance, h]
  rfl

theorem blanks_after {c : Cursor} {x : Char} (h : c.rest = x :: l) :
    Blanks l (c.advance 1).skipSpace.rest := by
  have hblanks := blanks_skipSpace (c.advance 1)
  rw [rest_advance_one h] at hblanks
  exact hblanks

theorem ends_readName (c : Cursor) (depth : Nat) : Ends Name depth c.rest (readName c) := by
  unfold readName
  split
  · next rest hrest =>
    have hname := ends_readString (c.advance 1) depth
    rw [rest_advance_one hrest] at hname
    rw [hrest]
    have hlater : Ends (fun _ r => Chars rest r) depth ('"' :: rest) (readString (c.advance 1)) :=
      hname.later (List.suffix_cons _ _) fun r hr => hr
    refine hlater.bind fun name after hafter => ?_
    dsimp only
    have hblanks := blanks_skipSpace after
    split
    · next b hcolon =>
      rw [hcolon] at hblanks
      exact .ok (.mk hafter hblanks (blanks_after hcolon))
    · exact .malformed _ _
  · exact .malformed _ _

theorem openings_cons {x : Char} (hx : x = '[' ∨ x = '{') (l : List Char) :
    openings (x :: l) = openings l + 1 := by
  rcases hx with rfl | rfl
  · exact List.countP_cons_of_pos rfl
  · exact List.countP_cons_of_pos rfl

section Fuel

def ReadsValues (fuel : Nat) : Prop :=
  ∀ depth c, 2 * c.rest.length < fuel → Ends Value depth c.rest (readValue depth c fuel)

def ReadsMembers (fuel : Nat) : Prop :=
  ∀ depth read c, 2 * c.rest.length < fuel →
    Ends Members depth c.rest (readMembers depth read c fuel)

def ReadsItems (fuel : Nat) : Prop :=
  ∀ depth read c, 2 * c.rest.length + 1 < fuel →
    Ends Items depth c.rest (readItems depth read c fuel)

variable {fuel : Nat}

private theorem ends_inside {reads : List Char → List Char → Prop} {depth : Nat} {x : Char}
    {outcome : Except Fault (Data × Cursor)} (hx : x = '[' ∨ x = '{') (hblanks : Blanks l m)
    (h : Ends reads depth m outcome) (hreads : ∀ r, reads m r → Value (x :: l) r) :
    Ends Value (depth + 1) (x :: l) outcome := by
  have hopenings := openings_le_of_suffix hblanks.suffix
  refine h.of_suffix (hblanks.suffix.trans (List.suffix_cons _ _)) ?_ hreads
  rw [openings_cons hx]
  omega

theorem ReadsValues.succ (hmembers : ReadsMembers fuel) (hitems : ReadsItems fuel) :
    ReadsValues (fuel + 1) := by
  intro depth c hfuel
  unfold readValue
  split
  · next rest hrest =>
    have hstring := ends_readString (c.advance 1) depth
    rw [rest_advance_one hrest] at hstring
    rw [hrest]
    refine (hstring.later (List.suffix_cons _ _) fun r hr => Value.string hr).bind
      fun s after hafter => .ok hafter
  · next rest hrest =>
    have hinner := blanks_after hrest
    have hlength := hinner.suffix.length_le
    rw [hrest, List.length_cons] at hfuel
    rw [hrest]
    cases depth with
    | zero => exact .tooDeep (by rw [openings_cons (Or.inr rfl)]; omega)
    | succ depth =>
      dsimp only
      split
      · next b hb =>
        rw [hb] at hinner
        refine .ok ?_
        rw [rest_advance_one hb]
        exact .emptyObject hinner
      · exact ends_inside (Or.inr rfl) hinner (hmembers depth [] _ (by omega))
          fun r hr => .object (hr.blanks hinner)
  · next rest hrest =>
    have hinner := blanks_after hrest
    have hlength := hinner.suffix.length_le
    rw [hrest, List.length_cons] at hfuel
    rw [hrest]
    cases depth with
    | zero => exact .tooDeep (by rw [openings_cons (Or.inl rfl)]; omega)
    | succ depth =>
      dsimp only
      split
      · next b hb =>
        rw [hb] at hinner
        refine .ok ?_
        rw [rest_advance_one hb]
        exact .emptyList hinner
      · exact ends_inside (Or.inl rfl) hinner (hitems depth [] _ (by omega))
          fun r hr => .list (hr.blanks hinner)
  · refine (ends_readAtom c depth).imp fun r hr => ?_
    rcases hr with ⟨w, hw, heq⟩ | ⟨s, hs, heq⟩
    · rw [heq]
      exact .word hw
    · rw [heq]
      exact .number hs

theorem ReadsMembers.succ (hvalues : ReadsValues fuel) (hmembers : ReadsMembers fuel) :
    ReadsMembers (fuel + 1) := by
  intro depth read c hfuel
  unfold readMembers
  refine (ends_readName c depth).bind fun name start hname => ?_
  have hstart := hname.leaves
  have hvalue : Ends (fun _ r => Value start.rest r) depth c.rest (readValue depth start fuel) :=
    (hvalues depth start (by have := hstart.2; omega)).later hstart.1 fun r hr => hr
  refine hvalue.bind fun value after hafter => ?_
  dsimp only
  have hblanks := blanks_skipSpace after
  split
  · next b hb =>
    rw [hb] at hblanks
    refine .ok ?_
    rw [rest_advance_one hb]
    exact .last .none hname hafter hblanks
  · next b hb =>
    rw [hb] at hblanks
    have hmore := blanks_after hb
    have hlength := hmore.suffix.length_le
    have hcomma := (Leaves.of_blanks hblanks).of_suffix (hafter.leaves.1.trans hstart.1)
    have hshorter := hcomma.2
    exact (hmembers depth _ _ (by omega)).later (hmore.suffix.trans hcomma.1) fun r hr =>
      .more .none hname hafter hblanks (hr.blanks hmore)
  · exact .malformed _ _

theorem ReadsItems.succ (hvalues : ReadsValues fuel) (hitems : ReadsItems fuel) :
    ReadsItems (fuel + 1) := by
  intro depth read c hfuel
  unfold readItems
  refine (hvalues depth c (by omega)).bind fun value after hafter => ?_
  dsimp only
  have hblanks := blanks_skipSpace after
  split
  · next b hb =>
    rw [hb] at hblanks
    refine .ok ?_
    rw [rest_advance_one hb]
    exact .last .none hafter hblanks
  · next b hb =>
    rw [hb] at hblanks
    have hmore := blanks_after hb
    have hlength := hmore.suffix.length_le
    have hcomma := (Leaves.of_blanks hblanks).of_suffix hafter.leaves.1
    have hshorter := hcomma.2
    exact (hitems depth _ _ (by omega)).later (hmore.suffix.trans hcomma.1) fun r hr =>
      .more .none hafter hblanks (hr.blanks hmore)
  · exact .malformed _ _

-- What is inside a bracket is shorter by one character and read with one unit of fuel less; items
-- pass their whole text on to the first value, so they ask for one unit more than it.
private theorem reads_all (fuel : Nat) :
    ReadsValues fuel ∧ ReadsMembers fuel ∧ ReadsItems fuel := by
  induction fuel with
  | zero =>
    refine ⟨fun depth c h => ?_, fun depth read c h => ?_, fun depth read c h => ?_⟩
    all_goals omega
  | succ fuel ih =>
    obtain ⟨hvalues, hmembers, hitems⟩ := ih
    exact ⟨.succ hmembers hitems, .succ hvalues hmembers, .succ hvalues hitems⟩

theorem ends_readValue {depth : Nat} {c : Cursor} (hfuel : 2 * c.rest.length < fuel) :
    Ends Value depth c.rest (readValue depth c fuel) :=
  (reads_all fuel).1 depth c hfuel

end Fuel

/-! ### What the grammar derives is read -/

def firsts : List Char := ['"', '[', '{', '-', 'n', 't', 'f', 'N', 'I']

theorem Value.first (h : Value l r) :
    ∃ x more, l = x :: more ∧ (x.isDigit = true ∨ x ∈ firsts) := by
  cases h with
  | word hword =>
    simp only [literals, List.mem_cons, List.not_mem_nil, or_false] at hword
    rcases hword with rfl | rfl | rfl | rfl | rfl | rfl
    all_goals exact ⟨_, _, rfl, Or.inr (by decide)⟩
  | number hnumber =>
    obtain ⟨sign, d, more, rfl, hd, rfl | rfl⟩ := hnumber.head
    · exact ⟨_, _, rfl, Or.inl hd⟩
    · exact ⟨_, _, rfl, Or.inr (by decide)⟩
  | _ => exact ⟨_, _, rfl, Or.inr (by decide)⟩

theorem Value.noStop (h : Value l r) :
    ∀ c, l.head? = some c → c ∉ [' ', '\t', '\n', '\r', ',', ']', '}'] := by
  intro c hc hstop
  have hother : c.isDigit = false ∧ c ∉ firsts := by
    simp only [List.mem_cons, List.not_mem_nil, or_false] at hstop
    rcases hstop with rfl | rfl | rfl | rfl | rfl | rfl | rfl
    all_goals decide
  obtain ⟨hdigit, hfirsts⟩ := hother
  obtain ⟨x, more, rfl, hfirst⟩ := h.first
  cases hc
  rcases hfirst with hfirst | hfirst
  · rw [hdigit] at hfirst
    cases hfirst
  · exact hfirsts hfirst

theorem Value.noBlank (h : Value l r) : NoBlank l := by
  intro c hc
  cases hspace : Cursor.isSpace c with
  | false => rfl
  | true =>
    have hblank : c ∈ [' ', '\t', '\n', '\r'] := Cursor.isSpace_iff.mp hspace
    refine absurd ?_ (h.noStop c hc)
    exact List.mem_append_left [',', ']', '}'] hblank

theorem Blanks.stops (h : Blanks l r) (hr : Stops r) : Stops l := by
  cases h with
  | none => exact hr
  | more hspace _ =>
    intro c hc
    cases hc
    exact List.mem_append_left [',', ']', '}'] hspace

theorem Stops.nil : Stops [] := by
  rintro c ⟨⟩

theorem stops_cons {x : Char} (hx : x ∈ [',', ']', '}']) (l : List Char) : Stops (x :: l) := by
  intro c hc
  cases hc
  exact List.mem_append_right [' ', '\t', '\n', '\r'] hx

theorem noBlank_cons {x : Char} (hx : Cursor.isSpace x = false) (l : List Char) :
    NoBlank (x :: l) := by
  intro c hc
  cases hc
  exact hx

theorem Blanks.rest_skipSpace {c : Cursor} (h : Blanks c.rest r) (hr : NoBlank r) :
    c.skipSpace.rest = r := by
  rw [Cursor.rest_skipSpace]
  exact h.dropWhile_eq hr

theorem Blanks.rest_after {c : Cursor} {x : Char} (hc : c.rest = x :: l) (h : Blanks l r)
    (hr : NoBlank r) : (c.advance 1).skipSpace.rest = r := by
  rw [← rest_advance_one hc] at h
  exact h.rest_skipSpace hr

theorem Reaches.bind_after {α β : Type} {a : List Char} {x : Char}
    {outcome : Except Fault (α × Cursor)} {f : α × Cursor → Except Fault (β × Cursor)}
    (h : Reaches a outcome) (hafter : Blanks a (x :: m)) (hx : Cursor.isSpace x = false)
    (hf : ∀ v after, after.skipSpace.rest = x :: m → Reaches r (f (v, after))) :
    Reaches r (outcome >>= f) := by
  refine h.bind fun v after hrest => hf v after ?_
  rw [← hrest] at hafter
  exact hafter.rest_skipSpace (noBlank_cons hx m)

theorem reaches_readName {c : Cursor} (h : Name c.rest l) (hl : NoBlank l) :
    Reaches l (readName c) := by
  generalize hc : c.rest = text at h
  obtain ⟨hname, hcolon, hblanks⟩ := h
  rw [← rest_advance_one hc] at hname
  unfold readName
  rw [hc]
  refine (reaches_readString hname).bind_after hcolon rfl fun name after hrest => ?_
  dsimp only
  rw [hrest]
  exact .ok (hblanks.rest_after hrest hl)

theorem Items.head (h : Items l r) : ∃ v a, l.dropWhile Cursor.isSpace = v ∧ Value v a := by
  cases h with
  | last hbefore h _ => exact ⟨_, _, hbefore.dropWhile_eq h.noBlank, h⟩
  | more hbefore h _ _ => exact ⟨_, _, hbefore.dropWhile_eq h.noBlank, h⟩

theorem Name.noBlank (h : Name l r) : NoBlank l := by
  cases h
  exact noBlank_cons rfl _

theorem Members.head (h : Members l r) : ∃ n v, l.dropWhile Cursor.isSpace = n ∧ Name n v := by
  cases h with
  | last hbefore hname _ _ => exact ⟨_, _, hbefore.dropWhile_eq hname.noBlank, hname⟩
  | more hbefore hname _ _ _ => exact ⟨_, _, hbefore.dropWhile_eq hname.noBlank, hname⟩

theorem rest_inside {c : Cursor} {x : Char} (h : c.rest = x :: l) :
    (c.advance 1).skipSpace.rest = l.dropWhile Cursor.isSpace := by
  rw [Cursor.rest_skipSpace, rest_advance_one h]

section Opening

variable {c : Cursor} {fuel : Nat}

theorem readValue_of_atom (hc : ∀ x, c.rest.head? = some x → x ∉ ['"', '{', '[']) (depth : Nat) :
    readValue depth c (fuel + 1) = readAtom c := by
  unfold readValue
  split
  · next hrest => exact absurd (by decide) (hc '"' (by rw [hrest]; rfl))
  · next hrest => exact absurd (by decide) (hc '{' (by rw [hrest]; rfl))
  · next hrest => exact absurd (by decide) (hc '[' (by rw [hrest]; rfl))
  · rfl

theorem reaches_object (hc : c.rest = '{' :: l)
    (hinside : ∀ b, l.dropWhile Cursor.isSpace ≠ '}' :: b)
    (h : ∀ depth, Reaches r (readMembers depth [] (c.advance 1).skipSpace fuel)) (depth : Nat) :
    Reaches r (readValue depth c (fuel + 1)) := by
  unfold readValue
  split
  · next hrest =>
    rw [hc] at hrest
    cases hrest
  · cases depth with
    | zero => exact Or.inr (Or.inr rfl)
    | succ depth =>
      dsimp only
      split
      · next b hb =>
        rw [rest_inside hc] at hb
        exact absurd hb (hinside b)
      · exact h depth
  · next hrest =>
    rw [hc] at hrest
    cases hrest
  · next hobject _ => exact absurd hc (hobject l)

theorem reaches_list (hc : c.rest = '[' :: l) (hinside : ∀ b, l.dropWhile Cursor.isSpace ≠ ']' :: b)
    (h : ∀ depth, Reaches r (readItems depth [] (c.advance 1).skipSpace fuel)) (depth : Nat) :
    Reaches r (readValue depth c (fuel + 1)) := by
  unfold readValue
  split
  · next hrest =>
    rw [hc] at hrest
    cases hrest
  · next hrest =>
    rw [hc] at hrest
    cases hrest
  · cases depth with
    | zero => exact Or.inr (Or.inr rfl)
    | succ depth =>
      dsimp only
      split
      · next b hb =>
        rw [rest_inside hc] at hb
        exact absurd hb (hinside b)
      · exact h depth
  · next hlist => exact absurd hc (hlist l)

end Opening

theorem IsNumber.noOpening {s : List Char} (h : IsNumber s) (r : List Char) :
    ∀ x, (s ++ r).head? = some x → x ∉ ['"', '{', '['] := by
  obtain ⟨sign, d, more, rfl, hd, rfl | rfl⟩ := h.head
  · intro x hx hopens
    cases hx
    simp only [List.mem_cons, List.not_mem_nil, or_false] at hopens
    rcases hopens with rfl | rfl | rfl
    all_goals cases hd
  · intro x hx
    cases hx
    decide

theorem noOpening_of_mem_literals {w : String} (h : w ∈ literals) (r : List Char) :
    ∀ x, (w.toList ++ r).head? = some x → x ∉ ['"', '{', '['] := by
  intro x hx
  simp only [literals, List.mem_cons, List.not_mem_nil, or_false] at h
  rcases h with rfl | rfl | rfl | rfl | rfl | rfl
  all_goals
    cases hx
    decide

-- The induction is on the derivation, so any fuel and any depth will do: where they run out, the
-- reading comes to a limit, and `ends_readValue` says that the text passes it.
mutual
/-- A value that a stop follows is read up to the stop. -/
theorem reaches_readValue {l r : List Char} (h : Value l r) (hr : Stops r) (depth fuel : Nat)
    (c : Cursor) (hc : c.rest = l) : Reaches r (readValue depth c fuel) := by
  cases fuel with
  | zero => exact Or.inr (Or.inr rfl)
  | succ fuel =>
    match h with
    | .word hword =>
      rw [readValue_of_atom (by rw [hc]; exact noOpening_of_mem_literals hword r)]
      exact reaches_word hword hc
    | .number hnumber =>
      rw [readValue_of_atom (by rw [hc]; exact hnumber.noOpening r)]
      exact reaches_number hnumber hr hc
    | .string h =>
      rw [← rest_advance_one hc] at h
      unfold readValue
      rw [hc]
      exact (reaches_readString h).bind fun s after hafter => .ok hafter
    | .emptyObject h =>
      unfold readValue
      rw [hc]
      cases depth with
      | zero => exact Or.inr (Or.inr rfl)
      | succ depth =>
        have hrest := h.rest_after hc (noBlank_cons rfl _)
        dsimp only
        rw [hrest]
        exact .ok (rest_advance_one hrest)
    | .emptyList h =>
      unfold readValue
      rw [hc]
      cases depth with
      | zero => exact Or.inr (Or.inr rfl)
      | succ depth =>
        have hrest := h.rest_after hc (noBlank_cons rfl _)
        dsimp only
        rw [hrest]
        exact .ok (rest_advance_one hrest)
    | .object h =>
      refine reaches_object hc (fun b hb => ?_)
        (fun depth => reaches_readMembers h depth fuel [] _ (rest_inside hc)) depth
      obtain ⟨n, v, hn, hname⟩ := h.head
      rw [← hn, hb] at hname
      cases hname
    | .list h =>
      refine reaches_list hc (fun b hb => ?_)
        (fun depth => reaches_readItems h depth fuel [] _ (rest_inside hc)) depth
      obtain ⟨v, a, hv, hvalue⟩ := h.head
      rw [← hv, hb] at hvalue
      exact absurd (by decide) (hvalue.noStop ']' rfl)

theorem reaches_readMembers {l r : List Char} (h : Members l r) (depth fuel : Nat)
    (read : Entries Data) (c : Cursor) (hc : c.rest = l.dropWhile Cursor.isSpace) :
    Reaches r (readMembers depth read c fuel) := by
  cases fuel with
  | zero => exact Or.inr (Or.inr rfl)
  | succ fuel =>
    unfold readMembers
    match h with
    | .last hbefore hname h hafter =>
      rw [hbefore.dropWhile_eq hname.noBlank] at hc
      rw [← hc] at hname
      refine (reaches_readName hname h.noBlank).bind fun name start hstart => ?_
      have hvalue := reaches_readValue h (hafter.stops (stops_cons (by decide) _)) depth fuel start
        hstart
      refine hvalue.bind_after hafter rfl fun value after hend => ?_
      dsimp only
      rw [hend]
      exact .ok (rest_advance_one hend)
    | .more hbefore hname h hafter hmore =>
      rw [hbefore.dropWhile_eq hname.noBlank] at hc
      rw [← hc] at hname
      refine (reaches_readName hname h.noBlank).bind fun name start hstart => ?_
      have hvalue := reaches_readValue h (hafter.stops (stops_cons (by decide) _)) depth fuel start
        hstart
      refine hvalue.bind_after hafter rfl fun value after hend => ?_
      dsimp only
      rw [hend]
      exact reaches_readMembers hmore depth fuel _ _ (rest_inside hend)

theorem reaches_readItems {l r : List Char} (h : Items l r) (depth fuel : Nat)
    (read : List Data) (c : Cursor) (hc : c.rest = l.dropWhile Cursor.isSpace) :
    Reaches r (readItems depth read c fuel) := by
  cases fuel with
  | zero => exact Or.inr (Or.inr rfl)
  | succ fuel =>
    unfold readItems
    match h with
    | .last hbefore h hafter =>
      rw [hbefore.dropWhile_eq h.noBlank] at hc
      have hvalue := reaches_readValue h (hafter.stops (stops_cons (by decide) _)) depth fuel c hc
      refine hvalue.bind_after hafter rfl fun value after hend => ?_
      dsimp only
      rw [hend]
      exact .ok (rest_advance_one hend)
    | .more hbefore h hafter hmore =>
      rw [hbefore.dropWhile_eq h.noBlank] at hc
      have hvalue := reaches_readValue h (hafter.stops (stops_cons (by decide) _)) depth fuel c hc
      refine hvalue.bind_after hafter rfl fun value after hend => ?_
      dsimp only
      rw [hend]
      exact reaches_readItems hmore depth fuel _ _ (rest_inside hend)
end

/-! ### Whole texts -/

/-- No row of digits in the text and no nesting is beyond what is read. -/
def IsWithinLimits (s : String) : Prop :=
  ¬HasLongRun s.toList ∧ openings s.toList ≤ nestingLimit

variable {s : String}

theorem isWithinLimits_of_length_le (h : s.toList.length ≤ nestingLimit) : IsWithinLimits s := by
  constructor
  · rintro ⟨digits, hinfix, -, hlong⟩
    have hlength := hinfix.length_le
    unfold nestingLimit at h
    unfold integerDigitLimit at hlong
    omega
  · exact Nat.le_trans List.countP_le_length h

theorem IsJson.noMark (h : IsJson s) (rest : List Char) : s.toList ≠ '\uFEFF' :: rest := by
  intro hs
  obtain ⟨v, a, hbefore, hvalue, -⟩ := h
  rw [hs] at hbefore
  cases hbefore with
  | more hspace => exact absurd hspace (by decide)
  | none =>
    obtain ⟨x, more, heq, hfirst⟩ := hvalue.first
    cases heq
    exact absurd hfirst (by decide)

private def startOf (s : String) : Cursor := Cursor.skipSpace ⟨s.toList, 0⟩

private def finish (x : Data × Cursor) : Except Fault Data :=
  if x.2.skipSpace.rest.isEmpty then .ok x.1
  else .error (.malformed .extraData x.2.skipSpace.position)

private theorem read_eq (hmark : ∀ rest, s.toList ≠ '\uFEFF' :: rest) :
    read s = readValue nestingLimit (startOf s) (2 * s.toList.length + 2) >>= finish := by
  unfold read
  dsimp only
  split
  · next rest hrest => exact absurd hrest (hmark rest)
  · rfl

private theorem suffix_start (s : String) : (startOf s).rest <:+ s.toList :=
  (blanks_skipSpace ⟨s.toList, 0⟩).suffix

private theorem ends_start (s : String) : Ends Value nestingLimit (startOf s).rest
    (readValue nestingLimit (startOf s) (2 * s.toList.length + 2)) := by
  have hlength := (suffix_start s).length_le
  exact ends_readValue (by omega)

private theorem IsJson.reaches_start (h : IsJson s) : ∃ a, Blanks a [] ∧
    Reaches a (readValue nestingLimit (startOf s) (2 * s.toList.length + 2)) := by
  obtain ⟨v, a, hbefore, hvalue, hafter⟩ := h
  have hstart : (startOf s).rest = v :=
    @Blanks.rest_skipSpace _ ⟨s.toList, 0⟩ hbefore hvalue.noBlank
  exact ⟨a, hafter, reaches_readValue hvalue (hafter.stops .nil) _ _ _ hstart⟩

/-- What the outcome of reading a text tells of the text. -/
inductive Tells (s : String) : Except Fault Data → Prop
  | ok {d : Data} (h : IsJson s) : Tells s (.ok d)
  | malformed (cause : Cause) (position : Nat) (h : ¬IsJson s) :
      Tells s (.error (.malformed cause position))
  | tooLong (h : HasLongRun s.toList) : Tells s (.error .integerTooLong)
  | tooDeep (h : nestingLimit < openings s.toList) : Tells s (.error .nestedTooDeep)

/-- A text that is read is JSON, one that is malformed is not, and one that comes to a limit passes
it. -/
theorem tells_read (s : String) : Tells s (read s) := by
  by_cases hmark : ∃ rest, s.toList = '\uFEFF' :: rest
  · obtain ⟨rest, hrest⟩ := hmark
    unfold read
    rw [hrest]
    exact .malformed _ _ fun h => h.noMark rest hrest
  · rw [read_eq fun rest hrest => hmark ⟨rest, hrest⟩]
    have hends := ends_start s
    have hreaches := @IsJson.reaches_start s
    generalize readValue nestingLimit (startOf s) (2 * s.toList.length + 2) = outcome
      at hends hreaches ⊢
    cases hends with
    | @ok v after hvalue =>
      rw [ok_bind, finish]
      have hblanks := blanks_skipSpace after
      split
      · next hempty =>
        rw [List.isEmpty_iff.mp hempty] at hblanks
        exact .ok ⟨_, _, blanks_skipSpace ⟨s.toList, 0⟩, hvalue, hblanks⟩
      · next hsome =>
        refine .malformed _ _ fun hjson => hsome ?_
        obtain ⟨a, hafter, hreach⟩ := hreaches hjson
        rcases hreach with ⟨_, _, heq, hrest⟩ | heq | heq
        · cases heq
          rw [← hrest] at hafter
          exact List.isEmpty_iff.mpr (hafter.rest_skipSpace (by rintro c ⟨⟩))
        · cases heq
        · cases heq
    | malformed cause position =>
      refine .malformed cause position fun hjson => ?_
      obtain ⟨a, -, hreach⟩ := hreaches hjson
      rcases hreach with ⟨_, _, heq, -⟩ | heq | heq
      all_goals cases heq
    | tooLong hlong => exact .tooLong (hlong.of_suffix (suffix_start s))
    | tooDeep hdeep =>
      have hopenings := openings_le_of_suffix (suffix_start s)
      exact .tooDeep (by omega)

/-- A text within the limits is read exactly if it is JSON. -/
theorem exists_read_iff (hlimits : IsWithinLimits s) : (∃ d, read s = .ok d) ↔ IsJson s := by
  obtain ⟨hdigits, hnesting⟩ := hlimits
  have htells := tells_read s
  generalize read s = outcome at htells ⊢
  cases htells with
  | ok hjson => exact ⟨fun _ => hjson, fun _ => ⟨_, rfl⟩⟩
  | malformed cause position hjson =>
    constructor
    · rintro ⟨d, hd⟩
      cases hd
    · exact fun h => absurd h hjson
  | tooLong hlong => exact absurd hlong hdigits
  | tooDeep hdeep => omega

end StoreSchema.Json
