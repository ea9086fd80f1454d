import StoreSchema.Definition.Shape

/-!
What pointers lead to.

Main statement of this module: of all data only the pointer that is made of a name leads to the
name, and that pointer with a line feed after it; everything else is refused as no pointer. Hence
two pointers that lead to one name are one text, or one of them is the other with a line feed.
-/

set_option autoImplicit false

namespace StoreSchema.Pointer

open StoreSchema.Text.WordCharacter (isWord)

/-- One or more word characters. -/
structure IsName (name : String) : Prop where
  nonempty : name ≠ ""
  word : ∀ c ∈ name.toList, isWord c = true

/-- The data is the pointer that is made of a name, or that pointer with a line feed after it. -/
inductive LeadsTo : Data → String → Prop
  | exact {name : String} (hname : IsName name) : LeadsTo (.text (ofName name)) name
  | ended {name : String} (hname : IsName name) : LeadsTo (.text (ofName name ++ "\n")) name

inductive IsEnd : List Char → Prop
  | nothing : IsEnd []
  | lineFeed : IsEnd ['\n']

variable {s t name : String} {rest found after : List Char} {reference : Data}

theorem IsEnd.no_word (h : IsEnd after) : ∀ c ∈ after, isWord c = false := by
  cases h with
  | nothing => simp
  | lineFeed =>
    intro c hc
    rw [List.mem_singleton.mp hc]
    decide

theorem isEnd_iff : IsEnd after ↔ after = [] ∨ after = ['\n'] := by
  constructor
  · rintro (_ | _)
    · exact Or.inl rfl
    · exact Or.inr rfl
  · rintro (rfl | rfl)
    · exact .nothing
    · exact .lineFeed

theorem takeWhile_eq_iff (hafter : IsEnd after) :
    rest.takeWhile isWord = found ∧ rest.dropWhile isWord = after ↔
      (∀ c ∈ found, isWord c = true) ∧ rest = found ++ after := by
  constructor
  · rintro ⟨rfl, rfl⟩
    exact ⟨List.all_eq_true.mp List.all_takeWhile, List.takeWhile_append_dropWhile.symm⟩
  · rintro ⟨hfound, rfl⟩
    have hstop : after.takeWhile isWord = [] ∧ after.dropWhile isWord = after := by
      have hno := hafter.no_word
      cases after with
      | nil => exact ⟨rfl, rfl⟩
      | cons c more => simp [hno c List.mem_cons_self]
    rw [List.takeWhile_append_of_pos hfound, List.dropWhile_append_of_pos hfound, hstop.1, hstop.2,
      List.append_nil]
    exact ⟨rfl, rfl⟩

/-- A name is read from a text exactly if the text is the lead, the name and an end. -/
theorem name?_eq_some_iff : name? s = some name ↔
    IsName name ∧ ∃ after, IsEnd after ∧ s.toList = lead.toList ++ (name.toList ++ after) := by
  unfold name?
  dsimp only
  split
  · next hlead =>
    obtain ⟨rest, hrest⟩ := List.isPrefixOf_iff_prefix.mp hlead
    rw [← hrest, List.drop_left, Option.ite_none_right_eq_some, ← isEnd_iff]
    -- After the lead the word characters are the name, and what is left is the end.
    constructor
    · rintro ⟨⟨hsome, hend⟩, hname⟩
      injection hname with hname
      have hfound : rest.takeWhile isWord = name.toList := by rw [← hname, String.toList_ofList]
      obtain ⟨hword, hsplit⟩ := (takeWhile_eq_iff hend).mp ⟨hfound, rfl⟩
      refine ⟨⟨?_, hword⟩, _, hend, by rw [← hsplit]⟩
      rintro rfl
      exact hsome hfound
    · rintro ⟨hname, after, hend, heq⟩
      have hsplit := List.append_cancel_left heq
      obtain ⟨htake, hdrop⟩ := (takeWhile_eq_iff hend).mpr ⟨hname.word, hsplit⟩
      rw [htake, hdrop, String.ofList_toList]
      refine ⟨⟨?_, hend⟩, rfl⟩
      intro hnil
      exact hname.nonempty (String.toList_eq_nil_iff.mp hnil)
  · next hlead =>
    constructor
    · intro h
      cases h
    · rintro ⟨-, after, -, heq⟩
      exact absurd (List.isPrefixOf_iff_prefix.mpr ⟨_, heq.symm⟩) hlead

theorem leadsTo_text_iff : LeadsTo (.text s) name ↔
    IsName name ∧ ∃ after, IsEnd after ∧ s.toList = lead.toList ++ (name.toList ++ after) := by
  constructor
  · intro h
    cases h with
    | exact hname => exact ⟨hname, [], .nothing, by simp [ofName]⟩
    | ended hname => exact ⟨hname, ['\n'], .lineFeed, by simp [ofName]⟩
  · rintro ⟨hname, after, hend, heq⟩
    cases hend with
    | nothing =>
      have hs : s = ofName name := String.toList_inj.mp (by simpa [ofName] using heq)
      rw [hs]
      exact .exact hname
    | lineFeed =>
      have hs : s = ofName name ++ "\n" := String.toList_inj.mp (by simpa [ofName] using heq)
      rw [hs]
      exact .ended hname

theorem target_eq_ok_iff : target reference = .ok name ↔ LeadsTo reference name := by
  unfold target
  split
  · next s =>
    rw [leadsTo_text_iff, ← name?_eq_some_iff]
    cases name? s <;> simp
  · next hother =>
    constructor
    · intro h
      cases h
    · intro h
      cases h with
      | exact => exact absurd rfl (hother _)
      | ended => exact absurd rfl (hother _)

theorem fault_of_target {fault : Fault} (h : target reference = .error fault) :
    fault = .malformedReference reference := by
  unfold target at h
  split at h
  · split at h
    · cases h
    · cases h
      rfl
  · cases h
    rfl

theorem target_eq_error_iff {fault : Fault} : target reference = .error fault ↔
    fault = .malformedReference reference ∧ ∀ name, ¬LeadsTo reference name := by
  constructor
  · intro h
    refine ⟨fault_of_target h, fun name hleads => ?_⟩
    rw [target_eq_ok_iff.mpr hleads] at h
    cases h
  · rintro ⟨rfl, hnone⟩
    cases htarget : target reference with
    | ok name => exact absurd (target_eq_ok_iff.mp htarget) (hnone name)
    | error fault => rw [fault_of_target htarget]

theorem LeadsTo.differ_at_end (hs : LeadsTo (.text s) name) (ht : LeadsTo (.text t) name) :
    s = t ∨ s = t ++ "\n" ∨ t = s ++ "\n" := by
  cases hs with
  | exact =>
    cases ht with
    | exact => exact Or.inl rfl
    | ended => exact Or.inr (Or.inr rfl)
  | ended =>
    cases ht with
    | exact => exact Or.inr (Or.inl rfl)
    | ended => exact Or.inl rfl

/-- A reference has the target that it leads to, all others being refused; and the texts with one
target are a pointer and that pointer with a line feed. -/
theorem target_iff_leadsTo (reference : Data) :
    (∀ name, target reference = .ok name ↔ LeadsTo reference name) ∧
    (∀ fault, target reference = .error fault ↔
      fault = .malformedReference reference ∧ ∀ name, ¬LeadsTo reference name) ∧
    ∀ s t name, reference = .text s → target reference = .ok name → target (.text t) = .ok name →
      s = t ∨ s = t ++ "\n" ∨ t = s ++ "\n" := by
  refine ⟨fun name => target_eq_ok_iff, fun fault => target_eq_error_iff, ?_⟩
  rintro s t name rfl hs ht
  exact (target_eq_ok_iff.mp hs).differ_at_end (target_eq_ok_iff.mp ht)

private theorem not_ended (t : String) : "#/definitions/House" ≠ t ++ "\n" := by
  intro h
  have hlast := congrArg (fun s => s.toList.getLast?) h
  simp at hlast

/-- Two texts lead to a house, and a pointer into a house leads nowhere. -/
theorem house_iff_leadsTo :
    (target (.text "#/definitions/House") = .ok "House" ∧
      LeadsTo (.text "#/definitions/House") "House") ∧
    (target (.text "#/definitions/House\n") = .ok "House" ∧
      LeadsTo (.text "#/definitions/House\n") "House") ∧
    (∀ t, target (.text t) = .ok "House" →
      t = "#/definitions/House" ∨ t = "#/definitions/House\n") ∧
    target (.text "#/definitions/House/properties/lng") =
      .error (.malformedReference (.text "#/definitions/House/properties/lng")) ∧
    ∀ name, ¬LeadsTo (.text "#/definitions/House/properties/lng") name := by
  have hexact : target (.text "#/definitions/House") = .ok "House" := rfl
  have hended : target (.text "#/definitions/House\n") = .ok "House" := rfl
  have hdeeper : target (.text "#/definitions/House/properties/lng") =
      .error (.malformedReference (.text "#/definitions/House/properties/lng")) := rfl
  refine ⟨⟨hexact, ((target_iff_leadsTo _).1 _).mp hexact⟩,
    ⟨hended, ((target_iff_leadsTo _).1 _).mp hended⟩, fun t ht => ?_, hdeeper,
    (((target_iff_leadsTo _).2.1 _).mp hdeeper).2⟩
  obtain heq | heq | heq := (target_iff_leadsTo _).2.2 _ t _ rfl hexact ht
  · exact Or.inl heq.symm
  · exact absurd heq (not_ended t)
  · exact Or.inr heq

/-- A pointer with a line feed after it has a target, that of the pointer itself. -/
theorem line_feed_is_passed_over :
    target (.text "#/definitions/House") = .ok "House" ∧
      target (.text "#/definitions/House\n") = .ok "House" ∧
      "#/definitions/House\n" ≠ "#/definitions/House" :=
  ⟨rfl, rfl, by decide⟩

end StoreSchema.Pointer
