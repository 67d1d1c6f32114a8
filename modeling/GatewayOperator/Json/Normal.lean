/-
This file says when two JSON values are the same, what a normal form is, and which values mean
something in every part. A value in normal form stays as it is when it is brought into normal form
again, and a sound value stays sound.
-/

import GatewayOperator.Json.Basic

namespace GatewayOperator.Json

/-! ### Equality -/

mutual

/-- Whether two values are the same. -/
def same : Json → Json → Bool
  | null, null => true
  | boolean first, boolean second => first == second
  | integer first, integer second => first == second
  | float first, float second => decide (first = second)
  | string first, string second => first == second
  | array first, array second => sameElements first second
  | object first, object second => sameMembers first second
  | faulty, faulty => true
  | _, _ => false

/-- Whether two arrays have the same elements. -/
def sameElements : List Json → List Json → Bool
  | [], [] => true
  | first :: firsts, second :: seconds => first.same second && sameElements firsts seconds
  | _, _ => false

/-- Whether two objects have the same members in the same order. -/
def sameMembers : List (String × Json) → List (String × Json) → Bool
  | [], [] => true
  | (name, first) :: firsts, (key, second) :: seconds =>
    name == key && first.same second && sameMembers firsts seconds
  | _, _ => false

end

mutual

theorem same_iff (first second : Json) : first.same second = true ↔ first = second := by
  cases first with
  | array elements => cases second <;> simp [same, sameElements_iff elements]
  | object members => cases second <;> simp [same, sameMembers_iff members]
  | _ => cases second <;> simp [same]

theorem sameElements_iff (firsts seconds : List Json) :
    sameElements firsts seconds = true ↔ firsts = seconds := by
  cases firsts with
  | nil => cases seconds <;> simp [sameElements]
  | cons first firsts =>
    cases seconds with
    | nil => simp [sameElements]
    | cons second seconds =>
      simp [sameElements, same_iff first second, sameElements_iff firsts seconds]

theorem sameMembers_iff (firsts seconds : List (String × Json)) :
    sameMembers firsts seconds = true ↔ firsts = seconds := by
  cases firsts with
  | nil => cases seconds <;> simp [sameMembers]
  | cons first firsts =>
    cases seconds with
    | nil => simp [sameMembers]
    | cons second seconds =>
      obtain ⟨name, first⟩ := first
      obtain ⟨key, second⟩ := second
      simp [sameMembers, same_iff first second, sameMembers_iff firsts seconds]

end

instance : DecidableEq Json := fun first second => decidable_of_iff _ (same_iff first second)

/-! ### Normal forms -/

theorem mem_normalizeElements {elements : List Json} {element : Json}
    (member : element ∈ normalizeElements elements) :
    ∃ original ∈ elements, original.normalize = element := by
  induction elements with
  | nil => exact nomatch member
  | cons first elements inductionHypothesis =>
    rcases List.mem_cons.mp member with rfl | later
    · exact ⟨first, List.mem_cons_self, rfl⟩
    · obtain ⟨original, isElement, same⟩ := inductionHypothesis later
      exact ⟨original, List.mem_cons_of_mem _ isElement, same⟩

theorem mem_normalizeMembers {members : List (String × Json)} {entry : String × Json}
    (member : entry ∈ normalizeMembers members) :
    ∃ original ∈ members, original.2.normalize = entry.2 := by
  induction members with
  | nil => exact nomatch member
  | cons first members inductionHypothesis =>
    obtain ⟨name, value⟩ := first
    rcases List.mem_cons.mp member with rfl | later
    · exact ⟨(name, value), List.mem_cons_self, rfl⟩
    · obtain ⟨original, isMember, same⟩ := inductionHypothesis later
      exact ⟨original, List.mem_cons_of_mem _ isMember, same⟩

theorem mem_of_mem_sortMembers {members : List (String × Json)} {entry : String × Json}
    (member : entry ∈ sortMembers members) : entry ∈ members := by
  suffices general : ∀ (map : Map Json) (rest : List (String × Json)),
      entry ∈ (rest.foldl (fun map entry => map.insert entry.1 entry.2) map).entries →
        entry ∈ map.entries ∨ entry ∈ rest by
    exact (general .empty members member).resolve_left nofun
  intro map rest isEntry
  induction rest generalizing map with
  | nil => exact Or.inl isEntry
  | cons first rest inductionHypothesis =>
    rcases inductionHypothesis (map.insert first.1 first.2) isEntry with inserted | later
    · rcases Map.mem_insertEntry inserted with rfl | old
      · exact Or.inr List.mem_cons_self
      · exact Or.inl old
    · exact Or.inr (List.mem_cons_of_mem _ later)

/-- Members that are sorted already stay as they are. -/
theorem sortMembers_sortMembers (members : List (String × Json)) :
    sortMembers (sortMembers members) = sortMembers members :=
  congrArg Map.entries (Map.ofList_entries _)

theorem normalizeMembers_eq_self {members : List (String × Json)}
    (normal : ∀ entry ∈ members, entry.2.normalize = entry.2) :
    normalizeMembers members = members := by
  induction members with
  | nil => rfl
  | cons first members inductionHypothesis =>
    rw [List.forall_mem_cons] at normal
    rw [normalizeMembers, normal.1, inductionHypothesis normal.2]

mutual

/-- A normal form is its own normal form. -/
theorem normalize_normalize (value : Json) : value.normalize.normalize = value.normalize := by
  cases value with
  | array elements => exact congrArg array (normalizeElements_normalizeElements elements)
  | object members =>
    -- Sorting drops members but changes none, so each of them is still in normal form.
    have inside : normalizeMembers (sortMembers (normalizeMembers members)) =
        sortMembers (normalizeMembers members) :=
      normalizeMembers_eq_self fun entry member =>
        normalize_of_mem_normalizeMembers members entry (mem_of_mem_sortMembers member)
    show object (sortMembers (normalizeMembers (sortMembers _))) = object (sortMembers _)
    rw [inside, sortMembers_sortMembers]
  | _ => rfl

theorem normalizeElements_normalizeElements (elements : List Json) :
    normalizeElements (normalizeElements elements) = normalizeElements elements := by
  cases elements with
  | nil => rfl
  | cons element elements =>
    rw [normalizeElements, normalizeElements, normalize_normalize element,
      normalizeElements_normalizeElements elements]

theorem normalize_of_mem_normalizeMembers (members : List (String × Json)) :
    ∀ entry ∈ normalizeMembers members, entry.2.normalize = entry.2 := by
  cases members with
  | nil => exact nofun
  | cons first members =>
    rw [normalizeMembers, List.forall_mem_cons]
    exact ⟨normalize_normalize first.2, normalize_of_mem_normalizeMembers members⟩

end

theorem normalize_eq_null_iff (value : Json) : value.normalize = null ↔ value = null := by
  cases value <;> simp [normalize]

/-! ### Sound values -/

mutual

/-- Whether every part of a value means something. -/
def isSound : Json → Bool
  | array elements => areSoundElements elements
  | object members => areSoundMembers members
  | faulty => false
  | _ => true

/-- Whether every element of an array is sound. -/
def areSoundElements : List Json → Bool
  | [] => true
  | element :: rest => element.isSound && areSoundElements rest

/-- Whether every member of an object is sound. -/
def areSoundMembers : List (String × Json) → Bool
  | [] => true
  | (_, value) :: rest => value.isSound && areSoundMembers rest

end

theorem areSoundMembers_iff (members : List (String × Json)) :
    areSoundMembers members = true ↔ ∀ entry ∈ members, entry.2.isSound = true := by
  induction members with
  | nil => simp [areSoundMembers]
  | cons entry members inductionHypothesis => simp [areSoundMembers, inductionHypothesis]

mutual

/-- A sound value has a sound normal form. -/
theorem isSound_normalize (value : Json) (sound : value.isSound = true) :
    value.normalize.isSound = true := by
  cases value with
  | array elements => exact areSoundElements_normalizeElements elements sound
  | object members =>
    have inside := (areSoundMembers_iff _).mp (areSoundMembers_normalizeMembers members sound)
    exact (areSoundMembers_iff _).mpr fun entry member =>
      inside entry (mem_of_mem_sortMembers member)
  | _ => exact sound

theorem areSoundElements_normalizeElements (elements : List Json)
    (sound : areSoundElements elements = true) :
    areSoundElements (normalizeElements elements) = true := by
  cases elements with
  | nil => rfl
  | cons element elements =>
    rw [areSoundElements, Bool.and_eq_true] at sound
    rw [normalizeElements, areSoundElements, isSound_normalize element sound.1,
      areSoundElements_normalizeElements elements sound.2, Bool.and_self]

theorem areSoundMembers_normalizeMembers (members : List (String × Json))
    (sound : areSoundMembers members = true) :
    areSoundMembers (normalizeMembers members) = true := by
  cases members with
  | nil => rfl
  | cons entry members =>
    rw [areSoundMembers, Bool.and_eq_true] at sound
    rw [normalizeMembers, areSoundMembers, isSound_normalize entry.2 sound.1,
      areSoundMembers_normalizeMembers members sound.2, Bool.and_self]

end

end GatewayOperator.Json
