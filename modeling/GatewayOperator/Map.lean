/-
This file holds maps from names to values in the order of the names. A map is its list of
entries with strictly increasing names, so two maps with the same entries are equal, and
listing the entries gives the order in which labels, annotations and data are compared and
written.
-/

namespace GatewayOperator

/-- A map from names to values, kept in the order of the names. -/
structure Map (Value : Type) where
  entries : List (String × Value)
  sorted : entries.Pairwise (fun first second => first.1 < second.1)

namespace Map

variable {Value Result : Type}

/-- Two maps with the same entries are equal. -/
theorem ext {first second : Map Value} (same : first.entries = second.entries) :
    first = second := by
  cases first
  cases second
  congr

instance [DecidableEq Value] : DecidableEq (Map Value) := fun first second =>
  decidable_of_iff (first.entries = second.entries) ⟨ext, fun same => same ▸ rfl⟩

/-- The map without entries. -/
def empty : Map Value := ⟨[], List.Pairwise.nil⟩

instance : Inhabited (Map Value) := ⟨empty⟩

/-- Whether there is no entry. -/
def isEmpty (map : Map Value) : Bool := map.entries.isEmpty

/-- Looks a name up in a list of entries. -/
def lookup (name : String) : List (String × Value) → Option Value
  | [] => none
  | (key, value) :: rest => if key = name then some value else lookup name rest

/-- The value under a name. -/
def get? (map : Map Value) (name : String) : Option Value := lookup name map.entries

/-- Whether there is an entry under a name. -/
def contains (map : Map Value) (name : String) : Bool := (map.get? name).isSome

/-- Puts an entry at its place, in the stead of an entry of the same name. -/
def insertEntry (name : String) (value : Value) : List (String × Value) → List (String × Value)
  | [] => [(name, value)]
  | (key, old) :: rest =>
    if name < key then (name, value) :: (key, old) :: rest
    else if name = key then (name, value) :: rest
    else (key, old) :: insertEntry name value rest

theorem mem_insertEntry {name : String} {value : Value} {entries : List (String × Value)}
    {entry : String × Value} (member : entry ∈ insertEntry name value entries) :
    entry = (name, value) ∨ entry ∈ entries := by
  induction entries with
  | nil => simpa [insertEntry] using member
  | cons head rest inductionHypothesis =>
    obtain ⟨key, old⟩ := head
    unfold insertEntry at member
    split at member
    · simpa using member
    · split at member
      · rcases List.mem_cons.mp member with rfl | inRest
        · exact Or.inl rfl
        · exact Or.inr (List.mem_cons_of_mem _ inRest)
      · rcases List.mem_cons.mp member with rfl | inRest
        · exact Or.inr List.mem_cons_self
        · rcases inductionHypothesis inRest with equal | old
          · exact Or.inl equal
          · exact Or.inr (List.mem_cons_of_mem _ old)

/-- Of two names that differ one comes first. -/
theorem lt_of_not_lt_of_ne {first second : String} (notBefore : ¬first < second)
    (different : first ≠ second) : second < first := by
  rcases String.le_total first second with before | after
  · refine absurd (String.le_antisymm before (String.not_lt.mp notBefore)) different
  · refine Decidable.byContradiction fun notAfter => ?_
    exact different (String.le_antisymm (String.not_lt.mp notAfter) after)

theorem sorted_insertEntry (name : String) (value : Value) {entries : List (String × Value)}
    (sorted : entries.Pairwise (fun first second => first.1 < second.1)) :
    (insertEntry name value entries).Pairwise (fun first second => first.1 < second.1) := by
  induction entries with
  | nil => exact List.pairwise_singleton _ _
  | cons head rest inductionHypothesis =>
    obtain ⟨key, old⟩ := head
    rw [List.pairwise_cons] at sorted
    unfold insertEntry
    split
    · next before =>
      refine List.pairwise_cons.mpr ⟨?_, List.pairwise_cons.mpr sorted⟩
      intro entry member
      rcases List.mem_cons.mp member with rfl | inRest
      · exact before
      · exact String.lt_trans before (sorted.1 entry inRest)
    · next notBefore =>
      split
      · next equal =>
        subst equal
        exact List.pairwise_cons.mpr sorted
      · next different =>
        refine List.pairwise_cons.mpr ⟨?_, inductionHypothesis sorted.2⟩
        intro entry member
        rcases mem_insertEntry member with rfl | inRest
        · exact lt_of_not_lt_of_ne notBefore different
        · exact sorted.1 entry inRest

/-- The map with an entry put in. -/
def insert (map : Map Value) (name : String) (value : Value) : Map Value :=
  ⟨insertEntry name value map.entries, sorted_insertEntry name value map.sorted⟩

/-- The map without the entry of a name. -/
def erase (map : Map Value) (name : String) : Map Value :=
  ⟨map.entries.filter (fun entry => entry.1 != name), map.sorted.filter _⟩

/-- The map of a list of entries, in which a later entry replaces an earlier one. -/
def ofList (entries : List (String × Value)) : Map Value :=
  entries.foldl (fun map entry => map.insert entry.1 entry.2) empty

/-- The map with a function applied to its values. -/
def map (change : Value → Result) (source : Map Value) : Map Result :=
  ⟨source.entries.map (fun entry => (entry.1, change entry.2)),
    List.pairwise_map.mpr source.sorted⟩

/-- The entries of the second map put into the first. -/
def union (first second : Map Value) : Map Value :=
  second.entries.foldl (fun map entry => map.insert entry.1 entry.2) first

theorem lookup_insertEntry_self (name : String) (value : Value)
    (entries : List (String × Value)) :
    lookup name (insertEntry name value entries) = some value := by
  induction entries with
  | nil => simp [insertEntry, lookup]
  | cons head rest inductionHypothesis =>
    obtain ⟨key, old⟩ := head
    unfold insertEntry
    split
    · simp [lookup]
    · split
      · simp [lookup]
      · next different => simp [lookup, Ne.symm different, inductionHypothesis]

theorem lookup_insertEntry_other {name other : String} (value : Value)
    (entries : List (String × Value)) (different : other ≠ name) :
    lookup other (insertEntry name value entries) = lookup other entries := by
  induction entries with
  | nil => simp [insertEntry, lookup, Ne.symm different]
  | cons head rest inductionHypothesis =>
    obtain ⟨key, old⟩ := head
    unfold insertEntry
    split
    · simp [lookup, Ne.symm different]
    · split
      · next equal =>
        subst equal
        simp [lookup, Ne.symm different]
      · simp [lookup, inductionHypothesis]

/-- The name that was put in has the new value. -/
@[simp] theorem get?_insert_self (map : Map Value) (name : String) (value : Value) :
    (map.insert name value).get? name = some value :=
  lookup_insertEntry_self name value map.entries

/-- All other names keep their value. -/
theorem get?_insert_other (map : Map Value) {name other : String} (value : Value)
    (different : other ≠ name) : (map.insert name value).get? other = map.get? other :=
  lookup_insertEntry_other value map.entries different

@[simp] theorem get?_empty (name : String) : (empty : Map Value).get? name = none := rfl

/-- A name behind all others goes to the end. -/
theorem insertEntry_of_all_lt {name : String} {value : Value} {entries : List (String × Value)}
    (before : ∀ entry ∈ entries, entry.1 < name) :
    insertEntry name value entries = entries ++ [(name, value)] := by
  induction entries with
  | nil => rfl
  | cons head rest inductionHypothesis =>
    obtain ⟨key, old⟩ := head
    have here : key < name := before (key, old) List.mem_cons_self
    unfold insertEntry
    rw [if_neg (String.lt_asymm here), if_neg]
    · rw [inductionHypothesis fun entry member => before entry (List.mem_cons_of_mem _ member)]
      rfl
    · intro equal
      subst equal
      exact String.lt_irrefl _ here

theorem entries_foldl_insert (rest : List (String × Value)) (map : Map Value)
    (sorted : (map.entries ++ rest).Pairwise (fun first second => first.1 < second.1)) :
    (rest.foldl (fun map entry => map.insert entry.1 entry.2) map).entries =
      map.entries ++ rest := by
  induction rest generalizing map with
  | nil => simp
  | cons entry rest inductionHypothesis =>
    have before : ∀ other ∈ map.entries, other.1 < entry.1 := fun other member =>
      (List.pairwise_append.mp sorted).2.2 other member entry List.mem_cons_self
    have inserted : (map.insert entry.1 entry.2).entries = map.entries ++ [entry] :=
      insertEntry_of_all_lt before
    rw [List.foldl_cons, inductionHypothesis]
    · rw [inserted, List.append_assoc, List.singleton_append]
    · rw [inserted, List.append_assoc, List.singleton_append]
      exact sorted

/-- A map is the map of its own entries. -/
theorem ofList_entries (map : Map Value) : ofList map.entries = map :=
  ext (entries_foldl_insert map.entries empty map.sorted)

theorem get?_foldl_insert (name : String) (rest : List (String × Value)) (map : Map Value) :
    (rest.foldl (fun map entry => map.insert entry.1 entry.2) map).get? name =
      ((ofList rest).get? name).or (map.get? name) := by
  unfold ofList
  induction rest generalizing map with
  | nil => rfl
  | cons entry rest inductionHypothesis =>
    rw [List.foldl_cons, List.foldl_cons, inductionHypothesis (map.insert _ _),
      inductionHypothesis (empty.insert _ _), Option.or_assoc]
    congr 1
    by_cases same : name = entry.1
    · rw [same, get?_insert_self, get?_insert_self, Option.some_or]
    · rw [get?_insert_other _ _ same, get?_insert_other _ _ same, get?_empty, Option.none_or]

/-- The second of two maps wins. -/
theorem get?_union (first second : Map Value) (name : String) :
    (first.union second).get? name = (second.get? name).or (first.get? name) := by
  unfold union
  rw [get?_foldl_insert, ofList_entries]

theorem get?_map (change : Value → Result) (source : Map Value) (name : String) :
    (source.map change).get? name = (source.get? name).map change := by
  obtain ⟨entries, sorted⟩ := source
  show lookup name (entries.map _) = (lookup name entries).map change
  clear sorted
  induction entries with
  | nil => rfl
  | cons entry entries inductionHypothesis =>
    rw [List.map_cons, lookup, lookup, inductionHypothesis]
    split <;> rfl

end Map

end GatewayOperator
