/-
This file says which states a store in memory can be in. Whatever its clients do, every object
lies at its own place, under a version that was given once and to it alone, and an object that was
created is never created again. A version that is read therefore names one object: as long as the
place holds that version, it holds that object.
-/

import GatewayOperator.Store.Memory
import GatewayOperator.Proofs.Cluster.Kind

namespace GatewayOperator

/-! ### Places -/

/-- The place an object belongs to, if it has a name. -/
def Stored.key? (stored : Stored) : Option ObjectKey :=
  (stored.kind.objectName? stored.object).map (.of stored.kind)

theorem Stored.key?_of_named {kind : Kind} {object : kind.Object} {name : ObjectName}
    (named : kind.objectName? object = some name) :
    Stored.key? ⟨kind, object⟩ = some (.of kind name) := by
  unfold Stored.key?
  rw [named]
  rfl

theorem ObjectKey.of_eq_of {kind other : Kind} {name otherName : ObjectName} :
    ObjectKey.of kind name = .of other otherName ↔ kind.label = other.label ∧ name = otherName := by
  unfold ObjectKey.of
  rw [ObjectKey.mk.injEq, ← ObjectName.mk.injEq]

/-- A place that is not the one of an object that has a name is another place. -/
theorem ObjectKey.ne_of_elsewhere {kind : Kind} {named : Option ObjectName} {name : ObjectName}
    {key : ObjectKey} (isNamed : named = some name) (elsewhere : named.map (.of kind) ≠ some key) :
    key ≠ .of kind name := by
  rintro rfl
  rw [isNamed] at elsewhere
  exact elsewhere rfl

/-- The kind and the name of an object are known from its place, up to kinds that share a word. -/
theorem Stored.label_of_key? {stored : Stored} {kind : Kind} {name : ObjectName}
    (place : stored.key? = some (.of kind name)) :
    stored.kind.label = kind.label ∧ stored.kind.objectName? stored.object = some name := by
  obtain ⟨other, named, same⟩ := Option.map_eq_some_iff.mp place
  obtain ⟨label, rfl⟩ := ObjectKey.of_eq_of.mp same
  exact ⟨label, named⟩

theorem Stored.metadata_withMetadata (kind : Kind) (object : kind.Object)
    (metadata : ObjectMeta) :
    Stored.metadata ⟨kind, kind.withMetadata object metadata⟩ = metadata :=
  Kind.metadata_withMetadata kind object metadata

namespace Memory

/-! ### Versions -/

/-- The texts of two versions differ. -/
theorem versionText_injective {first second : Nat}
    (same : versionText first = versionText second) : first = second :=
  Int.ofNat.inj (Decimal.integerText_injective same)

/-! ### What calls do -/

/-- An object was written at its place with the next version. Nothing is said of the log. -/
structure Wrote (before : Memory) (key : ObjectKey) (stored : Stored) (after : Memory) : Prop where
  objects : after.objects = put key stored before.objects
  lastVersion : after.lastVersion = before.lastVersion + 1
  place : stored.key? = some key
  version : stored.metadata.resourceVersion = some (versionText (before.lastVersion + 1))

/-- The objects and the version given last are as before. -/
structure Kept (before after : Memory) : Prop where
  objects : after.objects = before.objects
  lastVersion : after.lastVersion = before.lastVersion

theorem Kept.refl (memory : Memory) : Kept memory memory := ⟨rfl, rfl⟩

theorem Kept.object? {before after : Memory} (kept : Kept before after) (key : ObjectKey) :
    after.object? key = before.object? key := by
  unfold Memory.object?
  rw [kept.objects]

theorem Wrote.object?_self {before after : Memory} {key : ObjectKey} {stored : Stored}
    (wrote : Wrote before key stored after) : after.object? key = some stored := by
  unfold Memory.object?
  rw [wrote.objects, lookup_put_self]

theorem Wrote.object?_other {before after : Memory} {key other : ObjectKey} {stored : Stored}
    (wrote : Wrote before key stored after) (different : other ≠ key) :
    after.object? other = before.object? other := by
  unfold Memory.object?
  rw [wrote.objects, lookup_put_other stored before.objects different]

/-- An object as it is put at its place: with the next version, and with the next uid if it has
none. -/
def placed (memory : Memory) (kind : Kind) (object : kind.Object) : kind.Object :=
  kind.withMetadata object
    { memory.stamp (kind.metadata object) with
      uid := some ((kind.metadata object).uid.getD (uidText (memory.lastUid + 1))) }

theorem place_spec (memory : Memory) {kind : Kind} {object : kind.Object} {name : ObjectName}
    (named : kind.objectName? object = some name) :
    (memory.place kind (.of kind name) object).1 = memory.placed kind object ∧
      Wrote memory (.of kind name) ⟨kind, memory.placed kind object⟩
        (memory.place kind (.of kind name) object).2 ∧
      (memory.place kind (.of kind name) object).2.writes = memory.writes := by
  have place : Stored.key? ⟨kind, memory.placed kind object⟩ = some (.of kind name) := by
    refine Stored.key?_of_named (Eq.trans (Kind.objectName?_congr ?_ ?_) named)
    · rw [placed, Kind.metadata_withMetadata]
      rfl
    · rw [placed, Kind.metadata_withMetadata]
      rfl
  have version : Stored.metadata ⟨kind, memory.placed kind object⟩ =
      { memory.stamp (kind.metadata object) with
        uid := some ((kind.metadata object).uid.getD (uidText (memory.lastUid + 1))) } :=
    Stored.metadata_withMetadata kind object _
  unfold Memory.place
  dsimp only
  split
  · next uid given =>
    have same : kind.withMetadata object (memory.stamp (kind.metadata object)) =
        memory.placed kind object := by
      replace given : (kind.metadata object).uid = some uid := given
      unfold placed
      rw [given, Option.getD_some, ← given]
      rfl
    rw [same]
    refine ⟨rfl, ⟨rfl, rfl, place, ?_⟩, rfl⟩
    rw [version]
    rfl
  · next lacks =>
    have same : kind.withMetadata object { memory.stamp (kind.metadata object) with
        uid := some (uidText (memory.lastUid + 1)) } = memory.placed kind object := by
      replace lacks : (kind.metadata object).uid = none := lacks
      unfold placed
      rw [lacks, Option.getD_none]
    rw [same]
    refine ⟨rfl, ⟨rfl, rfl, place, ?_⟩, rfl⟩
    rw [version]
    rfl

theorem create_nameless (memory : Memory) {kind : Kind} {object : kind.Object}
    (nameless : kind.objectName? object = none) :
    memory.create kind object = (.error (.missingName kind.label), memory) := by
  unfold create
  rw [nameless]

/-- A create of an object whose name is taken fails. -/
theorem create_taken (memory : Memory) {kind : Kind} {object : kind.Object} {name : ObjectName}
    {stored : Stored} (named : kind.objectName? object = some name)
    (taken : memory.object? (.of kind name) = some stored) :
    memory.create kind object =
      (.error (.alreadyExists kind.label name.namespaceName name.name), memory) := by
  simp only [create, named, taken]

/-- A create of an object whose name is free puts it at its place. -/
theorem create_free (memory : Memory) {kind : Kind} {object : kind.Object} {name : ObjectName}
    (named : kind.objectName? object = some name)
    (free : memory.object? (.of kind name) = none) :
    memory.create kind object = (.ok (memory.placed kind object),
      (memory.place kind (.of kind name) object).2.log .create (.of kind name)) := by
  simp only [create, named, free, (memory.place_spec named).1]

/-- A create stores the object at a free place, or changes nothing. -/
theorem create_cases (memory : Memory) (kind : Kind) (object : kind.Object) :
    (∃ cause, memory.create kind object = (.error cause, memory)) ∨
    ∃ name after, kind.objectName? object = some name ∧
      memory.object? (.of kind name) = none ∧
      memory.create kind object = (.ok (memory.placed kind object), after) ∧
      Wrote memory (.of kind name) ⟨kind, memory.placed kind object⟩ after ∧
      after.writes = memory.writes ++ [⟨.create, .of kind name⟩] := by
  cases named : kind.objectName? object with
  | none => exact Or.inl ⟨_, memory.create_nameless named⟩
  | some name =>
    cases taken : memory.object? (.of kind name) with
    | some stored => exact Or.inl ⟨_, memory.create_taken named taken⟩
    | none =>
      obtain ⟨-, wrote, writes⟩ := memory.place_spec named
      refine Or.inr ⟨name, _, rfl, taken, memory.create_free named taken, ⟨wrote.objects,
        wrote.lastVersion, wrote.place, wrote.version⟩, ?_⟩
      unfold log
      rw [writes]

/-- A seed stores the object, or changes nothing when it has no name. It is not logged. -/
theorem seed_cases (memory : Memory) (kind : Kind) (object : kind.Object) :
    (∃ cause, memory.seed kind object = (.error cause, memory)) ∨
    ∃ name after, kind.objectName? object = some name ∧
      memory.seed kind object = (.ok (memory.placed kind object), after) ∧
      Wrote memory (.of kind name) ⟨kind, memory.placed kind object⟩ after ∧
      after.writes = memory.writes := by
  cases named : kind.objectName? object with
  | none =>
    refine Or.inl ⟨.missingName kind.label, ?_⟩
    unfold seed
    rw [named]
  | some name =>
    obtain ⟨placed, wrote, writes⟩ := memory.place_spec named
    refine Or.inr ⟨name, _, rfl, ?_, wrote, writes⟩
    simp only [seed, named, placed]

/-- The object an update stores is the given one with other metadata and the stored status. -/
theorem replacement_spec (memory : Memory) (kind : Kind) (stored : Stored)
    (object : kind.Object) :
    ∃ metadata other, memory.replacement kind stored object =
        kind.withStatusOf (kind.withMetadata object metadata) other ∧
      metadata = { memory.stamp (kind.metadata object) with uid := stored.metadata.uid } := by
  unfold replacement
  dsimp only
  split
  · exact ⟨_, _, rfl, rfl⟩
  · exact ⟨_, object, (kind.withStatusOf_withMetadata_self object _).symm, rfl⟩

/-- The memory after an update of a place whose conflict waited. -/
def settleConflict (memory : Memory) (key : ObjectKey) : Memory :=
  { memory with conflicts := memory.conflicts.filter (· != key) }

theorem update_nameless (memory : Memory) {kind : Kind} {object : kind.Object}
    (nameless : kind.objectName? object = none) :
    memory.update kind object = (.error (.missingName kind.label), memory) := by
  unfold update
  rw [nameless]

/-- An update whose conflict waited fails once. -/
theorem update_injected (memory : Memory) {kind : Kind} {object : kind.Object}
    {name : ObjectName} (named : kind.objectName? object = some name)
    (injected : memory.conflicts.contains (.of kind name) = true) :
    memory.update kind object = (.error (.conflict kind.label name.namespaceName name.name
      "the object has been modified"), memory.settleConflict (.of kind name)) := by
  simp only [update, named, injected, if_true, settleConflict]

theorem update_missing (memory : Memory) {kind : Kind} {object : kind.Object}
    {name : ObjectName} (named : kind.objectName? object = some name)
    (notInjected : memory.conflicts.contains (.of kind name) = false)
    (missing : memory.object? (.of kind name) = none) :
    memory.update kind object =
      (.error (.notFound kind.label name.namespaceName name.name), memory) := by
  simp only [update, named, notInjected, missing, Bool.false_eq_true, if_false]

/-- An update of an object that was written since it was read fails. -/
theorem update_stale (memory : Memory) {kind : Kind} {object : kind.Object}
    {name : ObjectName} {stored : Stored} (named : kind.objectName? object = some name)
    (notInjected : memory.conflicts.contains (.of kind name) = false)
    (found : memory.object? (.of kind name) = some stored)
    (stale : isStale stored.metadata (kind.metadata object) = true) :
    memory.update kind object = (.error (.conflict kind.label name.namespaceName name.name
      ("the object has been modified; " ++ "please apply your changes to the latest version")),
      memory) := by
  simp only [update, named, notInjected, found, stale, Bool.false_eq_true, if_false, if_true]

theorem update_fresh (memory : Memory) {kind : Kind} {object : kind.Object}
    {name : ObjectName} {stored : Stored} (named : kind.objectName? object = some name)
    (notInjected : memory.conflicts.contains (.of kind name) = false)
    (found : memory.object? (.of kind name) = some stored)
    (fresh : isStale stored.metadata (kind.metadata object) = false) :
    memory.update kind object = (.ok (memory.replacement kind stored object),
      (memory.write (.of kind name) ⟨kind, memory.replacement kind stored object⟩).log .update
        (.of kind name)) := by
  simp only [update, named, notInjected, found, fresh, Bool.false_eq_true, if_false]

/-- An update that is based on a version its place no longer has is a conflict and stores nothing,
whether or not another conflict waited. -/
theorem update_conflict (memory : Memory) {kind : Kind} {object : kind.Object}
    {name : ObjectName} {stored : Stored} (named : kind.objectName? object = some name)
    (found : memory.object? (.of kind name) = some stored)
    (stale : isStale stored.metadata (kind.metadata object) = true) :
    ∃ message after, memory.update kind object =
        (.error (.conflict kind.label name.namespaceName name.name message), after) ∧
      Kept memory after ∧ after.writes = memory.writes := by
  cases injected : memory.conflicts.contains (.of kind name) with
  | true => exact ⟨_, _, memory.update_injected named injected, ⟨rfl, rfl⟩, rfl⟩
  | false => exact ⟨_, _, memory.update_stale named injected found stale, .refl memory, rfl⟩

/-- An update stores the given object, up to the status, in the place of one it is not stale
against; or it changes no object. -/
theorem update_cases (memory : Memory) (kind : Kind) (object : kind.Object) :
    (∃ cause after, memory.update kind object = (.error cause, after) ∧ Kept memory after ∧
      after.writes = memory.writes) ∨
    ∃ name stored metadata other after, kind.objectName? object = some name ∧
      memory.object? (.of kind name) = some stored ∧
      isStale stored.metadata (kind.metadata object) = false ∧
      memory.update kind object =
        (.ok (kind.withStatusOf (kind.withMetadata object metadata) other), after) ∧
      Wrote memory (.of kind name)
        ⟨kind, kind.withStatusOf (kind.withMetadata object metadata) other⟩ after ∧
      after.writes = memory.writes ++ [⟨.update, .of kind name⟩] := by
  cases named : kind.objectName? object with
  | none => exact Or.inl ⟨_, _, memory.update_nameless named, .refl memory, rfl⟩
  | some name =>
    cases injected : memory.conflicts.contains (.of kind name) with
    | true => exact Or.inl ⟨_, _, memory.update_injected named injected, ⟨rfl, rfl⟩, rfl⟩
    | false =>
      cases found : memory.object? (.of kind name) with
      | none => exact Or.inl ⟨_, _, memory.update_missing named injected found, .refl memory, rfl⟩
      | some stored =>
        cases stale : isStale stored.metadata (kind.metadata object) with
        | true =>
          exact Or.inl ⟨_, _, memory.update_stale named injected found stale, .refl memory, rfl⟩
        | false =>
          have updated := memory.update_fresh named injected found stale
          obtain ⟨metadata, other, replacement, same⟩ :=
            memory.replacement_spec kind stored object
          rw [replacement] at updated
          refine Or.inr ⟨name, stored, metadata, other, _, rfl, found, stale, updated, ?_, rfl⟩
          have sameMetadata : kind.metadata
              (kind.withStatusOf (kind.withMetadata object metadata) other) = metadata := by
            rw [Kind.metadata_withStatusOf, Kind.metadata_withMetadata]
          refine ⟨rfl, rfl, Stored.key?_of_named (Eq.trans (Kind.objectName?_congr ?_ ?_) named),
            ?_⟩
          · rw [sameMetadata, same]
            rfl
          · rw [sameMetadata, same]
            rfl
          · unfold Stored.metadata
            rw [sameMetadata, same]
            rfl

/-! ### The invariant -/

/-- Every object lies at its own place under a version that was given, and every creation in the
log is the only one of its place, which has held an object since. -/
structure WellKept (memory : Memory) : Prop where
  place : ∀ key stored, memory.object? key = some stored → stored.key? = some key
  version : ∀ key stored, memory.object? key = some stored →
    ∃ version ≤ memory.lastVersion, stored.metadata.resourceVersion = some (versionText version)
  created : ∀ key, ⟨.create, key⟩ ∈ memory.writes → (memory.object? key).isSome
  once : ∀ key, memory.writes.count ⟨.create, key⟩ ≤ 1

theorem wellKept_empty : WellKept {} where
  place _ _ found := nomatch found
  version _ _ found := nomatch found
  created _ logged := nomatch logged
  once _ := Nat.zero_le 1

/-- A step that leaves the objects alone and logs nothing keeps the invariant. -/
theorem WellKept.kept {before after : Memory} (wellKept : WellKept before)
    (kept : Kept before after) (writes : after.writes.Sublist before.writes) :
    WellKept after where
  place key stored found := wellKept.place key stored (kept.object? key ▸ found)
  version key stored found := by
    obtain ⟨version, given, same⟩ := wellKept.version key stored (kept.object? key ▸ found)
    exact ⟨version, kept.lastVersion ▸ given, same⟩
  created key logged := by
    rw [kept.object? key]
    exact wellKept.created key (writes.subset logged)
  once key := Nat.le_trans (writes.count_le _) (wellKept.once key)

/-- A write keeps the invariant, when a creation is logged for a free place only. -/
theorem WellKept.wrote {before after : Memory} (wellKept : WellKept before) {key : ObjectKey}
    {stored : Stored} (wrote : Wrote before key stored after)
    (writes : after.writes = before.writes ∨ ∃ verb,
      after.writes = before.writes ++ [⟨verb, key⟩] ∧
        (verb = .create → before.object? key = none)) :
    WellKept after where
  place other found present := by
    by_cases same : other = key
    · subst same
      rw [wrote.object?_self] at present
      cases present
      exact wrote.place
    · rw [wrote.object?_other same] at present
      exact wellKept.place other found present
  version other found present := by
    by_cases same : other = key
    · subst same
      rw [wrote.object?_self] at present
      cases present
      exact ⟨_, Nat.le_of_eq wrote.lastVersion.symm, wrote.version⟩
    · rw [wrote.object?_other same] at present
      obtain ⟨version, given, text⟩ := wellKept.version other found present
      refine ⟨version, ?_, text⟩
      rw [wrote.lastVersion]
      exact Nat.le_succ_of_le given
  created other logged := by
    by_cases same : other = key
    · rw [same, wrote.object?_self]
      rfl
    · rw [wrote.object?_other same]
      refine wellKept.created other ?_
      rcases writes with unlogged | ⟨verb, appended, _⟩
      · exact unlogged ▸ logged
      · rw [appended, List.mem_append, List.mem_singleton] at logged
        rcases logged with earlier | now
        · exact earlier
        · cases now
          exact absurd rfl same
  once other := by
    rcases writes with unlogged | ⟨verb, appended, free⟩
    · rw [unlogged]
      exact wellKept.once other
    · rw [appended, List.count_append]
      by_cases now : (⟨verb, key⟩ : WriteRecord) = ⟨.create, other⟩
      · cases now
        -- The place was free, so no creation of it is in the log yet.
        have absent : ⟨.create, key⟩ ∉ before.writes := fun logged => by
          have present := wellKept.created key logged
          rw [free rfl] at present
          cases present
        rw [List.count_eq_zero.mpr absent, Nat.zero_add]
        exact List.count_le_length
      · rw [List.count_cons_of_ne now, List.count_nil, Nat.add_zero]
        exact wellKept.once other

/-- An object is stored under its name. -/
theorem WellKept.objectName? {memory : Memory} (wellKept : WellKept memory) {kind : Kind}
    {object : kind.Object} {name : ObjectName}
    (found : memory.object? (.of kind name) = some ⟨kind, object⟩) :
    kind.objectName? object = some name :=
  (Stored.label_of_key? (wellKept.place _ _ found)).2

/-! ### Reading -/

/-- A place of a kind that shares its word with no other holds an object of that kind. -/
theorem WellKept.exists_object {memory : Memory} (wellKept : WellKept memory) {kind : Kind}
    (alone : kind.Alone) {name : ObjectName} {stored : Stored}
    (found : memory.object? (.of kind name) = some stored) :
    ∃ object : kind.Object, stored = ⟨kind, object⟩ ∧ kind.objectName? object = some name := by
  obtain ⟨label, named⟩ := Stored.label_of_key? (wellKept.place _ _ found)
  obtain ⟨storedKind, object⟩ := stored
  obtain rfl := alone.eq_of_label label
  exact ⟨object, rfl, named⟩

theorem get_missing {memory : Memory} {kind : Kind} {name : ObjectName}
    (missing : memory.object? (.of kind name) = none) :
    memory.get kind name = .error (.notFound kind.label name.namespaceName name.name) := by
  unfold get
  rw [missing]

theorem get_found {memory : Memory} {kind : Kind} {name : ObjectName} {object : kind.Object}
    (found : memory.object? (.of kind name) = some ⟨kind, object⟩) :
    memory.get kind name = .ok object := by
  simp only [get, found, Stored.readAs_self]

/-- What is read is decided by what is stored there. -/
theorem get_congr {first second : Memory} {kind : Kind} {name : ObjectName}
    (same : first.object? (.of kind name) = second.object? (.of kind name)) :
    first.get kind name = second.get kind name := by
  unfold get
  rw [same]

/-- What is read is what is stored. -/
theorem WellKept.object?_of_get {memory : Memory} (wellKept : WellKept memory) {kind : Kind}
    (alone : kind.Alone) {name : ObjectName} {object : kind.Object}
    (got : memory.get kind name = .ok object) :
    memory.object? (.of kind name) = some ⟨kind, object⟩ := by
  cases found : memory.object? (.of kind name) with
  | none =>
    rw [get_missing found] at got
    cases got
  | some stored =>
    obtain ⟨present, rfl, _⟩ := wellKept.exists_object alone found
    rw [get_found found] at got
    cases got
    rfl

/-- An object of a kind of its own is there, or it is not found. -/
theorem WellKept.get_cases {memory : Memory} (wellKept : WellKept memory) {kind : Kind}
    (alone : kind.Alone) (name : ObjectName) :
    (memory.object? (.of kind name) = none ∧
      memory.get kind name = .error (.notFound kind.label name.namespaceName name.name)) ∨
    ∃ object, memory.object? (.of kind name) = some ⟨kind, object⟩ ∧
      memory.get kind name = .ok object := by
  cases found : memory.object? (.of kind name) with
  | none => exact Or.inl ⟨rfl, get_missing found⟩
  | some stored =>
    obtain ⟨object, rfl, -⟩ := wellKept.exists_object alone found
    exact Or.inr ⟨object, rfl, get_found found⟩

/-- A gateway with the status of another one and the next version. -/
def withStatus (memory : Memory) (stored gateway : Gateway) : Gateway :=
  { stored with metadata := memory.stamp stored.metadata, status := gateway.status }

theorem updateStatus_nameless (memory : Memory) {gateway : Gateway}
    (nameless : Kind.gateway.objectName? gateway = none) :
    memory.updateStatus gateway = (.error (.missingName Kind.gateway.label), memory) := by
  unfold updateStatus
  rw [nameless]

theorem updateStatus_unread {memory : Memory} {gateway : Gateway} {name : ObjectName}
    {cause : StoreError} (named : Kind.gateway.objectName? gateway = some name)
    (fails : memory.get .gateway name = .error cause) :
    memory.updateStatus gateway = (.error cause, memory) := by
  simp only [updateStatus, named, fails]

/-- A status is written to the gateway that is there, and to nothing else of it. -/
theorem updateStatus_read {memory : Memory} {gateway stored : Gateway} {name : ObjectName}
    (named : Kind.gateway.objectName? gateway = some name)
    (got : memory.get .gateway name = .ok stored) :
    memory.updateStatus gateway = (.ok (memory.withStatus stored gateway),
      (memory.write (.of .gateway name) ⟨.gateway, memory.withStatus stored gateway⟩).log
        .updateStatus (.of .gateway name)) := by
  simp only [updateStatus, named, got]
  rfl

theorem WellKept.wrote_withStatus {memory : Memory} (wellKept : WellKept memory)
    {stored : Gateway} {name : ObjectName}
    (found : memory.object? (.of .gateway name) = some ⟨.gateway, stored⟩) (gateway : Gateway) :
    Wrote memory (.of .gateway name) ⟨.gateway, memory.withStatus stored gateway⟩
      ((memory.write (.of .gateway name) ⟨.gateway, memory.withStatus stored gateway⟩).log
        .updateStatus (.of .gateway name)) :=
  ⟨rfl, rfl, Stored.key?_of_named (Stored.label_of_key? (wellKept.place _ _ found)).2, rfl⟩

/-- Writing a status does so to a gateway that is there, or changes nothing. -/
theorem WellKept.updateStatus_cases {memory : Memory} (wellKept : WellKept memory)
    (gateway : Gateway) :
    (∃ cause, memory.updateStatus gateway = (.error cause, memory)) ∨
    ∃ name stored after, Kind.gateway.objectName? gateway = some name ∧
      memory.object? (.of .gateway name) = some ⟨.gateway, stored⟩ ∧
      memory.updateStatus gateway = (.ok (memory.withStatus stored gateway), after) ∧
      Wrote memory (.of .gateway name) ⟨.gateway, memory.withStatus stored gateway⟩ after ∧
      after.writes = memory.writes ++ [⟨.updateStatus, .of .gateway name⟩] := by
  cases named : Kind.gateway.objectName? gateway with
  | none => exact Or.inl ⟨_, memory.updateStatus_nameless named⟩
  | some name =>
    cases got : memory.get .gateway name with
    | error cause => exact Or.inl ⟨cause, updateStatus_unread named got⟩
    | ok stored =>
      have found := wellKept.object?_of_get (by decide) got
      exact Or.inr ⟨name, stored, _, rfl, found, updateStatus_read named got,
        wellKept.wrote_withStatus found gateway, rfl⟩

end Memory

end GatewayOperator
