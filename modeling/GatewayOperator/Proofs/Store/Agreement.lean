/-
This file compares a store of documents with a store in memory. The documents stand for the memory
when at every place there is a document of the object there. Every operation of a client then gives
back the same from both, and the documents stand for the memory afterwards. So what a memory gives
back in any run is what is read from documents, though these are exchanged member by member.
-/

import GatewayOperator.Proofs.Store.Documents

namespace GatewayOperator

namespace Documents

/-! ### Agreement with a store in memory -/

/-- Documents stand for a memory: at every place there is a document of the object there, and all
else is the same. -/
structure StandFor (documents : Documents) (memory : Memory) : Prop where
  kept : ∀ key, Option.Rel Stored.KeptAs (memory.object? key) (documents.document? key)
  lastVersion : documents.lastVersion = memory.lastVersion
  lastUid : documents.lastUid = memory.lastUid
  writes : documents.writes = memory.writes
  conflicts : documents.conflicts = memory.conflicts

namespace StandFor

variable {documents : Documents} {memory : Memory}

theorem document?_missing (stands : documents.StandFor memory) {key : ObjectKey}
    (missing : memory.object? key = none) : documents.document? key = none := by
  have kept := stands.kept key
  rw [missing] at kept
  cases kept' : documents.document? key with
  | none => rfl
  | some document =>
    rw [kept'] at kept
    cases kept

theorem exists_document (stands : documents.StandFor memory) {key : ObjectKey} {stored : Stored}
    (found : memory.object? key = some stored) :
    ∃ document, documents.document? key = some document ∧ stored.KeptAs document := by
  have kept := stands.kept key
  rw [found] at kept
  generalize documents.document? key = document at kept
  cases kept with
  | some kept => exact ⟨_, rfl, kept⟩

theorem nextVersion (stands : documents.StandFor memory) :
    documents.nextVersion = Memory.versionText (memory.lastVersion + 1) := by
  unfold Documents.nextVersion
  rw [stands.lastVersion]

/-- An object and a document of it are written alike. -/
theorem write (stands : documents.StandFor memory) {stored : Stored} {document : Json}
    (kept : stored.KeptAs document) (key : ObjectKey) :
    (documents.write key document).StandFor (memory.write key stored) where
  kept other := by
    by_cases same : other = key
    · rw [same]
      show Option.Rel _ (Memory.lookup key (Memory.put key stored memory.objects))
        (Function.update documents.document? key (some document) key)
      rw [Memory.lookup_put_self, Function.update_self]
      exact .some kept
    · show Option.Rel _ (Memory.lookup other (Memory.put key stored memory.objects))
        (Function.update documents.document? key (some document) other)
      rw [Memory.lookup_put_other stored memory.objects same, Function.update_of_ne same]
      exact stands.kept other
  lastVersion := congrArg (· + 1) stands.lastVersion
  lastUid := stands.lastUid
  writes := stands.writes
  conflicts := stands.conflicts

theorem log (stands : documents.StandFor memory) (verb : WriteVerb) (key : ObjectKey) :
    (documents.log verb key).StandFor (memory.log verb key) where
  kept := stands.kept
  lastVersion := stands.lastVersion
  lastUid := stands.lastUid
  writes := by
    show documents.writes ++ _ = memory.writes ++ _
    rw [stands.writes]
  conflicts := stands.conflicts

theorem numbered (stands : documents.StandFor memory) (lastUid : Nat) :
    Documents.StandFor { documents with lastUid } { memory with lastUid } :=
  ⟨stands.kept, stands.lastVersion, rfl, stands.writes, stands.conflicts⟩

theorem settleConflict (stands : documents.StandFor memory) (key : ObjectKey) :
    (documents.settleConflict key).StandFor (memory.settleConflict key) where
  kept := stands.kept
  lastVersion := stands.lastVersion
  lastUid := stands.lastUid
  writes := stands.writes
  conflicts := by
    show documents.conflicts.filter _ = memory.conflicts.filter _
    rw [stands.conflicts]

/-- An object is put at its place alike. -/
theorem place (stands : documents.StandFor memory) (kind : Kind) (key : ObjectKey)
    (object : kind.Object) :
    (documents.place kind key object).1 = (memory.place kind key object).1 ∧
      (documents.place kind key object).2.StandFor (memory.place kind key object).2 := by
  unfold Documents.place Memory.place Memory.stamp
  rw [stands.nextVersion, stands.lastUid]
  dsimp only
  cases (kind.metadata object).uid with
  | some uid => exact ⟨rfl, stands.write (.write _) key⟩
  | none => exact ⟨rfl, (stands.write (.write _) key).numbered (memory.lastUid + 1)⟩

/-- A seed is answered alike. -/
theorem seed (stands : documents.StandFor memory) (kind : Kind) (object : kind.Object) :
    (documents.seed kind object).1 = (memory.seed kind object).1 ∧
      (documents.seed kind object).2.StandFor (memory.seed kind object).2 := by
  unfold Documents.seed Memory.seed
  cases kind.objectName? object with
  | none => exact ⟨rfl, stands⟩
  | some name =>
    obtain ⟨same, after⟩ := stands.place kind (.of kind name) object
    exact ⟨congrArg Except.ok same, after⟩

/-- A create is answered alike. -/
theorem create (stands : documents.StandFor memory) (kind : Kind) (object : kind.Object) :
    (documents.create kind object).1 = (memory.create kind object).1 ∧
      (documents.create kind object).2.StandFor (memory.create kind object).2 := by
  unfold Documents.create Memory.create
  cases kind.objectName? object with
  | none => exact ⟨rfl, stands⟩
  | some name =>
    cases found : memory.object? (.of kind name) with
    | none =>
      obtain ⟨same, after⟩ := stands.place kind (.of kind name) object
      simp only [found, stands.document?_missing found]
      exact ⟨congrArg Except.ok same, after.log .create _⟩
    | some stored =>
      obtain ⟨document, present, -⟩ := stands.exists_document found
      simp only [found, present]
      exact ⟨trivial, stands⟩

/-- An object is read alike. -/
theorem get (stands : documents.StandFor memory) (wellKept : memory.WellKept) (kind : Kind)
    (name : ObjectName) : documents.get kind name = memory.get kind name := by
  unfold Documents.get Memory.get
  cases found : memory.object? (.of kind name) with
  | none => rw [stands.document?_missing found]
  | some stored =>
    obtain ⟨document, present, kept⟩ := stands.exists_document found
    obtain ⟨storedKind, object⟩ := stored
    rw [present]
    dsimp only
    by_cases same : storedKind = kind
    · subst same
      rw [kept.read, Stored.readAs_self]
      rfl
    · have label := (Stored.label_of_key? (wellKept.place _ _ found)).1
      cases kept with
      | written =>
        have other : Stored.readAs ⟨storedKind, object⟩ kind =
          kind.codec.read (storedKind.codec.write object) := dif_neg same
        rw [other, ← Kind.write_eq_document]
        cases kind.codec.read (storedKind.codec.write object) <;> rfl
      | nullStatus =>
        have alone : Kind.gateway.Alone := by decide
        exact absurd (alone.eq_of_label label.symm).symm same

/-- A document from which an object is read is stored as that object is. -/
theorem store (stands : documents.StandFor memory) {kind : Kind} {object : kind.Object}
    {document : Json} (kept : Stored.KeptAs ⟨kind, object⟩ document) (verb : WriteVerb)
    (key : ObjectKey) :
    (documents.store kind verb key document).1 = .ok object ∧
      (documents.store kind verb key document).2.StandFor
        ((memory.write key ⟨kind, object⟩).log verb key) := by
  unfold Documents.store
  rw [kept.read]
  exact ⟨rfl, (stands.write kept key).log verb key⟩

/-- The document of an update is one of the object that a memory stores. -/
theorem keptAs_replacement (stands : documents.StandFor memory) {stored : Stored}
    {document : Json} (kept : stored.KeptAs document) {kind : Kind}
    (label : stored.kind.label = kind.label) (object : kind.Object) :
    Stored.KeptAs ⟨kind, memory.replacement kind stored object⟩
      ((kind.codec.write (kind.withMetadata object
        { kind.metadata object with
          resourceVersion := some documents.nextVersion
          uid := document.metadataText? "uid" })).withStatusOf document) := by
  obtain ⟨storedKind, existing⟩ := stored
  rw [stands.nextVersion, kept.metadataText?_uid]
  by_cases same : storedKind = kind
  · subst same
    have replaced := kept.withStatusOf (storedKind.withMetadata object
      { memory.stamp (storedKind.metadata object) with uid := (storedKind.metadata existing).uid })
    rw [Memory.replacement_stored]
    exact replaced
  · -- Only the two versions of Events share their word, and neither has a status.
    obtain ⟨storedNone, kindNone, statusless⟩ := Kind.statusless_of_label label same
    obtain ⟨metadata, other, replaced, isMetadata⟩ :=
      memory.replacement_spec kind ⟨storedKind, existing⟩ object
    rw [replaced, statusless, isMetadata, Kind.write_eq_document]
    cases kept with
    | written =>
      rw [Kind.withStatusOf_document, storedNone, ← kindNone (kind.withMetadata object _)]
      exact .written _
    | nullStatus =>
      have alone : Kind.gateway.Alone := by decide
      exact absurd (alone.eq_of_label label.symm).symm same

/-- An update is answered alike. -/
theorem update (stands : documents.StandFor memory) (wellKept : memory.WellKept) (kind : Kind)
    (object : kind.Object) :
    (documents.update kind object).1 = (memory.update kind object).1 ∧
      (documents.update kind object).2.StandFor (memory.update kind object).2 := by
  unfold Documents.update Memory.update
  cases kind.objectName? object with
  | none => exact ⟨rfl, stands⟩
  | some name =>
    dsimp only
    rw [stands.conflicts]
    split
    · exact ⟨rfl, stands.settleConflict (.of kind name)⟩
    · cases found : memory.object? (.of kind name) with
      | none =>
        rw [stands.document?_missing found]
        exact ⟨rfl, stands⟩
      | some stored =>
        obtain ⟨document, present, kept⟩ := stands.exists_document found
        have label := (Stored.label_of_key? (wellKept.place _ _ found)).1
        have stale : Documents.isStale document (kind.metadata object) =
            Memory.isStale stored.metadata (kind.metadata object) := by
          unfold Documents.isStale Memory.isStale
          rw [kept.metadataText?_resourceVersion]
          rfl
        simp only [present, stale]
        split
        · exact ⟨rfl, stands⟩
        · exact stands.store (stands.keptAs_replacement kept label object) .update _

/-- A write of a status is answered alike. -/
theorem updateStatus (stands : documents.StandFor memory) (wellKept : memory.WellKept)
    (gateway : Gateway) :
    (documents.updateStatus gateway).1 = (memory.updateStatus gateway).1 ∧
      (documents.updateStatus gateway).2.StandFor (memory.updateStatus gateway).2 := by
  cases named : Kind.gateway.objectName? gateway with
  | none =>
    rw [memory.updateStatus_nameless named]
    unfold Documents.updateStatus
    rw [named]
    exact ⟨rfl, stands⟩
  | some name =>
    unfold Documents.updateStatus
    rw [named]
    cases found : memory.object? (.of .gateway name) with
    | none =>
      rw [Memory.updateStatus_unread named (Memory.get_missing found)]
      dsimp only
      rw [stands.document?_missing found]
      exact ⟨rfl, stands⟩
    | some stored =>
      obtain ⟨present, rfl, -⟩ :=
        wellKept.exists_object (show Kind.gateway.Alone by decide) found
      obtain ⟨document, isDocument, kept⟩ := stands.exists_document found
      obtain ⟨version, -, versioned⟩ := wellKept.version _ _ found
      have isVersioned : present.metadata.resourceVersion.isSome = true := by
        rw [show present.metadata.resourceVersion = _ from versioned]
        rfl
      rw [Memory.updateStatus_read named (Memory.get_found found)]
      dsimp only
      rw [isDocument]
      have written := (kept.withMember_status gateway.status).withVersion isVersioned
        documents.nextVersion
      rw [stands.nextVersion] at written ⊢
      exact stands.store written .updateStatus _

end StandFor

end Documents

/-! ### Runs -/

/-- What clients can do to a store whose states are of a type. -/
structure Backend (State : Type) where
  seed : (kind : Kind) → kind.Object → State → Except StoreError kind.Object × State
  store : Store State
  injectConflict : ObjectKey → State → State
  clearWrites : State → State

namespace Backend

variable {State : Type}

/-- Does an operation: the object it gives back, if there is one, or its error; and the state
afterwards. -/
def perform (backend : Backend State) (state : State) :
    Operation → Except StoreError (Option Stored) × State
  | .seed kind object =>
    let answered := backend.seed kind object state
    (answered.1.map fun object => some ⟨kind, object⟩, answered.2)
  | .call request =>
    let answered := backend.store.answer request state
    (answered.1.map fun object => some ⟨request.kind, object⟩, answered.2)
  | .injectConflict key => (.ok none, backend.injectConflict key state)
  | .clearWrites => (.ok none, backend.clearWrites state)

/-- Does operations one after the other. -/
def after (backend : Backend State) (state : State) : List Operation → State
  | [] => state
  | operation :: rest => backend.after (backend.perform state operation).2 rest

theorem after_append (backend : Backend State) (state : State) (first rest : List Operation) :
    backend.after state (first ++ rest) = backend.after (backend.after state first) rest := by
  induction first generalizing state with
  | nil => rfl
  | cons operation first inductionHypothesis => exact inductionHypothesis _

end Backend

/-- The memory as clients use it. -/
def Memory.backend : Backend Memory where
  seed kind object memory := memory.seed kind object
  store := Memory.store
  injectConflict key memory := memory.injectConflict key
  clearWrites memory := memory.clearWrites

/-- The documents as clients use them. -/
def Documents.backend : Backend Documents where
  seed kind object documents := documents.seed kind object
  store.answer
    | .get kind namespaceName name, documents =>
      (documents.get kind ⟨namespaceName, name⟩, documents)
    | .create kind object, documents => documents.create kind object
    | .update kind object, documents => documents.update kind object
    | .updateStatus gateway, documents => documents.updateStatus gateway
  injectConflict key documents := documents.injectConflict key
  clearWrites documents := documents.clearWrites

theorem Memory.backend_perform (memory : Memory) (operation : Operation) :
    (Memory.backend.perform memory operation).2 = (operation.perform memory).memory := by
  cases operation <;> rfl

theorem Memory.Reachable.backend_perform {memory : Memory} (reachable : memory.Reachable)
    (operation : Operation) : (Memory.backend.perform memory operation).2.Reachable := by
  rw [Memory.backend_perform]
  exact reachable.perform operation

theorem Memory.Reachable.after {memory : Memory} (reachable : memory.Reachable)
    (operations : List Operation) : (Memory.backend.after memory operations).Reachable := by
  induction operations generalizing memory with
  | nil => exact reachable
  | cons operation operations inductionHypothesis =>
    exact inductionHypothesis (reachable.backend_perform operation)

namespace Documents.StandFor

variable {documents : Documents} {memory : Memory}

/-- Every operation gives back the same, and the documents stand for the memory afterwards. -/
theorem perform (stands : documents.StandFor memory) (wellKept : memory.WellKept)
    (operation : Operation) :
    (Documents.backend.perform documents operation).1 =
        (Memory.backend.perform memory operation).1 ∧
      (Documents.backend.perform documents operation).2.StandFor
        (Memory.backend.perform memory operation).2 := by
  have mapped : ∀ {kind : Kind} {first second : Except StoreError kind.Object},
      first = second → first.map (fun object => some (Stored.mk kind object)) =
        second.map fun object => some ⟨kind, object⟩ := fun same => congrArg _ same
  cases operation with
  | seed kind object =>
    obtain ⟨same, after⟩ := stands.seed kind object
    exact ⟨mapped same, after⟩
  | call request =>
    cases request with
    | get kind namespaceName name =>
      exact ⟨mapped (stands.get wellKept kind ⟨namespaceName, name⟩), stands⟩
    | create kind object =>
      obtain ⟨same, after⟩ := stands.create kind object
      exact ⟨mapped same, after⟩
    | update kind object =>
      obtain ⟨same, after⟩ := stands.update wellKept kind object
      exact ⟨mapped same, after⟩
    | updateStatus gateway =>
      obtain ⟨same, after⟩ := stands.updateStatus wellKept gateway
      exact ⟨mapped same, after⟩
  | injectConflict key =>
    refine ⟨rfl, ?_⟩
    show (documents.injectConflict key).StandFor (memory.injectConflict key)
    unfold Documents.injectConflict Memory.injectConflict
    rw [stands.conflicts]
    split
    · exact stands
    · exact ⟨stands.kept, stands.lastVersion, stands.lastUid, stands.writes, rfl⟩
  | clearWrites =>
    exact ⟨rfl, stands.kept, stands.lastVersion, stands.lastUid, rfl, stands.conflicts⟩

/-- The documents stand for the memory after every run. -/
theorem after (stands : documents.StandFor memory) (reachable : memory.Reachable)
    (operations : List Operation) :
    (Documents.backend.after documents operations).StandFor
      (Memory.backend.after memory operations) := by
  induction operations generalizing documents memory with
  | nil => exact stands
  | cons operation operations inductionHypothesis =>
    exact inductionHypothesis (stands.perform reachable.wellKept operation).2
      (reachable.backend_perform operation)

/-- No documents stand for an empty memory. -/
theorem empty : Documents.StandFor {} {} :=
  ⟨fun _ => .none, rfl, rfl, rfl, rfl⟩

end Documents.StandFor

end GatewayOperator
