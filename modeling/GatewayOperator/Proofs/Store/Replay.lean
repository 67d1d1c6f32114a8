/-
This file makes the calls of a run again on another memory. The memories agree where the calls look
and may differ everywhere else, also in the numbers they gave last. A call that finds the same is
answered the same, but what it stores gets the next version of its memory, and the next uid if it is
new. A later call that looked there would see the difference, so no call may come back to a place
that was written. Then the second run answers every call as the first one did, up to those versions
and uids, and logs the same writes. A program that never looks at them ends the same way.
-/

import GatewayOperator.Proofs.Store.Frame
import Mathlib.Data.List.Forall2

namespace GatewayOperator

/-! ### Places -/

/-- The place a call looks at or writes. -/
def Call.key? : Call → Option ObjectKey
  | get kind namespaceName name => some (.of kind ⟨namespaceName, name⟩)
  | request => request.place?

theorem Call.key?_of_place? {request : Call} {key : ObjectKey}
    (place : request.place? = some key) : request.key? = some key := by
  cases request with
  | get kind namespaceName name => cases place
  | create kind object | update kind object | updateStatus gateway => exact place

/-- The place of a call is one of its kind. -/
theorem Call.label_of_key? {request : Call} {key : ObjectKey} (about : request.key? = some key) :
    key.label = request.kind.label := by
  cases request with
  | get kind namespaceName name =>
    cases about
    rfl
  | create kind object | update kind object | updateStatus gateway =>
    obtain ⟨name, -, rfl⟩ := Option.map_eq_some_iff.mp about
    rfl

/-- No call comes back to a place that was written. -/
def Fresh (exchanges : List Exchange) : Prop :=
  exchanges.Pairwise fun earlier later => ∀ key, earlier.call.place? = some key →
    later.call.key? ≠ some key

/-- Two memories hold the same object at a place, and the same conflict waits for it. -/
structure Memory.Agrees (first second : Memory) (key : ObjectKey) : Prop where
  object : second.object? key = first.object? key
  conflict : second.conflicts.contains key = first.conflicts.contains key

/-! ### Twins -/

/-- Two objects are the same, but were stored under two versions; and when they were created, each
may have got its own uid. -/
def Kind.Twins (kind : Kind) (verb : WriteVerb) (first second : kind.Object) : Prop :=
  ∃ version uid, second = kind.withMetadata first
      { kind.metadata first with resourceVersion := version, uid := uid } ∧
    (verb ≠ .create → uid = (kind.metadata first).uid)

/-- An object that gets other metadata may have got some before. -/
theorem Kind.withMetadata_withMetadata (kind : Kind) (object : kind.Object)
    (first second : ObjectMeta) :
    kind.withMetadata (kind.withMetadata object first) second =
      kind.withMetadata object second := by
  cases kind <;> rfl

/-- The metadata and the status of an object are written in any order. -/
theorem Kind.withMetadata_withStatusOf (kind : Kind) (object other : kind.Object)
    (metadata : ObjectMeta) :
    kind.withMetadata (kind.withStatusOf object other) metadata =
      kind.withStatusOf (kind.withMetadata object metadata) other := by
  cases kind <;> rfl

theorem Kind.twins_self (kind : Kind) (verb : WriteVerb) (object : kind.Object) :
    kind.Twins verb object object := by
  refine ⟨(kind.metadata object).resourceVersion, (kind.metadata object).uid, ?_, fun _ => rfl⟩
  cases kind <;> rfl

/-- How a call writes when it does. -/
def Call.verb? : Call → Option WriteVerb
  | get .. => none
  | create .. => some .create
  | update .. => some .update
  | updateStatus .. => some .updateStatus

/-- A call that is made again is answered the same, but what it stores may have a twin. -/
inductive Exchange.Replays : Exchange → Exchange → Prop where
  | same (exchange : Exchange) : Replays exchange exchange
  | stored {request : Call} {verb : WriteVerb} (writes : request.verb? = some verb)
    {first second : request.kind.Object} (twins : request.kind.Twins verb first second) :
    Replays ⟨request, .ok first⟩ ⟨request, .ok second⟩

theorem Exchange.Replays.call_eq {first second : Exchange} (replays : first.Replays second) :
    second.call = first.call := by
  cases replays with
  | same | stored => rfl

theorem calls_of_replays {exchanges others : List Exchange}
    (replays : List.Forall₂ Exchange.Replays exchanges others) :
    others.map Exchange.call = exchanges.map Exchange.call := by
  induction replays with
  | nil => rfl
  | cons head _ inductionHypothesis =>
    rw [List.map_cons, List.map_cons, head.call_eq, inductionHypothesis]

namespace Memory

/-! ### One call -/

theorem object?_put (memory : Memory) (key : ObjectKey) (stored : Stored) (verb : WriteVerb)
    (logged : ObjectKey) : ((memory.write key stored).log verb logged).object? key = some stored :=
  lookup_put_self key stored memory.objects

/-- Two runs have logged the same writes, and what they wrote are twins. -/
structure SameWrites (writes : List WriteRecord) (first firstAfter second secondAfter : Memory) :
    Prop where
  first : firstAfter.writes = first.writes ++ writes
  second : secondAfter.writes = second.writes ++ writes
  twins : ∀ record ∈ writes, ∃ (kind : Kind) (object twin : kind.Object),
    firstAfter.object? record.key = some ⟨kind, object⟩ ∧
    secondAfter.object? record.key = some ⟨kind, twin⟩ ∧ kind.Twins record.verb object twin

theorem sameWrites_nil {first firstAfter second secondAfter : Memory}
    (firstWrites : firstAfter.writes = first.writes)
    (secondWrites : secondAfter.writes = second.writes) :
    SameWrites [] first firstAfter second secondAfter where
  first := by rw [firstWrites, List.append_nil]
  second := by rw [secondWrites, List.append_nil]
  twins _ := nofun

/-- What was written first stays as it is when the later calls leave it alone. -/
theorem SameWrites.append {writes others : List WriteRecord}
    {first firstMiddle firstAfter second secondMiddle secondAfter : Memory}
    (same : SameWrites writes first firstMiddle second secondMiddle)
    (later : SameWrites others firstMiddle firstAfter secondMiddle secondAfter)
    (firstKept : ∀ record ∈ writes,
      firstAfter.object? record.key = firstMiddle.object? record.key)
    (secondKept : ∀ record ∈ writes,
      secondAfter.object? record.key = secondMiddle.object? record.key) :
    SameWrites (writes ++ others) first firstAfter second secondAfter where
  first := by rw [later.first, same.first, List.append_assoc]
  second := by rw [later.second, same.second, List.append_assoc]
  twins := by
    rw [List.forall_mem_append]
    refine ⟨fun record member => ?_, later.twins⟩
    rw [firstKept record member, secondKept record member]
    exact same.twins record member

/-- Two memories that agree on the place of a call answer it the same, up to what they store, and
log the same. -/
structure AnswersAlike (request : Call) (first second : Memory) : Prop where
  replays : Exchange.Replays ⟨request, (store.answer request first).1⟩
    ⟨request, (store.answer request second).1⟩
  sameWrites : ∃ writes, SameWrites writes first (store.answer request first).2 second
      (store.answer request second).2 ∧
    ∀ record ∈ writes, request.place? = some record.key

/-- Two memories answer a call alike when they fail in the same way and log nothing. -/
theorem answersAlike_of_error {request : Call} {first second firstAfter secondAfter : Memory}
    {cause : StoreError} (firstFails : store.answer request first = (.error cause, firstAfter))
    (secondFails : store.answer request second = (.error cause, secondAfter))
    (firstWrites : firstAfter.writes = first.writes)
    (secondWrites : secondAfter.writes = second.writes) : AnswersAlike request first second where
  replays := by
    rw [firstFails, secondFails]
    exact .same _
  sameWrites := by
    rw [firstFails, secondFails]
    exact ⟨[], sameWrites_nil firstWrites secondWrites, fun _ => nofun⟩

/-- Two memories answer a call alike when they store and log twins at its place. -/
theorem answersAlike_of_ok {request : Call} {first second firstAfter secondAfter : Memory}
    {verb : WriteVerb} {key : ObjectKey} {object twin : request.kind.Object}
    (writes : request.verb? = some verb) (place : request.place? = some key)
    (firstSucceeds : store.answer request first = (.ok object, firstAfter))
    (secondSucceeds : store.answer request second = (.ok twin, secondAfter))
    (firstWrites : firstAfter.writes = first.writes ++ [⟨verb, key⟩])
    (secondWrites : secondAfter.writes = second.writes ++ [⟨verb, key⟩])
    (firstStored : firstAfter.object? key = some ⟨request.kind, object⟩)
    (secondStored : secondAfter.object? key = some ⟨request.kind, twin⟩)
    (twins : request.kind.Twins verb object twin) : AnswersAlike request first second where
  replays := by
    rw [firstSucceeds, secondSucceeds]
    exact .stored writes twins
  sameWrites := by
    rw [firstSucceeds, secondSucceeds]
    exact ⟨[⟨verb, key⟩], ⟨firstWrites, secondWrites, List.forall_mem_singleton.mpr
      ⟨request.kind, object, twin, firstStored, secondStored, twins⟩⟩,
      List.forall_mem_singleton.mpr place⟩

theorem twins_placed (first second : Memory) (kind : Kind) (object : kind.Object) :
    kind.Twins .create (first.placed kind object) (second.placed kind object) := by
  refine ⟨some (versionText (second.lastVersion + 1)),
    some ((kind.metadata object).uid.getD (uidText (second.lastUid + 1))), ?_, (absurd rfl ·)⟩
  unfold placed
  rw [Kind.withMetadata_withMetadata, Kind.metadata_withMetadata]
  rfl

theorem twins_replacement (first second : Memory) (kind : Kind) (stored : Stored)
    (object : kind.Object) :
    kind.Twins .update (first.replacement kind stored object)
      (second.replacement kind stored object) := by
  refine ⟨some (versionText (second.lastVersion + 1)), stored.metadata.uid, ?_, fun _ => ?_⟩
  · unfold replacement
    dsimp only
    split
    · rw [Kind.withMetadata_withStatusOf, Kind.withMetadata_withMetadata,
        Kind.metadata_withStatusOf, Kind.metadata_withMetadata]
      rfl
    · rw [Kind.withMetadata_withMetadata, Kind.metadata_withMetadata]
      rfl
  · obtain ⟨metadata, other, replaced, same⟩ := first.replacement_spec kind stored object
    rw [replaced, Kind.metadata_withStatusOf, Kind.metadata_withMetadata, same]

theorem twins_withStatus (first second : Memory) (stored gateway : Gateway) :
    Kind.gateway.Twins .updateStatus (first.withStatus stored gateway)
      (second.withStatus stored gateway) :=
  ⟨some (versionText (second.lastVersion + 1)), stored.metadata.uid, rfl, fun _ => rfl⟩

/-- Two memories answer a read alike when they agree on its place. -/
theorem answersAlike_get {first second : Memory} {kind : Kind} {name : ObjectName}
    (agrees : first.Agrees second (.of kind name)) :
    AnswersAlike (.get kind name.namespaceName name.name) first second where
  replays := by
    have same : (store.answer (.get kind name.namespaceName name.name) second).1 =
        (store.answer (.get kind name.namespaceName name.name) first).1 := get_congr agrees.object
    rw [same]
    exact .same _
  sameWrites := ⟨[], sameWrites_nil rfl rfl, fun _ => nofun⟩

/-- A name is taken in both memories or free in both. -/
theorem answersAlike_create {first second : Memory} {kind : Kind} {object : kind.Object}
    (agrees : ∀ name, kind.objectName? object = some name → first.Agrees second (.of kind name)) :
    AnswersAlike (.create kind object) first second := by
  cases named : kind.objectName? object with
  | none =>
    exact answersAlike_of_error (first.create_nameless named) (second.create_nameless named) rfl rfl
  | some name =>
    have same := (agrees name named).object
    cases there : first.object? (.of kind name) with
    | some stored =>
      exact answersAlike_of_error (first.create_taken named there)
        (second.create_taken named (same.trans there)) rfl rfl
    | none =>
      obtain ⟨-, firstWrote, firstLog⟩ := first.place_spec named
      obtain ⟨-, secondWrote, secondLog⟩ := second.place_spec named
      refine answersAlike_of_ok rfl (congrArg (Option.map (ObjectKey.of kind)) named)
        (first.create_free named there) (second.create_free named (same.trans there)) ?_ ?_
        firstWrote.object?_self secondWrote.object?_self (twins_placed first second kind object)
      · rw [log, firstLog]
      · rw [log, secondLog]

/-- An update finds the same conflict or the same version in both memories. -/
theorem answersAlike_update {first second : Memory} {kind : Kind} {object : kind.Object}
    (agrees : ∀ name, kind.objectName? object = some name → first.Agrees second (.of kind name)) :
    AnswersAlike (.update kind object) first second := by
  cases named : kind.objectName? object with
  | none =>
    exact answersAlike_of_error (first.update_nameless named) (second.update_nameless named) rfl rfl
  | some name =>
    obtain ⟨same, conflict⟩ := agrees name named
    cases injected : first.conflicts.contains (.of kind name) with
    | true =>
      exact answersAlike_of_error (first.update_injected named injected)
        (second.update_injected named (conflict.trans injected)) rfl rfl
    | false =>
      replace conflict := conflict.trans injected
      cases there : first.object? (.of kind name) with
      | none =>
        exact answersAlike_of_error (first.update_missing named injected there)
          (second.update_missing named conflict (same.trans there)) rfl rfl
      | some stored =>
        cases stale : isStale stored.metadata (kind.metadata object) with
        | true =>
          exact answersAlike_of_error (first.update_stale named injected there stale)
            (second.update_stale named conflict (same.trans there) stale) rfl rfl
        | false =>
          exact answersAlike_of_ok rfl (congrArg (Option.map (ObjectKey.of kind)) named)
            (first.update_fresh named injected there stale)
            (second.update_fresh named conflict (same.trans there) stale) rfl rfl
            (first.object?_put _ _ _ _) (second.object?_put _ _ _ _)
            (twins_replacement first second kind stored object)

/-- A status is written to the same gateway in both memories. -/
theorem answersAlike_updateStatus {first second : Memory} {gateway : Gateway}
    (agrees : ∀ name, Kind.gateway.objectName? gateway = some name →
      first.Agrees second (.of .gateway name)) :
    AnswersAlike (.updateStatus gateway) first second := by
  cases named : Kind.gateway.objectName? gateway with
  | none =>
    exact answersAlike_of_error (first.updateStatus_nameless named)
      (second.updateStatus_nameless named) rfl rfl
  | some name =>
    have same := get_congr (agrees name named).object
    cases got : first.get .gateway name with
    | error cause =>
      exact answersAlike_of_error (updateStatus_unread named got)
        (updateStatus_unread named (same.trans got)) rfl rfl
    | ok stored =>
      exact answersAlike_of_ok rfl (congrArg (Option.map (ObjectKey.of .gateway)) named)
        (updateStatus_read named got) (updateStatus_read named (same.trans got)) rfl rfl
        (first.object?_put _ _ _ _) (second.object?_put _ _ _ _)
        (twins_withStatus first second stored gateway)

/-- What a call is answered is decided by what is found at its place. -/
theorem answersAlike {first second : Memory} {request : Call}
    (agrees : ∀ key, request.key? = some key → first.Agrees second key) :
    AnswersAlike request first second := by
  have atPlace : ∀ {kind : Kind} {named : Option ObjectName},
      request.key? = named.map (ObjectKey.of kind) → ∀ name, named = some name →
      first.Agrees second (.of kind name) := by
    intro kind named about name isName
    refine agrees _ (about.trans ?_)
    rw [isName]
    rfl
  cases request with
  | get kind namespaceName name => exact answersAlike_get (agrees _ rfl)
  | create kind object => exact answersAlike_create (atPlace rfl)
  | update kind object => exact answersAlike_update (atPlace rfl)
  | updateStatus gateway => exact answersAlike_updateStatus (atPlace rfl)

/-! ### All calls of a run -/

/-- Two memories still agree on a place after a call that writes elsewhere. -/
theorem Agrees.answer {first second : Memory} (firstKept : WellKept first)
    (secondKept : WellKept second) {key : ObjectKey} (agrees : first.Agrees second key)
    {request : Call} (elsewhere : request.place? ≠ some key) :
    (store.answer request first).2.Agrees (store.answer request second).2 key where
  object := by
    rw [firstKept.answer_object?_other elsewhere, secondKept.answer_object?_other elsewhere]
    exact agrees.object
  conflict := by
    rw [first.answer_conflicts_other elsewhere, second.answer_conflicts_other elsewhere]
    exact agrees.conflict

/-- When the calls of a run look only where two memories agree, and never where they wrote, the
second memory replays the run. -/
theorem Reachable.exists_replay {first second after : Memory} (reachable : first.Reachable)
    (secondReachable : second.Reachable) {exchanges : List Exchange}
    (gives : store.Gives first exchanges after) (fresh : Fresh exchanges)
    (agrees : ∀ exchange ∈ exchanges, ∀ key, exchange.call.key? = some key →
      first.Agrees second key) :
    ∃ others secondAfter, store.Gives second others secondAfter ∧
      List.Forall₂ Exchange.Replays exchanges others ∧
      ∃ writes, SameWrites writes first after second secondAfter := by
  induction exchanges generalizing first second with
  | nil =>
    obtain rfl : after = first := gives
    exact ⟨[], second, rfl, .nil, [], sameWrites_nil rfl rfl⟩
  | cons exchange exchanges inductionHypothesis =>
    obtain ⟨request, answer⟩ := exchange
    obtain ⟨rfl, gives⟩ := gives
    obtain ⟨unseen, fresh⟩ := List.pairwise_cons.mp fresh
    rw [List.forall_mem_cons] at agrees
    obtain ⟨replays, writes, same, places⟩ := answersAlike agrees.1
    have firstNext := reachable.perform (.call request)
    have secondNext := secondReachable.perform (.call request)
    obtain ⟨others, secondAfter, othersGive, replayed, otherWrites, otherSame⟩ :=
      inductionHypothesis firstNext secondNext gives fresh fun later member key about =>
        (agrees.2 later member key about).answer reachable.wellKept secondReachable.wellKept
          fun place => unseen later member key place about
    refine ⟨⟨request, _⟩ :: others, secondAfter, ⟨rfl, othersGive⟩, .cons replays replayed,
      writes ++ otherWrites, same.append otherSame (fun record member => ?_)
      fun record member => ?_⟩
    -- No later call comes back to the place of the record, in the one run or in the other.
    · exact firstNext.gives_object?_other gives fun later inRest place =>
        unseen later inRest record.key (places record member) (Call.key?_of_place? place)
    · refine secondNext.gives_object?_other othersGive fun later inRest place => ?_
      have called : later.call ∈ exchanges.map Exchange.call := by
        rw [← calls_of_replays replayed]
        exact List.mem_map_of_mem inRest
      obtain ⟨original, inFirst, sameCall⟩ := List.mem_map.mp called
      rw [← sameCall] at place
      exact unseen original inFirst record.key (places record member) (Call.key?_of_place? place)

end Memory

/-! ### Programs that never look -/

variable {Result Other : Type}

/-- Where the first program comes to its end the second one does, though what its calls stored may
have twins; and the two results are the same in some sense. -/
def Program.Follows (Same : Result → Result → Prop) (first second : Program Result) : Prop :=
  ∀ exchanges result, first.Ends exchanges result → ∀ others,
    List.Forall₂ Exchange.Replays exchanges others →
    ∃ other, second.Ends others other ∧ Same result other

namespace Program

variable {Same : Result → Result → Prop}

theorem follows_done {first second : Result} (same : Same first second) :
    Follows Same (done first) (done second) := by
  rintro exchanges result ⟨rfl, rfl⟩ others replays
  obtain rfl := List.forall₂_nil_left_iff.mp replays
  exact ⟨second, ⟨rfl, rfl⟩, same⟩

/-- A program goes on in the same way when it does so with every answer of the second run. -/
theorem follows_call {request : Call} {next following : request.Answer → Program Result}
    (follows : ∀ answer other, Exchange.Replays ⟨request, answer⟩ ⟨request, other⟩ →
      Follows Same (next answer) (following other)) :
    Follows Same (call request next) (call request following) := by
  rintro exchanges result ⟨answer, rest, rfl, ends⟩ others replays
  obtain ⟨⟨otherRequest, other⟩, otherRest, head, tail, rfl⟩ :=
    List.forall₂_cons_left_iff.mp replays
  obtain rfl : otherRequest = request := head.call_eq
  obtain ⟨otherResult, otherEnds, same⟩ := follows answer other head rest result ends otherRest tail
  exact ⟨otherResult, ⟨other, otherRest, rfl, otherEnds⟩, same⟩

/-- Programs follow one another part by part. -/
theorem Follows.bind {Alike : Other → Other → Prop} {first second : Program Result}
    {next following : Result → Program Other} (follows : Follows Same first second)
    (follow : ∀ result other, Same result other → Follows Alike (next result) (following other)) :
    Follows Alike (first >>= next) (second >>= following) := by
  intro exchanges result ends others replays
  obtain ⟨calls, rest, value, rfl, firstEnds, restEnds⟩ := (ends_bind _ _ _ _).mp ends
  have callsReplayed := (List.forall₂_take_append others calls rest replays.flip).flip
  have restReplayed := (List.forall₂_drop_append others calls rest replays.flip).flip
  obtain ⟨otherValue, otherFirst, same⟩ := follows calls value firstEnds _ callsReplayed
  obtain ⟨other, otherEnds, alike⟩ :=
    follow value otherValue same rest result restEnds _ restReplayed
  exact ⟨other, (ends_bind _ _ _ _).mpr ⟨_, _, otherValue, (List.take_append_drop _ _).symm,
    otherFirst, otherEnds⟩, alike⟩

end Program

/-! ### Attempts that never look -/

namespace Attempt

/-- Two results with the same error, or with values that are the same in some sense. -/
inductive Alike (Same : Result → Result → Prop) :
    Except ReconcileError Result → Except ReconcileError Result → Prop where
  | error (cause : ReconcileError) : Alike Same (.error cause) (.error cause)
  | ok {first second : Result} (same : Same first second) : Alike Same (.ok first) (.ok second)

/-- Where the first attempt comes to its end the second one does, though what its calls stored may
have twins; and it fails in the same way, or its value is the same in some sense. -/
def Follows (Same : Result → Result → Prop) (first second : Attempt Result) : Prop :=
  Program.Follows (Alike Same) first.run second.run

variable {Same : Result → Result → Prop} {Alike : Other → Other → Prop}

theorem follows_pure {first second : Result} (same : Same first second) :
    Follows Same (pure first) (pure second) :=
  Program.follows_done (.ok same)

theorem follows_fail (cause : ReconcileError) : Follows Same (fail cause) (fail cause) :=
  Program.follows_done (.error cause)

theorem follows_ofExcept (value : Except ReconcileError Result) :
    Follows Eq (ofExcept value) (ofExcept value) := by
  cases value with
  | error cause => exact follows_fail cause
  | ok result => exact follows_pure rfl

/-- A read is answered with the same object. -/
theorem follows_get (kind : Kind) (namespaceName name : String) :
    Follows Eq (answer (.get kind namespaceName name)) (answer (.get kind namespaceName name)) := by
  refine Program.follows_call fun answer other replays => ?_
  cases replays with
  | same => exact follows_pure rfl
  | stored writes => cases writes

/-- A call that is asked for fails in the same way or goes on. -/
theorem follows_ask (request : Call) :
    Follows (fun _ _ => True) (ask request) (ask request) := by
  refine Program.follows_call fun answer other replays => ?_
  cases replays with
  | same =>
    cases answer with
    | error cause => exact follows_fail (.store cause)
    | ok object => exact follows_pure trivial
  | stored => exact follows_pure trivial

/-- Attempts follow one another part by part. -/
theorem Follows.bind {first second : Attempt Result} {next following : Result → Attempt Other}
    (follows : Follows Same first second)
    (follow : ∀ result other, Same result other → Follows Alike (next result) (following other)) :
    Follows Alike (first >>= next) (second >>= following) := by
  unfold Follows
  rw [ExceptT.run_bind, ExceptT.run_bind]
  refine Program.Follows.bind follows fun result other same => ?_
  cases same with
  | error cause => exact follows_fail cause
  | ok same => exact follow _ _ same

end Attempt

end GatewayOperator
