/-
This file patches the status of a gateway in a document. The patch names one member, so whatever
document a gateway is read from, the patched one is read as the gateway with the new status: the
members of other names are those of the document, also the ones that the operator does not know, and
of the old status only members of unknown names are left.
-/

import GatewayOperator.Json.MergePatch
import GatewayOperator.Proofs.Json.Order
import GatewayOperator.Store.Http

namespace GatewayOperator

namespace Map

variable {Value : Type}

theorem lookup_filter_self (name : String) (entries : List (String × Value)) :
    lookup name (entries.filter fun entry => entry.1 != name) = none := by
  induction entries with
  | nil => rfl
  | cons entry entries inductionHypothesis =>
    by_cases same : entry.1 = name
    · rw [List.filter_cons_of_neg (by simpa using same), inductionHypothesis]
    · rw [List.filter_cons_of_pos (by simpa using same), lookup, if_neg same,
        inductionHypothesis]

theorem lookup_filter_other {name other : String} (different : other ≠ name)
    (entries : List (String × Value)) :
    lookup other (entries.filter fun entry => entry.1 != name) = lookup other entries := by
  induction entries with
  | nil => rfl
  | cons entry entries inductionHypothesis =>
    obtain ⟨key, value⟩ := entry
    by_cases same : key = name
    · rw [List.filter_cons_of_neg (by simpa using same), inductionHypothesis, lookup,
        if_neg (same ▸ Ne.symm different)]
    · rw [List.filter_cons_of_pos (by simpa using same), lookup, lookup, inductionHypothesis]

theorem get?_erase_self (map : Map Value) (name : String) : (map.erase name).get? name = none :=
  lookup_filter_self name map.entries

theorem get?_erase_other (map : Map Value) {name other : String} (different : other ≠ name) :
    (map.erase name).get? other = map.get? other :=
  lookup_filter_other different map.entries

end Map

/-- The table of the members of a gateway. -/
def Gateway.members : Members (ObjectMeta × GatewaySpec × Option GatewayStatus × Unit)
    (Option ObjectMeta × Option GatewaySpec × Option (Option GatewayStatus) × Unit) :=
  .cons (Member.required "metadata" ObjectMeta.codec) <|
    .cons (Member.required "spec" GatewaySpec.codec) <|
    .cons (Member.nullable "status" GatewayStatus.codec) .nil

theorem Gateway.read_object (found : List (String × Json)) :
    Gateway.codec.read (.object found) = (Gateway.members.readObject true found).map
      fun (metadata, spec, status, ()) => { metadata, spec, status } := rfl

/-- What a gateway is read from: a member with its metadata, one with what is wanted, and its
status. -/
theorem Gateway.filled_of_read {found : List (String × Json)} {gateway : Gateway}
    (read : Gateway.codec.read (.object found) = .ok gateway) :
    ∃ status, Gateway.members.Filled found Gateway.members.blank
      (some gateway.metadata, some gateway.spec, status, ()) := by
  rw [Gateway.read_object] at read
  obtain ⟨⟨metadata, spec, status, ⟨⟩⟩, isRead, rfl⟩ := ok_of_map read
  obtain ⟨⟨metadataSlot, specSlot, statusSlot, ⟨⟩⟩, filled, finished⟩ := ok_of_bind isRead
  refine ⟨statusSlot, ?_⟩
  cases metadataSlot with
  | none => exact nomatch finished
  | some foundMetadata =>
    obtain ⟨⟨foundSpec, others⟩, finishedRest, sameMetadata⟩ := ok_of_map finished
    cases specSlot with
    | none => exact nomatch finishedRest
    | some specFound =>
      obtain ⟨_, -, sameSpec⟩ := ok_of_map finishedRest
      cases sameMetadata
      cases sameSpec
      exact Members.filled_of_setAll (by decide) filled

/-- A gateway is read from members of different names that are read as its parts. -/
theorem Gateway.read_of_filled {found : List (String × Json)}
    (single : (found.map Prod.fst).Nodup) {metadata : ObjectMeta} {spec : GatewaySpec}
    {status : Option (Option GatewayStatus)}
    (filled : Gateway.members.Filled found Gateway.members.blank
      (some metadata, some spec, status, ())) :
    Gateway.codec.read (.object found) = .ok { metadata, spec, status := status.getD none } := by
  have read := Members.setAll_of_filled (by decide) true single filled
  rw [Gateway.read_object, Members.readObject, read]
  cases status <;> rfl

/-- The status of a patched document is the status of the patch, whatever stood there. -/
theorem GatewayStatus.read_mergePatch (target : Json) (status : GatewayStatus) :
    GatewayStatus.codec.read (target.mergePatch (GatewayStatus.codec.write status)) =
      .ok status := by
  let before := Map.ofList (target.members?.getD [])
  let conditions := (Codec.list Condition.codec).write status.conditions
  let members := Members.cons (Member.defaulted "conditions" (Codec.list Condition.codec) []) .nil
  show (Members.readObject true members (before.insert "conditions" conditions).entries).map _ = _
  have present : Json.lastMember "conditions" (before.insert "conditions" conditions).entries =
      some conditions := by
    rw [Json.lastMember_entries, Map.get?_insert_self]
  have filled : members.Filled (before.insert "conditions" conditions).entries members.blank
      (some status.conditions, ()) :=
    ⟨Member.fills_of_some present
      ((Codec.list_lawful Condition.codec_lawful).read_write status.conditions), trivial⟩
  rw [Members.readObject, Members.setAll_of_filled (by decide) true (Map.nodup_names _) filled]
  rfl

/-- A patch of the status changes nothing else of the gateway that a document is read as. -/
theorem Gateway.read_mergePatch_statusPatch {found : List (String × Json)} {gateway : Gateway}
    (read : Gateway.codec.read (.object found) = .ok gateway) (status : Option GatewayStatus) :
    Gateway.codec.read ((Json.object found).mergePatch (statusPatch status)) =
      .ok { gateway with status } := by
  obtain ⟨_, metadata, spec, -, -⟩ := Gateway.filled_of_read read
  let before := Map.ofList found
  have beside : ∀ {name : String} {after : Map Json}, after.get? name = before.get? name →
      Json.lastMember name after.entries = Json.lastMember name found := by
    intro name after same
    rw [Json.lastMember_entries, same, Json.get?_ofList]
  cases status with
  | none =>
    have absent : Json.lastMember "status" (before.erase "status").entries = none := by
      rw [Json.lastMember_entries, Map.get?_erase_self]
    exact Gateway.read_of_filled (Map.nodup_names (before.erase "status"))
      ⟨metadata.congr (beside (before.get?_erase_other (by decide))),
        spec.congr (beside (before.get?_erase_other (by decide))),
        Member.fills_of_none absent, trivial⟩
  | some status =>
    let patched := ((before.get? "status").getD .null).mergePatch
      (GatewayStatus.codec.write status)
    have present : Json.lastMember "status" (before.insert "status" patched).entries =
        some patched := by
      rw [Json.lastMember_entries, Map.get?_insert_self]
    have read : (Member.nullable "status" GatewayStatus.codec).read patched =
        .ok (some status) :=
      congrArg (Except.map some) (GatewayStatus.read_mergePatch _ status)
    exact Gateway.read_of_filled (Map.nodup_names (before.insert "status" patched))
      ⟨metadata.congr (beside (before.get?_insert_other patched (by decide))),
        spec.congr (beside (before.get?_insert_other patched (by decide))),
        Member.fills_of_some present read, trivial⟩

end GatewayOperator
