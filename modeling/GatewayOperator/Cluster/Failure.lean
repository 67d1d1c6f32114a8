/-
This file holds the answer by which the cluster describes a failure, and its text in diagnostics.
-/

import GatewayOperator.Decimal.Text
import GatewayOperator.Json.Record
import GatewayOperator.Text.Diagnostic

namespace GatewayOperator

/-- A cause of a failure. -/
structure FailureCause where
  reason : String := ""
  message : String := ""
  field : String := ""
  deriving DecidableEq, Inhabited

/-- The JSON form of `FailureCause`. -/
def FailureCause.codec : Codec FailureCause :=
  Codec.record "StatusCause" []
    (.cons (Member.defaulted "reason" Codec.text "") <|
     .cons (Member.defaulted "message" Codec.text "") <|
     .cons (Member.defaulted "field" Codec.text "") .nil)
    (fun record => (record.reason, record.message, record.field, ()))
    (fun (reason, message, field, ()) =>
      { reason, message, field })

theorem FailureCause.codec_lawful : FailureCause.codec.Lawful :=
  Codec.record_lawful (by simp) ⟨Member.defaulted_lawful Codec.text_lawful,
    Member.defaulted_lawful Codec.text_lawful, Member.defaulted_lawful Codec.text_lawful, trivial⟩
    (by decide) (fun _ => rfl)

/-- The text of a cause in diagnostics. -/
def FailureCause.describe (cause : FailureCause) : String :=
  Text.describeRecord "StatusCause"
    [("reason", Text.quote cause.reason), ("message", Text.quote cause.message),
      ("field", Text.quote cause.field)]

/-- The object a failure is about. -/
structure FailureDetails where
  name : String := ""
  group : String := ""
  kind : String := ""
  uid : String := ""
  causes : List FailureCause := []
  retryAfterSeconds : UInt32 := 0
  deriving DecidableEq, Inhabited

/-- The JSON form of `FailureDetails`. -/
def FailureDetails.codec : Codec FailureDetails :=
  Codec.record "StatusDetails" []
    (.cons (Member.defaulted "name" Codec.text "") <|
     .cons (Member.defaulted "group" Codec.text "") <|
     .cons (Member.defaulted "kind" Codec.text "") <|
     .cons (Member.defaulted "uid" Codec.text "") <|
     .cons (Member.defaulted "causes" (Codec.list FailureCause.codec) []) <|
     .cons (Member.defaulted "retryAfterSeconds" Codec.uint32 0) .nil)
    (fun record => (record.name, record.group, record.kind, record.uid, record.causes,
      record.retryAfterSeconds, ()))
    (fun (name, group, kind, uid, causes, retryAfterSeconds, ()) =>
      { name, group, kind, uid, causes, retryAfterSeconds })

theorem FailureDetails.codec_lawful : FailureDetails.codec.Lawful :=
  Codec.record_lawful (by simp) ⟨Member.defaulted_lawful Codec.text_lawful,
    Member.defaulted_lawful Codec.text_lawful, Member.defaulted_lawful Codec.text_lawful,
    Member.defaulted_lawful Codec.text_lawful,
    Member.defaulted_lawful (Codec.list_lawful FailureCause.codec_lawful),
    Member.defaulted_lawful Codec.uint32_lawful, trivial⟩
    (by decide) (fun _ => rfl)

/-- The text of the details in diagnostics. -/
def FailureDetails.describe (details : FailureDetails) : String :=
  Text.describeRecord "StatusDetails"
    [("name", Text.quote details.name), ("group", Text.quote details.group),
      ("kind", Text.quote details.kind), ("uid", Text.quote details.uid),
      ("causes", Text.describeList FailureCause.describe details.causes),
      ("retry_after_seconds", Decimal.integerText details.retryAfterSeconds.toNat)]

/-- The metadata of a list of objects, which an answer may carry in place of the list. -/
structure ListMeta where
  continueToken : Option String := none
  remainingItemCount : Option Int64 := none
  resourceVersion : Option String := none
  selfLink : Option String := none
  deriving DecidableEq, Inhabited

/-- The JSON form of `ListMeta`. -/
def ListMeta.codec : Codec ListMeta :=
  Codec.object "ListMeta"
    (.cons (Member.optional "continue" Codec.text) <|
     .cons (Member.optional "remainingItemCount" Codec.int64) <|
     .cons (Member.optional "resourceVersion" Codec.text) <|
     .cons (Member.optional "selfLink" Codec.text) .nil)
    (fun record => (record.continueToken, record.remainingItemCount, record.resourceVersion,
      record.selfLink, ()))
    (fun (continueToken, remainingItemCount, resourceVersion, selfLink, ()) =>
      { continueToken, remainingItemCount, resourceVersion, selfLink })

theorem ListMeta.codec_lawful : ListMeta.codec.Lawful :=
  Codec.object_lawful ⟨Member.optional_lawful Codec.text_lawful,
    Member.optional_lawful Codec.int64_lawful, Member.optional_lawful Codec.text_lawful,
    Member.optional_lawful Codec.text_lawful, trivial⟩
    (by decide) (fun _ => rfl)

/-- The text of the metadata in diagnostics. -/
def ListMeta.describe (metadata : ListMeta) : String :=
  Text.describeRecord "ListMeta"
    [("continue_", Text.describeOption Text.quote metadata.continueToken),
      ("remaining_item_count",
        Text.describeOption (fun count => Decimal.integerText count.toInt)
          metadata.remainingItemCount),
      ("resource_version", Text.describeOption Text.quote metadata.resourceVersion),
      ("self_link", Text.describeOption Text.quote metadata.selfLink)]

/-- Whether an operation succeeded. -/
inductive Verdict where
  | success
  | failure
  deriving DecidableEq, Inhabited

namespace Verdict

/-- The word for it. -/
def word : Verdict → String
  | success => "Success"
  | failure => "Failure"

/-- All of them, in the order in which an error lists them. -/
def all : List Verdict :=
  [.success, .failure]

/-- The JSON form of `Verdict`: its word. -/
def codec : Codec Verdict :=
  Codec.choice (all.map fun value => (value.word, value)) word

theorem codec_lawful : codec.Lawful :=
  Codec.choice_lawful fun value => by cases value <;> decide

end Verdict

/-- How the cluster describes a failure. Everything may be left out. -/
structure FailureStatus where
  status : Option Verdict := none
  code : UInt16 := 0
  message : String := ""
  metadata : Option ListMeta := none
  reason : String := ""
  details : Option FailureDetails := none
  deriving DecidableEq, Inhabited

/-- The JSON form of `FailureStatus`. -/
def FailureStatus.codec : Codec FailureStatus :=
  Codec.record "Status" []
    (.cons (Member.optional "status" Verdict.codec) <|
     .cons (Member.defaulted "code" Codec.uint16 0) <|
     .cons (Member.defaulted "message" Codec.text "") <|
     .cons (Member.optional "metadata" ListMeta.codec) <|
     .cons (Member.defaulted "reason" Codec.text "") <|
     .cons (Member.optional "details" FailureDetails.codec) .nil)
    (fun record => (record.status, record.code, record.message, record.metadata, record.reason,
      record.details, ()))
    (fun (status, code, message, metadata, reason, details, ()) =>
      { status, code, message, metadata, reason, details })

theorem FailureStatus.codec_lawful : FailureStatus.codec.Lawful :=
  Codec.record_lawful (by simp) ⟨Member.optional_lawful Verdict.codec_lawful,
    Member.defaulted_lawful Codec.uint16_lawful, Member.defaulted_lawful Codec.text_lawful,
    Member.optional_lawful ListMeta.codec_lawful, Member.defaulted_lawful Codec.text_lawful,
    Member.optional_lawful FailureDetails.codec_lawful, trivial⟩
    (by decide) (fun _ => rfl)

namespace FailureStatus

/-- The text of the description in diagnostics. -/
def describe (status : FailureStatus) : String :=
  Text.describeRecord "Status"
    [("status", Text.describeOption Verdict.word status.status),
      ("code", Decimal.integerText status.code.toNat), ("message", Text.quote status.message),
      ("metadata", Text.describeOption ListMeta.describe status.metadata),
      ("reason", Text.quote status.reason),
      ("details", Text.describeOption FailureDetails.describe status.details)]

/-- What is said of an answer whose body describes no failure. -/
def unreadable (code : Nat) (body : String) : FailureStatus :=
  { status := some .failure, code := UInt16.ofNat code, message := body,
    reason := "Failed to parse error data" }

end FailureStatus

end GatewayOperator
