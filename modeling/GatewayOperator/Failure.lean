/-
This file says how a pass can fail. An error is either one that the user has to mend in the
gateway or in a Secret, a Secret that may not have been created yet, or a failure of the store.
The kind of error decides when the pass is tried again and whether it is reported as a condition
of the gateway.
-/

import GatewayOperator.Cluster.Failure
import GatewayOperator.Json.Located
import GatewayOperator.Url.Basic

namespace GatewayOperator

/-! ### The store -/

/-- Why the interface of the cluster failed. -/
inductive ApiFailure where
  /-- The cluster answered with a failure of its own. -/
  | status (described : FailureStatus)
  /-- There was no answer. -/
  | transport
  /-- The answer is not the object that was asked for. -/
  | unreadable
  /-- The request cannot be made. -/
  | invalidRequest
  /-- Something else went wrong. -/
  | other
  deriving DecidableEq

/-- Why a call to the store failed. -/
inductive StoreError where
  | notFound (kind namespaceName name : String)
  | alreadyExists (kind namespaceName name : String)
  /-- The object was written since it was read. -/
  | conflict (kind namespaceName name message : String)
  | missingName (kind : String)
  /-- A stored object cannot be read as the kind that was asked for. -/
  | serialization (kind : String) (cause : Json.LocatedMessage)
  | api (failure : ApiFailure)
  deriving DecidableEq

/-- An object's kind, namespace and name as they stand in a message. -/
def describeObject (kind namespaceName name : String) : String :=
  kind ++ " '" ++ namespaceName ++ "/" ++ name ++ "'"

/-- The text of a failure of the interface. A failure that the cluster describes is told with the
whole description. -/
def ApiFailure.message : ApiFailure → String
  | status described =>
    "ApiError: " ++ described.message ++ ": " ++ described.reason ++ " (" ++
      described.describe ++ ")"
  | transport => "ServiceError: no answer"
  | unreadable => "Error deserializing response"
  | invalidRequest => "Failed to build request"
  | other => "Error finding newline character"

namespace StoreError

/-- The text of the error. -/
def message : StoreError → String
  | notFound kind namespaceName name => describeObject kind namespaceName name ++ " not found"
  | alreadyExists kind namespaceName name =>
    describeObject kind namespaceName name ++ " already exists"
  | conflict kind namespaceName name cause =>
    "Conflict writing " ++ describeObject kind namespaceName name ++ ": " ++ cause
  | missingName kind => kind ++ " object has no metadata.name"
  | serialization kind cause => "Failed to serialize " ++ kind ++ ": " ++ cause.text
  | api failure => "Kubernetes API error: " ++ failure.message

/-- Whether the object does not exist. -/
def isNotFound : StoreError → Bool
  | notFound .. => true
  | _ => false

/-- Whether the object was written since it was read. -/
def isConflict : StoreError → Bool
  | conflict .. => true
  | _ => false

/-- Reads a failure of the interface about an object: an answer that the object is missing,
taken or stale is an error of its own. -/
def ofApiFailure (failure : ApiFailure) (kind namespaceName name : String) : StoreError :=
  match failure with
  | .status described =>
    if described.code = 404 then notFound kind namespaceName name
    else if described.code = 409 then
      if described.reason = "AlreadyExists" then alreadyExists kind namespaceName name
      else conflict kind namespaceName name described.message
    else api failure
  | failure => api failure

end StoreError

/-! ### The pass -/

/-- Why a pass failed. -/
inductive ReconcileError where
  /-- A reference to a Secret has no name. -/
  | referenceIncomplete (field : String)
  | secretNotFound (field namespaceName name : String)
  | keyMissing (key secret : String)
  /-- The address of the admin portal carries no access token. -/
  | credentialMissing (key secret : String)
  | invalidAdminPortalUrl (key secret : String) (cause : UrlError)
  /-- Somebody else controls the object. -/
  | alreadyOwned (kind namespaceName name ownerKind owner : String)
  | store (cause : StoreError)
  deriving DecidableEq

namespace ReconcileError

/-- The text of the error. -/
def message : ReconcileError → String
  | referenceIncomplete field => "Field 'Name' not specified for " ++ field ++ " Secret Reference"
  | secretNotFound field namespaceName name =>
    "Secret '" ++ namespaceName ++ "/" ++ name ++ "' referenced by " ++ field ++ " not found"
  | keyMissing key secret =>
    "Required key '" ++ key ++ "' not found in secret '" ++ secret ++ "'"
  | credentialMissing key secret =>
    "Access Token required in " ++ key ++ " URL of secret '" ++ secret ++ "'"
  | invalidAdminPortalUrl key secret cause =>
    "Invalid " ++ key ++ " URL in secret '" ++ secret ++ "': " ++ cause.message
  | alreadyOwned kind namespaceName name ownerKind owner =>
    describeObject kind namespaceName name ++ " is already controlled by " ++ ownerKind ++ " '" ++
      owner ++ "'"
  | store cause => cause.message

/-- Whether the user has to change something. A Secret that is missing may still be created, so
it does not count. -/
def isUserError : ReconcileError → Bool
  | secretNotFound .. | store _ => false
  | _ => true

/-- Whether the error is reported as a condition. Failures of the store pass by themselves. -/
def isReported : ReconcileError → Bool
  | store _ => false
  | _ => true

/-- Whether the error is a conflict with another writer. -/
def isConflict : ReconcileError → Bool
  | store cause => cause.isConflict
  | _ => false

/-- The reason of the condition that reports the error. -/
def reason : ReconcileError → String
  | referenceIncomplete _ => "SecretReferenceIncomplete"
  | secretNotFound .. => "SecretNotFound"
  | keyMissing .. => "SecretKeyMissing"
  | credentialMissing .. => "CredentialMissing"
  | invalidAdminPortalUrl .. => "InvalidAdminPortalURL"
  | alreadyOwned .. => "AlreadyOwned"
  | store (.conflict ..) => "Conflict"
  | store _ => "StoreError"

/-- After how many seconds the pass is tried again. -/
def requeueSeconds (error : ReconcileError) : Nat :=
  if error.isConflict then 2 else if error.isUserError then 120 else 30

end ReconcileError

end GatewayOperator
