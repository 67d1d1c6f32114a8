/-
This file checks the Secrets that a user refers to. The admin portal Secret has to hold the
address of the portal with an access token as its user name; the configuration Secret has to
hold the configuration file. The value of a key is its text data if there is any, and its bytes
read as text otherwise.
-/

import GatewayOperator.Cluster.Secret
import GatewayOperator.Gateway.Environment
import GatewayOperator.Failure

namespace GatewayOperator

namespace Secret

/-- The values of a Secret as text. Text data wins over bytes. -/
def texts (secret : Secret) : Map String :=
  ((secret.data.getD Map.empty).map fun bytes => String.ofList (Text.Utf8.decode bytes)).union
    (secret.stringData.getD Map.empty)

/-- The name of a Secret. -/
def name (secret : Secret) : String := secret.metadata.anyName

/-- What is recorded of a Secret that passed its checks. -/
def resolved (secret : Secret) : ResolvedSecret where
  name := secret.name
  resourceVersion := secret.metadata.resourceVersion.getD ""

/-- Checks the address of the admin portal. An address without a scheme counts as one without a
token, since both are mended in the same way. -/
def checkAdminPortal (secret : Secret) : Except ReconcileError Unit :=
  match secret.texts.get? adminPortalKey with
  | none => .error (.keyMissing adminPortalKey secret.name)
  | some value =>
    match Url.parse (Text.trim value.toList) with
    | .error .relativeWithoutBase => .error (.credentialMissing adminPortalKey secret.name)
    | .error cause => .error (.invalidAdminPortalUrl adminPortalKey secret.name cause)
    | .ok url =>
      if url.username.isEmpty then .error (.credentialMissing adminPortalKey secret.name)
      else .ok ()

/-- Checks that the configuration file is there. -/
def checkEmbeddedConfig (secret : Secret) : Except ReconcileError Unit :=
  if secret.texts.contains configurationKey then .ok ()
  else .error (.keyMissing configurationKey secret.name)

end Secret

/-- The two Secrets a gateway may refer to. -/
inductive SecretRole where
  | adminPortal
  | embeddedConfig
  deriving DecidableEq

namespace SecretRole

/-- The field of the gateway that refers to the Secret, as errors name it. -/
def field : SecretRole → String
  | adminPortal => "AdminPortalCredentialsRef"
  | embeddedConfig => "EmbeddedConfigurationSecretRef"

/-- The reference of a gateway to the Secret. -/
def reference? (role : SecretRole) (spec : GatewaySpec) : Option LocalObjectReference :=
  match role with
  | adminPortal => spec.adminPortalCredentialsRef
  | embeddedConfig => spec.embeddedConfigurationSecretRef

/-- Checks a Secret for its role. -/
def check (role : SecretRole) (secret : Secret) : Except ReconcileError Unit :=
  match role with
  | adminPortal => secret.checkAdminPortal
  | embeddedConfig => secret.checkEmbeddedConfig

end SecretRole

end GatewayOperator
