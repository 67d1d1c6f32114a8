/-
This file computes the environment of the gateway container. Every setting has a variable of its
own, which is left out when the setting is absent, and the order of the variables is fixed.
-/

import GatewayOperator.Gateway.Basic
import GatewayOperator.Cluster.Pod

namespace GatewayOperator

/-- A Secret that passed its checks, by its name and the version that was read. -/
structure ResolvedSecret where
  name : String := ""
  resourceVersion : String := ""
  deriving DecidableEq, Inhabited

/-- The Secrets that were resolved for a gateway: that of the admin portal and that of the
embedded configuration. -/
structure ResolvedSecrets where
  adminPortal : Option ResolvedSecret := none
  embeddedConfig : Option ResolvedSecret := none
  deriving DecidableEq, Inhabited

/-- The key of the admin portal Secret that holds the address of the portal. -/
def adminPortalKey : String := "AdminPortalURL"

/-- The key of the configuration Secret that holds the configuration. -/
def configurationKey : String := "config.json"

/-- Where the configuration is mounted. -/
def configurationMountPath : String := "/tmp/gateway-configuration-volume"

/-- A variable with a fixed value. -/
def EnvVar.ofValue (name value : String) : EnvVar := { name, value := some value }

/-- A truth value as the gateway reads it. -/
def flagText (value : Bool) : String := if value then "true" else "false"

/-- The variable that takes the address of the admin portal from its Secret. -/
def portalEndpoint (secret : ResolvedSecret) : EnvVar where
  name := "THREESCALE_PORTAL_ENDPOINT"
  valueFrom := some { secretKeyRef := some { name := secret.name, key := adminPortalKey } }

/-- The variable that says where the configuration file is. -/
def configFile : EnvVar :=
  .ofValue "THREESCALE_CONFIG_FILE" (configurationMountPath ++ "/" ++ configurationKey)

/-- The variables of the settings, each absent when its setting is. -/
def settingVariables (spec : GatewaySpec) : List (Option EnvVar) :=
  [spec.deploymentEnvironment.map (.ofValue "THREESCALE_DEPLOYMENT_ENV"),
    spec.dnsResolverAddress.map (.ofValue "RESOLVER"),
    spec.enabledServices.map fun services =>
      .ofValue "APICAST_SERVICES_LIST" (",".intercalate services),
    spec.configurationLoadMode.map fun mode => .ofValue "APICAST_CONFIGURATION_LOADER" mode.word,
    spec.logLevel.map fun level => .ofValue "APICAST_LOG_LEVEL" level.word,
    spec.pathRoutingEnabled.map fun enabled => .ofValue "APICAST_PATH_ROUTING" (flagText enabled),
    spec.responseCodesIncluded.map fun included =>
      .ofValue "APICAST_RESPONSE_CODES" (flagText included),
    spec.cacheConfigurationSeconds.map fun seconds =>
      .ofValue "APICAST_CONFIGURATION_CACHE" (Decimal.integerText seconds.toInt),
    spec.managementApiScope.map fun scope => .ofValue "APICAST_MANAGEMENT_API" scope.word,
    spec.opensslPeerVerificationEnabled.map fun verified =>
      .ofValue "OPENSSL_VERIFY" (flagText verified)]

/-- The environment of the gateway container. -/
def environment (spec : GatewaySpec) (secrets : ResolvedSecrets) : List EnvVar :=
  (secrets.adminPortal.map portalEndpoint :: secrets.embeddedConfig.map (fun _ => configFile) ::
    settingVariables spec).filterMap id

end GatewayOperator
