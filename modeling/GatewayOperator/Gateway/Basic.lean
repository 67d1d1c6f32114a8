/-
This file holds the gateway resource: what a user declares of a gateway, and the conditions the
operator reports of it. An absent optional field means that nothing is configured, so an unset
truth value is distinct from a false one. Main statement: every gateway is read back from its
JSON form.
-/

import GatewayOperator.Cluster.Ingress

namespace GatewayOperator

/-- When the gateway loads its configuration. -/
inductive LoadMode where
  | boot
  | lazy
  deriving DecidableEq, Inhabited

namespace LoadMode

/-- The word the gateway understands. -/
def word : LoadMode → String
  | boot => "boot"
  | lazy => "lazy"

/-- All of them, in the order in which an error lists them. -/
def all : List LoadMode :=
  [.boot, .lazy]

/-- The JSON form of `LoadMode`: its word. -/
def codec : Codec LoadMode :=
  Codec.choice (all.map fun value => (value.word, value)) word

theorem codec_lawful : codec.Lawful :=
  Codec.choice_lawful fun value => by cases value <;> decide

end LoadMode

/-- How much the gateway logs. -/
inductive LogLevel where
  | debug
  | info
  | notice
  | warn
  | error
  | crit
  | alert
  | emerg
  deriving DecidableEq, Inhabited

namespace LogLevel

/-- The word the gateway understands. -/
def word : LogLevel → String
  | debug => "debug"
  | info => "info"
  | notice => "notice"
  | warn => "warn"
  | error => "error"
  | crit => "crit"
  | alert => "alert"
  | emerg => "emerg"

/-- All of them, in the order in which an error lists them. -/
def all : List LogLevel :=
  [.debug, .info, .notice, .warn, .error, .crit, .alert, .emerg]

/-- The JSON form of `LogLevel`: its word. -/
def codec : Codec LogLevel :=
  Codec.choice (all.map fun value => (value.word, value)) word

theorem codec_lawful : codec.Lawful :=
  Codec.choice_lawful fun value => by cases value <;> decide

end LogLevel

/-- What the management interface of the gateway offers. -/
inductive ManagementScope where
  | disabled
  | status
  | policies
  | debug
  deriving DecidableEq, Inhabited

namespace ManagementScope

/-- The word the gateway understands. -/
def word : ManagementScope → String
  | disabled => "disabled"
  | status => "status"
  | policies => "policies"
  | debug => "debug"

/-- All of them, in the order in which an error lists them. -/
def all : List ManagementScope :=
  [.disabled, .status, .policies, .debug]

/-- The JSON form of `ManagementScope`: its word. -/
def codec : Codec ManagementScope :=
  Codec.choice (all.map fun value => (value.word, value)) word

theorem codec_lawful : codec.Lawful :=
  Codec.choice_lawful fun value => by cases value <;> decide

end ManagementScope

/-- An observation of the state of a gateway. -/
structure Condition where
  kind : String
  status : String
  reason : Option String := none
  message : Option String := none
  lastTransitionTime : Option String := none
  deriving DecidableEq, Inhabited

/-- The JSON form of `Condition`. -/
def Condition.codec : Codec Condition :=
  Codec.record "Condition" []
    (.cons (Member.required "type" Codec.text) <|
     .cons (Member.required "status" Codec.text) <|
     .cons (Member.nullable "reason" Codec.text) <|
     .cons (Member.nullable "message" Codec.text) <|
     .cons (Member.nullable "lastTransitionTime" Codec.text) .nil)
    (fun record => (record.kind, record.status, record.reason, record.message,
      record.lastTransitionTime, ()))
    (fun (kind, status, reason, message, lastTransitionTime, ()) =>
      { kind, status, reason, message, lastTransitionTime })

theorem Condition.codec_lawful : Condition.codec.Lawful :=
  Codec.record_lawful (by simp) ⟨Member.required_lawful Codec.text_lawful,
    Member.required_lawful Codec.text_lawful, Member.nullable_lawful Codec.text_lawful,
    Member.nullable_lawful Codec.text_lawful, Member.nullable_lawful Codec.text_lawful, trivial⟩
    (by decide) (fun _ => rfl)

/-- The host under which a gateway is reached from outside, with its certificates. -/
structure ExposedHost where
  host : String
  tls : Option (List IngressTLS) := none
  deriving DecidableEq, Inhabited

/-- The JSON form of `ExposedHost`. -/
def ExposedHost.codec : Codec ExposedHost :=
  Codec.record "ExposedHost" []
    (.cons (Member.required "host" Codec.text) <|
     .cons (Member.optional "tls" (Codec.list IngressTLS.codec)) .nil)
    (fun record => (record.host, record.tls, ()))
    (fun (host, tls, ()) =>
      { host, tls })

theorem ExposedHost.codec_lawful : ExposedHost.codec.Lawful :=
  Codec.record_lawful (by simp) ⟨Member.required_lawful Codec.text_lawful,
    Member.optional_lawful (Codec.list_lawful IngressTLS.codec_lawful), trivial⟩
    (by decide) (fun _ => rfl)

/-- What is wanted of a gateway. An absent field is not configured, which differs from any value it
could have. -/
structure GatewaySpec where
  replicas : Option Int32 := none
  adminPortalCredentialsRef : Option LocalObjectReference := none
  embeddedConfigurationSecretRef : Option LocalObjectReference := none
  serviceAccount : Option String := none
  image : Option String := none
  exposedHost : Option ExposedHost := none
  deploymentEnvironment : Option String := none
  dnsResolverAddress : Option String := none
  enabledServices : Option (List String) := none
  configurationLoadMode : Option LoadMode := none
  logLevel : Option LogLevel := none
  pathRoutingEnabled : Option Bool := none
  responseCodesIncluded : Option Bool := none
  cacheConfigurationSeconds : Option Int64 := none
  managementApiScope : Option ManagementScope := none
  opensslPeerVerificationEnabled : Option Bool := none
  deriving DecidableEq, Inhabited

/-- The JSON form of `GatewaySpec`. -/
def GatewaySpec.codec : Codec GatewaySpec :=
  Codec.record "APIcastSpec" []
    (.cons (Member.optional "replicas" Codec.int32) <|
     .cons (Member.optional "adminPortalCredentialsRef" LocalObjectReference.codec) <|
     .cons (Member.optional "embeddedConfigurationSecretRef" LocalObjectReference.codec) <|
     .cons (Member.optional "serviceAccount" Codec.text) <|
     .cons (Member.optional "image" Codec.text) <|
     .cons (Member.optional "exposedHost" ExposedHost.codec) <|
     .cons (Member.optional "deploymentEnvironment" Codec.text) <|
     .cons (Member.optional "dnsResolverAddress" Codec.text) <|
     .cons (Member.optional "enabledServices" (Codec.list Codec.text)) <|
     .cons (Member.optional "configurationLoadMode" LoadMode.codec) <|
     .cons (Member.optional "logLevel" LogLevel.codec) <|
     .cons (Member.optional "pathRoutingEnabled" Codec.boolean) <|
     .cons (Member.optional "responseCodesIncluded" Codec.boolean) <|
     .cons (Member.optional "cacheConfigurationSeconds" Codec.int64) <|
     .cons (Member.optional "managementAPIScope" ManagementScope.codec) <|
     .cons (Member.optional "openSSLPeerVerificationEnabled" Codec.boolean) .nil)
    (fun record => (record.replicas, record.adminPortalCredentialsRef,
      record.embeddedConfigurationSecretRef, record.serviceAccount, record.image,
      record.exposedHost, record.deploymentEnvironment, record.dnsResolverAddress,
      record.enabledServices, record.configurationLoadMode, record.logLevel,
      record.pathRoutingEnabled, record.responseCodesIncluded, record.cacheConfigurationSeconds,
      record.managementApiScope, record.opensslPeerVerificationEnabled, ()))
    (fun (replicas, adminPortalCredentialsRef, embeddedConfigurationSecretRef, serviceAccount,
      image, exposedHost, deploymentEnvironment, dnsResolverAddress, enabledServices,
      configurationLoadMode, logLevel, pathRoutingEnabled, responseCodesIncluded,
      cacheConfigurationSeconds, managementApiScope, opensslPeerVerificationEnabled, ()) =>
      { replicas, adminPortalCredentialsRef, embeddedConfigurationSecretRef, serviceAccount,
        image, exposedHost, deploymentEnvironment, dnsResolverAddress, enabledServices,
        configurationLoadMode, logLevel, pathRoutingEnabled, responseCodesIncluded,
        cacheConfigurationSeconds, managementApiScope, opensslPeerVerificationEnabled })

theorem GatewaySpec.codec_lawful : GatewaySpec.codec.Lawful :=
  Codec.record_lawful (by simp) ⟨Member.optional_lawful Codec.int32_lawful,
    Member.optional_lawful LocalObjectReference.codec_lawful,
    Member.optional_lawful LocalObjectReference.codec_lawful,
    Member.optional_lawful Codec.text_lawful, Member.optional_lawful Codec.text_lawful,
    Member.optional_lawful ExposedHost.codec_lawful, Member.optional_lawful Codec.text_lawful,
    Member.optional_lawful Codec.text_lawful,
    Member.optional_lawful (Codec.list_lawful Codec.text_lawful),
    Member.optional_lawful LoadMode.codec_lawful, Member.optional_lawful LogLevel.codec_lawful,
    Member.optional_lawful Codec.boolean_lawful, Member.optional_lawful Codec.boolean_lawful,
    Member.optional_lawful Codec.int64_lawful,
    Member.optional_lawful ManagementScope.codec_lawful,
    Member.optional_lawful Codec.boolean_lawful, trivial⟩
    (by decide) (fun _ => rfl)

/-- What was observed of a gateway. -/
structure GatewayStatus where
  conditions : List Condition := []
  deriving DecidableEq, Inhabited

/-- The JSON form of `GatewayStatus`. -/
def GatewayStatus.codec : Codec GatewayStatus :=
  Codec.record "APIcastStatus" []
    (.cons (Member.defaulted "conditions" (Codec.list Condition.codec) []) .nil)
    (fun record => (record.conditions, ()))
    (fun (conditions, ()) =>
      { conditions })

theorem GatewayStatus.codec_lawful : GatewayStatus.codec.Lawful :=
  Codec.record_lawful (by simp) ⟨
    Member.defaulted_lawful (Codec.list_lawful Condition.codec_lawful), trivial⟩
    (by decide) (fun _ => rfl)

/-- The group and version of the gateway resource. -/
def gatewayApiVersion : String := "apps.3scale.net/v1alpha1"

/-- The kind of the gateway resource. -/
def gatewayKind : String := "APIcast"

/-- A gateway resource. -/
structure Gateway where
  metadata : ObjectMeta
  spec : GatewaySpec
  status : Option GatewayStatus := none
  deriving DecidableEq, Inhabited

/-- The JSON form of `Gateway`. -/
def Gateway.codec : Codec Gateway :=
  Codec.record "APIcast" [("apiVersion", .string gatewayApiVersion), ("kind", .string gatewayKind)]
    (.cons (Member.required "metadata" ObjectMeta.codec) <|
     .cons (Member.required "spec" GatewaySpec.codec) <|
     .cons (Member.nullable "status" GatewayStatus.codec) .nil)
    (fun record => (record.metadata, record.spec, record.status, ()))
    (fun (metadata, spec, status, ()) =>
      { metadata, spec, status })

theorem Gateway.codec_lawful : Gateway.codec.Lawful :=
  Codec.record_lawful (by decide +revert) ⟨Member.required_lawful ObjectMeta.codec_lawful,
    Member.required_lawful GatewaySpec.codec_lawful,
    Member.nullable_lawful GatewayStatus.codec_lawful, trivial⟩
    (by decide) (fun _ => rfl)

end GatewayOperator
