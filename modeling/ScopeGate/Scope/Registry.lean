import ScopeGate.Scope.Fault

/-!
# Registered scopes

The services known to the identity provider, and the scopes that clients may ask for: the aliases,
and for each registered permission of a service one scope per action. Membership is by the whole
text; coverage plays no part in it.

The metadata of a user is kept in namespaces, each under a permission of its own;
`metadataNamespace` reads the namespace off such a permission.
-/

namespace ScopeGate

inductive Service where
  | amp
  | codyGateway
  | dotcom
  | sams
  | telemetryGateway
  | enterprisePortal
  | mailGatekeeper
  | workspaces
  | ssc
  | analytics
  | cloudApi
  | releaseOperations
  deriving DecidableEq, Repr

namespace Service

def all : List Service :=
  [.amp, .codyGateway, .dotcom, .sams, .telemetryGateway, .enterprisePortal, .mailGatekeeper,
    .workspaces, .ssc, .analytics, .cloudApi, .releaseOperations]

def id : Service → String
  | .amp => "amp"
  | .codyGateway => "cody_gateway"
  | .dotcom => "dotcom"
  | .sams => "sams"
  | .telemetryGateway => "telemetry_gateway"
  | .enterprisePortal => "enterprise_portal"
  | .mailGatekeeper => "mail_gatekeeper"
  | .workspaces => "workspaces"
  | .ssc => "ssc"
  | .analytics => "analytics"
  | .cloudApi => "cloud_api"
  | .releaseOperations => "releaseoperations"

def displayName : Service → String
  | .amp => "Amp"
  | .codyGateway => "Cody Gateway"
  | .dotcom => "Sourcegraph Dotcom"
  | .sams => "Sourcegraph Accounts Management System"
  | .telemetryGateway => "Telemetry Gateway"
  | .enterprisePortal => "Enterprise Portal"
  | .mailGatekeeper => "Mail Gatekeeper"
  | .workspaces => "Workspaces"
  | .ssc => "Self Serve Cody"
  | .analytics => "Sourcegraph Analytics"
  | .cloudApi => "Cloud API"
  | .releaseOperations => "Release Operations"

def ofId (text : String) : Except ScopeFault Service :=
  match all.find? fun s => s.id == text with
  | some s => .ok s
  | none => .error (.service text)

theorem ofId_id (s : Service) : ofId s.id = .ok s := by cases s <;> cbv

def permissions : Service → List String
  | .codyGateway => ["flaggedprompts"]
  | .sams =>
    ["user", "user.profile", "user.roles", "user.metadata", "user.metadata.cody",
      "user.metadata.dotcom", "session"]
  | .telemetryGateway => ["events"]
  | .enterprisePortal => ["subscription", "permission.subscription", "codyaccess"]
  | .workspaces => ["workspace", "instance", "permission.workspace"]
  | _ => []

end Service

namespace Scope

/-- The scopes that clients may ask for: the aliases, then those of each service. -/
def registered : List Scope :=
  aliasTexts.map Scope.mk ++ Service.all.flatMap fun s =>
    s.permissions.flatMap fun p => Action.all.map fun a => structured s.id p a

def isRegistered (s : Scope) : Bool := registered.contains s

def validateRegistered (s : Scope) : Except ScopeFault Unit :=
  match s.validate with
  | .error f => .error f
  | .ok () => if s.isRegistered then .ok () else .error (.notRegistered s.text)

def metadataPermission : String := "user.metadata"

/-- The namespace that a permission on the metadata of users names, a star for all of it. -/
def metadataNamespace (permission : String) : Except ScopeFault String :=
  match metadataPermission.toList.isPrefixOf? permission.toList with
  | some [] => .ok "*"
  | some (c :: name) =>
    if c = segmentSeparator ∧ name ≠ [] then .ok (String.ofList name)
    else .error (.notMetadata permission)
  | none => .error (.notMetadata permission)

end Scope

end ScopeGate
