/-! The kinds of manifests that stages can hold. -/

namespace StageGate

inductive Kind where
  | nameSpace
  | serviceAccount
  | role
  | roleBinding
  | clusterRole
  | clusterRoleBinding
  | configMap
  | daemonSet
  | pod
  | service
  | securityConstraints
deriving DecidableEq, Repr, Inhabited

namespace Kind

def all : List Kind := [
  .nameSpace, .serviceAccount, .role, .roleBinding, .clusterRole, .clusterRoleBinding, .configMap,
  .daemonSet, .pod, .service, .securityConstraints]

/-- The name of the kind in manifests. -/
def name : Kind → String
  | .nameSpace => "Namespace"
  | .serviceAccount => "ServiceAccount"
  | .role => "Role"
  | .roleBinding => "RoleBinding"
  | .clusterRole => "ClusterRole"
  | .clusterRoleBinding => "ClusterRoleBinding"
  | .configMap => "ConfigMap"
  | .daemonSet => "DaemonSet"
  | .pod => "Pod"
  | .service => "Service"
  | .securityConstraints => "SecurityContextConstraints"

/-- The name of the kind's slot in a bundle. -/
def slotName : Kind → String
  | .nameSpace => "namespace"
  | .serviceAccount => "service_account"
  | .role => "role"
  | .roleBinding => "role_binding"
  | .clusterRole => "cluster_role"
  | .clusterRoleBinding => "cluster_role_binding"
  | .configMap => "config_map"
  | .daemonSet => "daemon_set"
  | .pod => "pod"
  | .service => "service"
  | .securityConstraints => "security_context_constraints"

/-- The class of the resources of the kind. -/
def className (k : Kind) : String :=
  k.name

def ofName? (s : String) : Option Kind :=
  all.find? fun k => k.name == s

/-- Whether objects of the kind belong to no namespace. -/
def isClusterScoped : Kind → Bool
  | .nameSpace | .clusterRole | .clusterRoleBinding | .securityConstraints => true
  | _ => false

end Kind
end StageGate
