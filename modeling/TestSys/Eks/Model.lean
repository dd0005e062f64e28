import TestSys.Run
import TestSys.Process

/-! # The EKS resource agent's data and collaborators

The types of `eks-resource-agent/eks_provider.rs` (`ProductionMemo`,
`CreatedCluster`, `ClusterConfig`, the eksctl YAML configuration); the types of
crates that are not under src/ and that the provider reads (the provider error
of `resource_agent`, the agent configuration of `bottlerocket_types`, the AWS
SDK responses), with only the fields the provider reads; and `EksWorld`, what
the provider calls: the info client, `aws_config`, the EKS, EC2, IAM and
CloudFormation clients, spawned processes and the file system, each answering
from the log of earlier calls, together with the pure library functions and
constants of those crates.

A call that fails with an error the provider only wraps in a `context` answers
`none`; `describe_cluster`, whose not-found error the provider tells apart,
answers an `Except`. -/
set_option autoImplicit false

namespace TestSys.Eks

open Run

/-! ## The provider's errors -/

/-- Modelled from the spec: `resource_agent::provider::Resources`, the cleanup
obligation a failure leaves. -/
inductive Resources where
  | clear
  | remaining
  | orphaned
  | unknown
  deriving DecidableEq

/-- Modelled from the spec: `ProviderError`, a message with its classification.
The error a `context` call wraps is only displayed, and is left out. -/
structure ProviderError where
  resources : Resources
  context : String
  deriving DecidableEq

/-- `.context(resources, message)` of `IntoProviderError`, on an `Option` or on a
`Result` whose error it replaces. -/
def context {α : Type} (resources : Resources) (message : String) : Option α → Except ProviderError α
  | some a => .ok a
  | none => .error ⟨resources, message⟩

@[simp] theorem context_some {α : Type} (resources : Resources) (message : String) (a : α) :
    context resources message (some a) = .ok a := rfl

@[simp] theorem context_none {α : Type} (resources : Resources) (message : String) :
    (context resources message none : Except ProviderError α) = .error ⟨resources, message⟩ := rfl

theorem context_eq_error {α : Type} {r : Resources} {message : String} {x : Option α} {e : ProviderError}
    (h : context r message x = .error e) : e.resources = r := by
  cases x <;> cases h
  rfl

/-! ## Configuration -/

/-- Modelled from the spec: `bottlerocket_types::agent_config::CreationPolicy`. -/
inductive CreationPolicy where
  /-- Create the cluster; it is an error if it already exists. -/
  | create
  /-- Create the cluster if it does not exist yet. -/
  | ifNotExists
  /-- Never create the cluster; it is an error if it does not exist. -/
  | never
  deriving DecidableEq

/-- Modelled from the spec: the default policy, the first the spec names. -/
instance : Inhabited CreationPolicy := ⟨.create⟩

/-- `K8sVersion`, by the only text the provider reads of it. -/
structure K8sVersion where
  majorMinorWithoutV : String
  deriving DecidableEq

inductive EksctlConfig where
  | file (encodedConfig : String)
  | args (clusterName : String) (region : Option String) (zones : Option (List String))
      (version : Option K8sVersion)
  deriving DecidableEq

structure EksClusterConfig where
  creationPolicy : Option CreationPolicy
  assumeRole : Option String
  config : EksctlConfig
  eksServiceEndpoint : Option String
  deriving DecidableEq

/-- `resource_agent::provider::Spec`: the configuration and the named secrets. -/
structure Spec where
  configuration : EksClusterConfig
  secrets : List (String × String)
  deriving DecidableEq

/-! ## The provider's own types -/

structure ProductionMemo where
  currentStatus : String := ""
  awsSecretName : Option String := none
  clusterName : Option String := none
  creationPolicy : Option CreationPolicy := none
  region : Option String := none
  assumeRole : Option String := none
  provisioningStarted : Bool := false
  deriving DecidableEq

instance : Inhabited ProductionMemo := ⟨{}⟩

structure CreatedCluster where
  clusterName : String
  region : String
  endpoint : String
  certificate : String
  clusterDnsIp : String
  publicSubnetIds : List String
  privateSubnetIds : List String
  securityGroups : List String
  clusterSg : String
  iamInstanceProfileArn : String
  encodedKubeconfig : String
  deriving DecidableEq

inductive ClusterConfig where
  | args (clusterName region : String) (version : Option K8sVersion) (zones : Option (List String))
  | configPath (clusterName region : String)
  deriving DecidableEq

inductive IPFamily where
  | IPv6
  | IPv4
  deriving DecidableEq

structure EksctlMetadata where
  name : String
  region : String
  version : String
  deriving DecidableEq

structure KubernetesNetworkConfig where
  ipFamily : IPFamily
  deriving DecidableEq

structure Addon where
  name : String
  version : String
  deriving DecidableEq

structure IAMConfig where
  withOIDC : Bool
  deriving DecidableEq

structure ManagedNodeGroup where
  name : String
  minSize : Int
  maxSize : Int
  desiredCapacity : Int
  deriving DecidableEq

structure EksctlYamlConfig where
  apiVersion : String
  kind : String
  eksctlMetadata : EksctlMetadata
  availabilityZones : List String
  kubernetesNetworkConfig : KubernetesNetworkConfig
  addons : List Addon
  iam : IAMConfig
  managedNodeGroups : List ManagedNodeGroup
  deriving DecidableEq

/-! ## What the collaborators answer -/

/-- `serde_json::Value`, the parse of an eksctl configuration file. -/
inductive Value where
  | null
  | bool (b : Bool)
  | number (n : Int)
  | string (s : String)
  | array (items : List Value)
  | object (entries : List (String × Value))

/-- `Value::get` with a key: the entry of an object. -/
def Value.get (v : Value) (key : String) : Option Value :=
  match v with
  | .object entries => entries.lookup key
  | _ => none

def Value.asStr : Value → Option String
  | .string s => some s
  | _ => none

inductive IpFamily where
  | ipv4
  | ipv6
  | unknown (value : String)
  deriving DecidableEq

structure KubernetesNetworkConfigResponse where
  ipFamily : Option IpFamily
  serviceIpv4Cidr : Option String
  serviceIpv6Cidr : Option String
  deriving DecidableEq

structure VpcConfigResponse where
  subnetIds : Option (List String)
  clusterSecurityGroupId : Option String
  deriving DecidableEq

structure Certificate where
  data : Option String
  deriving DecidableEq

structure Cluster where
  resourcesVpcConfig : Option VpcConfigResponse
  endpoint : Option String
  certificateAuthority : Option Certificate
  kubernetesNetworkConfig : Option KubernetesNetworkConfigResponse
  deriving DecidableEq

structure DescribeClusterOutput where
  cluster : Option Cluster
  deriving DecidableEq

/-- How `describe_cluster` fails, as far as `not_found` tells failures apart. -/
inductive DescribeClusterFailure where
  | resourceNotFound
  | other
  deriving DecidableEq

inductive SubnetType where
  | public
  | «private»
  deriving DecidableEq

structure Subnet where
  subnetId : Option String
  deriving DecidableEq

structure InstanceProfile where
  arn : String
  deriving DecidableEq

structure StackSummary where
  stackName : Option String
  deriving DecidableEq

structure ListStacksOutput where
  stackSummaries : List StackSummary
  nextToken : Option String
  deriving DecidableEq

structure StackResourceDetail where
  physicalResourceId : Option String
  deriving DecidableEq

structure DescribeStackResourceOutput where
  stackResourceDetail : Option StackResourceDetail
  deriving DecidableEq

/-- The arguments of `agent_utils::aws::aws_config` the provider varies. -/
structure AwsConfigRequest where
  awsSecretName : Option String
  assumeRole : Option String
  region : Option String
  endpoint : Option String
  deriving DecidableEq

/-! ## The log and the world -/

/-- A call of the provider to a collaborator, with the answer it got. -/
inductive Call where
  | getInfo (memo : Option ProductionMemo)
  | sendInfo (memo : ProductionMemo) (result : Option Unit)
  | awsConfig (request : AwsConfigRequest) (result : Option Unit)
  | describeCluster (name : String) (response : Except DescribeClusterFailure DescribeClusterOutput)
  | describeSubnets (subnetIds : List String) (subnetType : SubnetType)
      (output : Option (Option (List Subnet)))
  | listInstanceProfilesForRole (roleName : String) (instanceProfiles : Option (List InstanceProfile))
  | listStacks (nextToken : Option String) (output : Option ListStacksOutput)
  | describeStackResource (stackName logicalResourceId : String)
      (output : Option DescribeStackResourceOutput)
  | command (program : String) (args : List String) (status : Option ExitStatus)
  | createFile (path : String) (result : Option Unit)
  | writeAll (path contents : String) (result : Option Unit)
  | readToString (path : Path) (contents : Option String)

abbrev Log := List Call

/-- Everything outside the provider: collaborators answer from the log; the
library functions and constants of crates not under src/ are plain values. -/
structure EksWorld where
  getInfo : Log → Option ProductionMemo
  sendInfo : Log → ProductionMemo → Option Unit
  awsConfig : Log → AwsConfigRequest → Option Unit
  describeCluster : Log → String → Except DescribeClusterFailure DescribeClusterOutput
  describeSubnets : Log → List String → SubnetType → Option (Option (List Subnet))
  listInstanceProfilesForRole : Log → String → Option (List InstanceProfile)
  listStacks : Log → Option String → Option ListStacksOutput
  describeStackResource : Log → String → String → Option DescribeStackResourceOutput
  command : Log → String → List String → Option ExitStatus
  createFile : Log → String → Option Unit
  writeAll : Log → String → String → Option Unit
  readToString : Log → Path → Option String
  /-- `temp_dir().join("kubeconfig.yaml")`. -/
  kubeconfigDir : Path
  base64Decode : String → Option (List UInt8)
  fromUtf8 : List UInt8 → Option String
  yamlFromStr : String → Option Value
  yamlToString : EksctlYamlConfig → Option String
  base64Encode : String → String
  /-- `AWS_CREDENTIALS_SECRET_NAME`. -/
  awsCredentialsSecretName : String

/-- A world for runs at concrete inputs: the info client reads `memo` and
acknowledges every memo, `aws_config` succeeds when `awsConfigOk`, no cluster
exists yet, CloudFormation lists `stackNames` on one page, files are written and
every command exits with `status`; every other call fails. -/
def exampleWorld (memo : ProductionMemo) (awsConfigOk : Bool) (stackNames : List String)
    (status : ExitStatus) : EksWorld where
  getInfo _ := some memo
  sendInfo _ _ := some ()
  awsConfig _ _ := if awsConfigOk then some () else none
  describeCluster _ _ := .error .resourceNotFound
  describeSubnets _ _ _ := none
  listInstanceProfilesForRole _ _ := none
  listStacks _ _ := some ⟨stackNames.map fun name => ⟨some name⟩, none⟩
  describeStackResource _ _ _ := none
  command _ _ _ := some status
  createFile _ _ := some ()
  writeAll _ _ _ := some ()
  readToString _ _ := none
  kubeconfigDir := ⟨some "/tmp/kubeconfig.yaml", "/tmp/kubeconfig.yaml"⟩
  base64Decode _ := none
  fromUtf8 _ := none
  yamlFromStr _ := none
  yamlToString _ := some ""
  base64Encode encoded := encoded
  awsCredentialsSecretName := "awsCredentials"

abbrev EksRun (α : Type) := Run Call ProviderError α

/-- A call whose answer the provider takes with `.context(...)?`: it fails with
the context when the collaborator failed. -/
@[simp] theorem call_context_bind {ρ β : Type} (answer : Log → Option ρ) (record : Option ρ → Call)
    (resources : Resources) (message : String) (k : ρ → EksRun β) (log : Log) :
    (call answer record >>= fun x => liftM (context resources message x) >>= k) log =
      match answer log with
      | some a => k a (log ++ [record (some a)])
      | none => (.error ⟨resources, message⟩, log ++ [record none]) := by
  simp only [call_bind_apply]
  cases answer log <;> rfl

@[simp] theorem call_context {ρ : Type} (answer : Log → Option ρ) (record : Option ρ → Call)
    (resources : Resources) (message : String) (log : Log) :
    (call answer record >>= fun x => liftM (context resources message x) : EksRun ρ) log =
      match answer log with
      | some a => (.ok a, log ++ [record (some a)])
      | none => (.error ⟨resources, message⟩, log ++ [record none]) := by
  simp only [call_bind_apply]
  cases answer log <;> rfl

/-- A `context` fails with its own error. -/
theorem does_context {α : Type} {P : Call → Prop} {Q : ProviderError → Prop} {r : Resources}
    {message : String} (x : Option α) (h : Q ⟨r, message⟩) :
    Does P Q (MonadLiftT.monadLift (context r message x) : EksRun α) :=
  does_monadLift fun _ failed => by cases x <;> cases failed; exact h

/-- A `context`, and what follows it on the value the `context` holds. -/
theorem does_context_bind {α β : Type} {P : Call → Prop} {Q : ProviderError → Prop} {r : Resources}
    {message : String} {x : Option α} {k : α → EksRun β} (h : Q ⟨r, message⟩)
    (hk : ∀ a, x = some a → Does P Q (k a)) :
    Does P Q (MonadLiftT.monadLift (context r message x) >>= k) := by
  cases x with
  | none => exact does_fail h
  | some a => exact hk a rfl

section Calls

variable (w : EksWorld)

def getInfo : EksRun (Option ProductionMemo) := call w.getInfo .getInfo

def sendInfo (memo : ProductionMemo) : EksRun (Option Unit) :=
  call (w.sendInfo · memo) (.sendInfo memo)

def awsConfig (request : AwsConfigRequest) : EksRun (Option Unit) :=
  call (w.awsConfig · request) (.awsConfig request)

def describeCluster (name : String) :
    EksRun (Except DescribeClusterFailure DescribeClusterOutput) :=
  call (w.describeCluster · name) (.describeCluster name)

def describeSubnets (subnetIds : List String) (subnetType : SubnetType) :
    EksRun (Option (Option (List Subnet))) :=
  call (w.describeSubnets · subnetIds subnetType) (.describeSubnets subnetIds subnetType)

def listInstanceProfilesForRole (roleName : String) : EksRun (Option (List InstanceProfile)) :=
  call (w.listInstanceProfilesForRole · roleName) (.listInstanceProfilesForRole roleName)

def listStacks (nextToken : Option String) : EksRun (Option ListStacksOutput) :=
  call (w.listStacks · nextToken) (.listStacks nextToken)

def describeStackResource (stackName logicalResourceId : String) :
    EksRun (Option DescribeStackResourceOutput) :=
  call (w.describeStackResource · stackName logicalResourceId)
    (.describeStackResource stackName logicalResourceId)

/-- `Command::new(program).args(args).status()`. -/
def command (program : String) (args : List String) : EksRun (Option ExitStatus) :=
  call (w.command · program args) (.command program args)

def createFile (path : String) : EksRun (Option Unit) :=
  call (w.createFile · path) (.createFile path)

def writeAll (path contents : String) : EksRun (Option Unit) :=
  call (w.writeAll · path contents) (.writeAll path contents)

def readToString (path : Path) : EksRun (Option String) :=
  call (w.readToString · path) (.readToString path)

end Calls

end TestSys.Eks
