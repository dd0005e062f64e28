import TestSys.Eks.ClusterConfig
import TestSys.Eks.DnsIp
import TestSys.Eks.Stacks

/-! # Reading the cluster back, and whether to create it

`created_cluster` gathers the cluster's description from EKS, EC2, IAM and
CloudFormation; `write_kubeconfig` runs `aws eks update-kubeconfig`;
`does_cluster_exist` and `is_eks_cluster_creation_required` decide whether
`create` creates the cluster.

`createdCluster_does`, `writeKubeconfig_does` and
`isEksClusterCreationRequired_does`: none of them sends a memo or takes a step
of creating the cluster, and every failure of the first two is classified
`Remaining`, of the last `Clear`. -/
set_option autoImplicit false

namespace TestSys.Eks

open Run

def eksSubnetIds (cluster : Cluster) : Except ProviderError (List String) := do
  let vpcConfig ← context .remaining "Cluster missing resources_vpc_config field"
    cluster.resourcesVpcConfig
  context .remaining "resources_vpc_config missing subnet ids" vpcConfig.subnetIds

def clusterSg (cluster : Cluster) : Except ProviderError String := do
  let vpcConfig ← context .remaining "Cluster missing resources_vpc_config field"
    cluster.resourcesVpcConfig
  context .remaining "resources_vpc_config missing cluster security group id"
    vpcConfig.clusterSecurityGroupId

def endpoint (cluster : Cluster) : Except ProviderError String :=
  context .remaining "Cluster missing endpoint field" cluster.endpoint

def certificate (cluster : Cluster) : Except ProviderError String := do
  let certificateAuthority ← context .remaining "Cluster missing certificate_authority field"
    cluster.certificateAuthority
  context .remaining "Certificate authority missing data" certificateAuthority.data

/-- `not_found`: the failure is EKS's `ResourceNotFoundException`. -/
def notFound : Except DescribeClusterFailure DescribeClusterOutput → Bool
  | .error .resourceNotFound => true
  | _ => false

/-- Modelled from the spec: `bottlerocket_agents::is_cluster_creation_required`,
which is not under src/.  A policy that contradicts whether the cluster exists
fails `Clear`; otherwise the cluster is created exactly when it does not exist
yet.  The spec gives no texts; these name the decision. -/
def isClusterCreationRequired (clusterExists : Bool) (clusterName : String)
    (creationPolicy : CreationPolicy) : Except ProviderError (Bool × String) :=
  match creationPolicy, clusterExists with
  | .create, true => .error ⟨.clear,
      "The cluster '" ++ clusterName ++ "' already exists and the creation policy requires it not to"⟩
  | .never, false => .error ⟨.clear,
      "The cluster '" ++ clusterName ++ "' does not exist and the creation policy requires it to"⟩
  | _, true => .ok (false, "Cluster '" ++ clusterName ++ "' already exists")
  | _, false => .ok (true, "Creation policy requires the creation of cluster '" ++ clusterName ++ "'")

theorem eksSubnetIds_fails (cluster : Cluster) (e : ProviderError) (h : eksSubnetIds cluster = .error e) :
    e.resources = .remaining := by
  obtain ⟨_ | ⟨_ | _, _⟩, _, _, _⟩ := cluster <;> cases h <;> rfl

theorem clusterSg_fails (cluster : Cluster) (e : ProviderError) (h : clusterSg cluster = .error e) :
    e.resources = .remaining := by
  obtain ⟨_ | ⟨_, _ | _⟩, _, _, _⟩ := cluster <;> cases h <;> rfl

theorem certificate_fails (cluster : Cluster) (e : ProviderError) (h : certificate cluster = .error e) :
    e.resources = .remaining := by
  obtain ⟨_, _, _ | ⟨_ | _⟩, _⟩ := cluster <;> cases h <;> rfl

theorem isClusterCreationRequired_fails (clusterExists : Bool) (clusterName : String)
    (creationPolicy : CreationPolicy) (e : ProviderError)
    (h : isClusterCreationRequired clusterExists clusterName creationPolicy = .error e) :
    e.resources = .clear := by
  unfold isClusterCreationRequired at h
  split at h <;> cases h <;> rfl

section Calls

variable (w : EksWorld)

def subnetIds (eksSubnetIds : List String) (subnetType : SubnetType) : EksRun (List Subnet) := do
  let describeResults ← context .remaining "Unable to get private subnet ids"
    (← describeSubnets w eksSubnetIds subnetType)
  context .remaining "Results missing subnets field" describeResults

def instanceProfileArn (roleName : String) : EksRun String := do
  let instanceProfiles ← context .remaining
    ("Unable to list instance profiles for role '" ++ roleName ++ "'")
    (← listInstanceProfilesForRole w roleName)
  if instanceProfiles.length > 1 then
    fail ⟨.remaining, "More than one instance profile was found for role '" ++ roleName ++ "'"⟩
  let instanceProfile ← context .remaining
    ("No instance profile was found for role '" ++ roleName ++ "'") instanceProfiles.head?
  pure instanceProfile.arn

def createdCluster (fuel : Nat) (encodedKubeconfig clusterName region : String) :
    EksRun CreatedCluster := do
  let output ← context .remaining "Unable to get eks describe cluster"
    (← describeCluster w clusterName).toOption
  let cluster ← context .remaining "Response missing cluster field" output.cluster
  let eksSubnetIds ← eksSubnetIds cluster
  let endpoint ← endpoint cluster
  let certificate ← certificate cluster
  let clusterDnsIp ← clusterDnsIp cluster
  let clusterSg ← clusterSg cluster
  let publicSubnetIds := (← subnetIds w eksSubnetIds .public).filterMap Subnet.subnetId
  let privateSubnetIds := (← subnetIds w eksSubnetIds .private).filterMap Subnet.subnetId
  let securityGroups := [clusterSg]
  let nodeInstanceRole ← nodegroupIamRole w fuel clusterName
  let iamInstanceProfileArn ← instanceProfileArn w nodeInstanceRole
  pure ⟨clusterName, region, endpoint, certificate, clusterDnsIp, publicSubnetIds,
    privateSubnetIds, securityGroups, clusterSg, iamInstanceProfileArn, encodedKubeconfig⟩

def writeKubeconfig (clusterName : String) (endpoint : Option String) (region : String)
    (kubeconfigDir : Path) : EksRun Unit := do
  let dir ← context .remaining ("Unable to convert '" ++ kubeconfigDir.debug ++ "' to string path")
    kubeconfigDir.toStr
  let awsCliArgs := ["eks", "update-kubeconfig", "--region", region, "--name", clusterName,
    "--kubeconfig", dir] ++ match endpoint with
      | some endpoint => ["--endpoint", endpoint]
      | none => []
  let status ← context .remaining "Failed update kubeconfig" (← command w "aws" awsCliArgs)
  if !status.success then
    fail ⟨.remaining, "Failed update kubeconfig with status code " ++ toString status⟩

def doesClusterExist (name : String) : EksRun Bool := do
  let describeClusterResult ← describeCluster w name
  if notFound describeClusterResult then
    return false
  let _ ← context .clear ("Unable to determine if cluster '" ++ name ++ "' exists")
    describeClusterResult.toOption
  pure true

def isEksClusterCreationRequired (clusterName : String) (creationPolicy : CreationPolicy) :
    EksRun (Bool × String) := do
  let clusterExists ← doesClusterExist w clusterName
  isClusterCreationRequired clusterExists clusterName creationPolicy

/-! ## None of them sends a memo or creates the cluster -/

theorem subnetIds_does (eksSubnetIds : List String) (subnetType : SubnetType) :
    Does Call.Quiet (·.resources = .remaining) (subnetIds w eksSubnetIds subnetType) :=
  does_bind (does_call fun _ => rfl) fun _ => does_bind (does_context _ rfl) fun _ => does_context _ rfl

theorem instanceProfileArn_does (roleName : String) :
    Does Call.Quiet (·.resources = .remaining) (instanceProfileArn w roleName) := by
  refine does_bind (does_call fun _ => rfl) fun _ => does_bind (does_context _ rfl) fun _ => ?_
  dsimp only
  split <;> refine does_bind ?_ fun _ => does_bind (does_context _ rfl) fun _ => does_pure _
  · exact does_fail rfl
  · exact does_pure _

/-- Reading the cluster back makes quiet calls and fails `Remaining`. -/
theorem createdCluster_does (fuel : Nat) (encodedKubeconfig clusterName region : String) :
    Does Call.Quiet (·.resources = .remaining) (createdCluster w fuel encodedKubeconfig clusterName region) :=
  does_bind (does_call fun _ => rfl) fun _ => does_bind (does_context _ rfl) fun _ =>
    does_bind (does_context _ rfl) fun _ => does_bind (does_monadLift (eksSubnetIds_fails _)) fun _ =>
    does_bind (does_context _ rfl) fun _ => does_bind (does_monadLift (certificate_fails _)) fun _ =>
    does_bind (clusterDnsIp_does _) fun _ => does_bind (does_monadLift (clusterSg_fails _)) fun _ =>
    does_bind (subnetIds_does w _ _) fun _ => does_bind (subnetIds_does w _ _) fun _ =>
    does_bind (nodegroupIamRole_does w _ _) fun _ =>
    does_bind (instanceProfileArn_does w _) fun _ => does_pure _

theorem writeKubeconfig_does (clusterName : String) (endpoint : Option String) (region : String)
    (kubeconfigDir : Path) :
    Does Call.Quiet (·.resources = .remaining) (writeKubeconfig w clusterName endpoint region kubeconfigDir) := by
  refine does_bind (does_context _ rfl) fun _ =>
    does_bind (does_call fun _ => by simp [Call.Quiet, Call.effect]) fun _ =>
      does_bind (does_context _ rfl) fun _ => ?_
  split
  · exact does_fail rfl
  · exact does_pure _

/-- Deciding whether to create the cluster makes quiet calls and fails
`Clear`. -/
theorem isEksClusterCreationRequired_does (clusterName : String) (creationPolicy : CreationPolicy) :
    Does Call.Quiet (·.resources = .clear) (isEksClusterCreationRequired w clusterName creationPolicy) := by
  refine does_bind (does_bind (does_call fun _ => rfl) fun _ => ?_) fun _ =>
    does_monadLift (isClusterCreationRequired_fails _ _ _)
  dsimp only
  split
  · exact does_pure _
  · exact does_bind (does_pure _) fun _ => does_bind (does_context _ rfl) fun _ => does_pure _

end Calls

end TestSys.Eks
