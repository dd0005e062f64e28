import TestSys.Eks.Trace

/-! # Cluster configuration and `eksctl create cluster`

`ClusterConfig::new` reads the cluster's name and region from the eksctl
arguments or from the metadata of an encoded eksctl file; `create_cluster`
writes the generated eksctl file for the arguments (`create_yaml`) and runs
`eksctl create cluster` on it.  Every failure of both is classified `Clear`.

`createCluster_steps`: `create_cluster` sends no memo and takes each step of
creating the cluster at most once. -/
set_option autoImplicit false

namespace TestSys.Eks

open Run

/-- The default region for the cluster. -/
def defaultRegion : String := "us-west-2"

/-- The default cluster version. -/
def defaultVersion : String := "1.32"

def testClusterConfigPath : String := "/local/eksctl_config.yaml"

def clusterConfigPath : String := "/local/cluster_config.yaml"

def mngMinSize : Int := 0

def mngMaxSize : Int := 2

def mngDesiredCapacity : Int := 0

variable (w : EksWorld)

def createYaml (clusterName region version : String) (zones : Option (List String)) :
    EksRun Unit := do
  let setIpFamily := if clusterName.endsWith "ipv6" then IPFamily.IPv6 else IPFamily.IPv4
  let cluster : EksctlYamlConfig := {
    apiVersion := "eksctl.io/v1alpha5"
    kind := "ClusterConfig"
    eksctlMetadata := { name := clusterName, region := region, version := version }
    availabilityZones := zones.getD []
    kubernetesNetworkConfig := { ipFamily := setIpFamily }
    addons := [⟨"vpc-cni", "latest"⟩, ⟨"coredns", "latest"⟩, ⟨"kube-proxy", "latest"⟩]
    iam := { withOIDC := true }
    managedNodeGroups := [⟨"mng-1", mngMinSize, mngMaxSize, mngDesiredCapacity⟩] }
  let yaml ← context .clear "Failed to serialize YAML" (w.yamlToString cluster)
  context .clear "Failed to create yaml file" (← createFile w clusterConfigPath)
  context .clear ("Unable to write eksctl configuration to '" ++ clusterConfigPath ++ "'")
    (← writeAll w clusterConfigPath yaml)

/-- A call of `create_yaml` for the cluster `clusterName` in `region` at
`version`: it creates `CLUSTER_CONFIG_PATH`, and writes there the text
serde_yaml gave for a config whose metadata names them. -/
def Call.OfYaml (clusterName region version : String) : Call → Prop
  | .createFile path _ => path = clusterConfigPath
  | .writeAll path text _ => path = clusterConfigPath ∧ ∃ config : EksctlYamlConfig,
    w.yamlToString config = some text ∧ config.eksctlMetadata = ⟨clusterName, region, version⟩
  | _ => False

theorem createYaml_does (clusterName region version : String) (zones : Option (List String)) :
    Does (Call.OfYaml w clusterName region version) (·.resources = .clear)
      (createYaml w clusterName region version zones) :=
  does_context_bind rfl fun _ serialized =>
    does_bind (does_call fun _ => rfl) fun _ => does_bind (does_context _ rfl) fun _ =>
      does_bind (does_call fun _ => ⟨rfl, _, serialized, rfl⟩) fun _ => does_context _ rfl

namespace ClusterConfig

def new : EksctlConfig → Except ProviderError ClusterConfig
  | .file encodedConfig => do
    let decodedConfig ← context .clear "Unable to decode eksctl configuration."
      (w.base64Decode encodedConfig)
    let text ← context .clear "Unable to convert decoded config to string."
      (w.fromUtf8 decodedConfig)
    let config ← context .clear "Unable to serialize eksctl config." (w.yamlFromStr text)
    let (clusterName, region) ← context .clear "Metadata is missing from eksctl config."
      ((config.get "metadata").map fun metadata =>
        ((metadata.get "name").bind Value.asStr, (metadata.get "region").bind Value.asStr))
    pure (.configPath
      (← context .clear "The cluster's name was not in the eksctl config." clusterName)
      (← context .clear "The cluster's region was not in the eksctl config." region))
  | .args clusterName region zones version =>
    pure (.args clusterName (region.getD defaultRegion) version zones)

/-- Create a cluster with the given config. -/
def createCluster (self : ClusterConfig) : EksRun Unit := do
  let configPath ← match self with
    | .args clusterName region version zones => do
      let versionArg := (version.map K8sVersion.majorMinorWithoutV).getD defaultVersion
      createYaml w clusterName region versionArg zones
      pure clusterConfigPath
    | .configPath _ _ => pure testClusterConfigPath
  let status ← context .clear "Failed create cluster"
    (← command w "eksctl" ["create", "cluster", "-f", configPath])
  if !status.success then
    fail ⟨.clear, "Failed create cluster with status code " ++ toString status⟩

theorem createCluster_effects (self : ClusterConfig) (log : Log) :
    ∃ new, (self.createCluster w log).2 = log ++ new ∧
      (effects new).Sublist ([.createFile, .writeAll, .eksctl].map Effect.step) := by
  cases self with
  | args clusterName region version zones =>
    simp only [createCluster, createYaml, createFile, writeAll, command, bind_assoc, pure_bind,
      call_context_bind]
    cases w.yamlToString _ with
    | none => simp
    | some yaml =>
      simp only [context_some, monadLift_ok, pure_bind, call_context_bind]
      repeat' split
      all_goals simp [Call.effect]
  | configPath =>
    simp only [createCluster, command, pure_bind, call_context_bind]
    repeat' split
    all_goals simp [Call.effect]

/-- `create_cluster` sends no memo, and takes some of the steps of creating the
cluster, in order, each at most once. -/
theorem createCluster_steps (self : ClusterConfig) (log : Log) :
    ∃ new, (self.createCluster w log).2 = log ++ new ∧
      ∃ steps : List CreationStep, steps.Sublist [.createFile, .writeAll, .eksctl] ∧
        effects new = steps.map .step :=
  let ⟨new, hlog, sublist⟩ := self.createCluster_effects w log
  ⟨new, hlog, List.sublist_map_iff.mp sublist⟩

def region : ClusterConfig → String
  | .args _ region _ _ => region
  | .configPath _ region => region

def clusterName : ClusterConfig → String
  | .args clusterName _ _ _ => clusterName
  | .configPath clusterName _ => clusterName

end ClusterConfig

theorem clusterConfigNew_fails (config : EksctlConfig) (e : ProviderError)
    (h : ClusterConfig.new w config = .error e) : e.resources = .clear := by
  simp only [ClusterConfig.new, bind, Except.bind] at h
  repeat' split at h
  all_goals first | (cases h; exact context_eq_error ‹_›) | cases h

/-- A call of `create_cluster` on a configuration: one of `create_yaml`'s for
eksctl arguments, or `eksctl create cluster` on the file it wrote or, for an
encoded file, on `TEST_CLUSTER_CONFIG_PATH`. -/
def Call.OfCreateCluster : ClusterConfig → Call → Prop
  | .args clusterName region version _, c =>
    Call.OfYaml w clusterName region ((version.map K8sVersion.majorMinorWithoutV).getD defaultVersion) c ∨
      ∃ status, c = .command "eksctl" ["create", "cluster", "-f", clusterConfigPath] status
  | .configPath _ _, c => ∃ status, c = .command "eksctl" ["create", "cluster", "-f", testClusterConfigPath] status

theorem createCluster_does (self : ClusterConfig) :
    Does (Call.OfCreateCluster w self) (·.resources = .clear) (self.createCluster w) := by
  cases self <;> simp only [ClusterConfig.createCluster, command, bind_assoc, pure_bind]
  all_goals repeat' first
    | with_reducible refine does_bind ?_ fun _ => ?_
    | with_reducible exact does_pure _
    | with_reducible exact does_fail rfl
    | with_reducible exact does_context _ rfl
    | exact (createYaml_does w _ _ _ _).mono (fun _ => .inl) fun _ => id
    | exact does_call fun _ => .inr ⟨_, rfl⟩
    | exact does_call fun _ => ⟨_, rfl⟩
    | split

end TestSys.Eks
