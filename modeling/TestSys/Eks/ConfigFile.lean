import TestSys.Eks.ClusterConfig

/-! # The eksctl file, written and read back

`create_yaml` serializes an `EksctlYamlConfig` with `serde_yaml::to_string`
and writes it to `CLUSTER_CONFIG_PATH`; `ClusterConfig::new` parses an encoded
eksctl file with `serde_yaml::from_str` into a `serde_json::Value` and reads
the cluster's name and region from its `metadata`.  `toValue` is the value
`#[derive(Serialize)]` gives each type, with the `rename` and `rename_all`
attributes of the source.

`createCluster_readBack`: the file `create_cluster` writes for eksctl
arguments is the file its `eksctl create cluster` reads, and, encoded as a
file configuration, `ClusterConfig::new` reads it back as the same cluster in
the same region, whenever `from_str` parses what `to_string` wrote to the
serialized value. -/
set_option autoImplicit false

namespace TestSys.Eks

open Run

/-! ## What `#[derive(Serialize)]` gives -/

/-- A unit variant serializes as its name. -/
def IPFamily.toValue : IPFamily → Value
  | .IPv6 => .string "IPv6"
  | .IPv4 => .string "IPv4"

def EksctlMetadata.toValue (m : EksctlMetadata) : Value :=
  .object [("name", .string m.name), ("region", .string m.region), ("version", .string m.version)]

/-- `#[serde(rename_all = "camelCase")]`. -/
def KubernetesNetworkConfig.toValue (c : KubernetesNetworkConfig) : Value :=
  .object [("ipFamily", c.ipFamily.toValue)]

def Addon.toValue (a : Addon) : Value :=
  .object [("name", .string a.name), ("version", .string a.version)]

def IAMConfig.toValue (c : IAMConfig) : Value :=
  .object [("withOIDC", .bool c.withOIDC)]

/-- `#[serde(rename_all = "camelCase")]`. -/
def ManagedNodeGroup.toValue (g : ManagedNodeGroup) : Value :=
  .object [("name", .string g.name), ("minSize", .number g.minSize), ("maxSize", .number g.maxSize),
    ("desiredCapacity", .number g.desiredCapacity)]

/-- `#[serde(rename_all = "camelCase")]`, with `eksctl_metadata` renamed to
`metadata`. -/
def EksctlYamlConfig.toValue (c : EksctlYamlConfig) : Value :=
  .object [("apiVersion", .string c.apiVersion), ("kind", .string c.kind),
    ("metadata", c.eksctlMetadata.toValue),
    ("availabilityZones", .array (c.availabilityZones.map .string)),
    ("kubernetesNetworkConfig", c.kubernetesNetworkConfig.toValue),
    ("addons", .array (c.addons.map Addon.toValue)), ("iam", c.iam.toValue),
    ("managedNodeGroups", .array (c.managedNodeGroups.map ManagedNodeGroup.toValue))]

/-- serde_yaml's round trip in the world `w`: the text `to_string` gave for a
config parses, with `from_str`, to the config's serialized value. -/
def EksWorld.YamlRoundTrips (w : EksWorld) : Prop :=
  ∀ config text, w.yamlToString config = some text → w.yamlFromStr text = some config.toValue

/-! ## Written, then read back -/

section ReadBack

variable (w : EksWorld)

/-- An encoded file whose text parses to a serialized config names the config's
cluster and region. -/
theorem new_file_toValue (encoded : String) (bytes : List UInt8) (text : String) (config : EksctlYamlConfig)
    (decoded : w.base64Decode encoded = some bytes) (utf8 : w.fromUtf8 bytes = some text)
    (parsed : w.yamlFromStr text = some config.toValue) :
    ClusterConfig.new w (.file encoded) =
      .ok (.configPath config.eksctlMetadata.name config.eksctlMetadata.region) := by
  simp only [ClusterConfig.new, bind, Except.bind, decoded, utf8, parsed, context]
  rfl

/-- An encoded eksctl file is always read as a cluster to create from
`TEST_CLUSTER_CONFIG_PATH`. -/
theorem new_file_configPath (encoded : String) (clusterConfig : ClusterConfig)
    (parsed : ClusterConfig.new w (.file encoded) = .ok clusterConfig) :
    ∃ clusterName region, clusterConfig = .configPath clusterName region := by
  revert parsed
  simp only [ClusterConfig.new, bind, Except.bind, context, Functor.map, Except.map]
  repeat' split
  all_goals intro parsed; cases parsed
  exact ⟨_, _, rfl⟩

/-- What `create_yaml` writes is the text `to_string` gave for a config whose
metadata names the cluster, its region and version, and it writes it to
`CLUSTER_CONFIG_PATH`. -/
theorem createYaml_written (clusterName region version : String) (zones : Option (List String))
    (log : Log) (path text : String) (result : Option Unit)
    (written : Call.writeAll path text result ∈ (createYaml w clusterName region version zones log).2) :
    Call.writeAll path text result ∈ log ∨ path = clusterConfigPath ∧ ∃ config : EksctlYamlConfig,
      w.yamlToString config = some text ∧ config.eksctlMetadata = ⟨clusterName, region, version⟩ :=
  (createYaml_does w clusterName region version zones).logs.mem written

/-- The file `create_cluster` writes for eksctl arguments is the file its
`eksctl create cluster` reads, and `ClusterConfig::new` reads it back, as an
encoded eksctl file, as the same cluster in the same region. -/
theorem createCluster_readBack (roundTrips : w.YamlRoundTrips) (clusterName region : String)
    (version : Option K8sVersion) (zones : Option (List String)) (path text : String) (result : Option Unit)
    (written : Call.writeAll path text result ∈
      ((ClusterConfig.args clusterName region version zones).createCluster w []).2)
    (encoded : String) (bytes : List UInt8) (decoded : w.base64Decode encoded = some bytes)
    (utf8 : w.fromUtf8 bytes = some text) :
    (∀ args status, Call.command "eksctl" args status ∈
        ((ClusterConfig.args clusterName region version zones).createCluster w []).2 →
      args = ["create", "cluster", "-f", path]) ∧
    ClusterConfig.new w (.file encoded) = .ok (.configPath clusterName region) := by
  have calls := (createCluster_does w (.args clusterName region version zones)).logs
  obtain ⟨rfl, config, serialized, metadata⟩ :=
    ((calls.mem written).resolve_left (List.not_mem_nil _)).resolve_right fun ⟨_, made⟩ => nomatch made
  refine ⟨fun args status ran => ?_, ?_⟩
  · rcases (calls.mem ran).resolve_left (List.not_mem_nil _) with yaml | ⟨_, made⟩
    · exact (yaml : False).elim
    · cases made
      rfl
  · rw [new_file_toValue w encoded bytes text config decoded utf8 (roundTrips config text serialized), metadata]

end ReadBack

/-- The config `create_yaml` builds for `test-cluster` in `us-west-2` at the
default version. -/
def testClusterYaml : EksctlYamlConfig where
  apiVersion := "eksctl.io/v1alpha5"
  kind := "ClusterConfig"
  eksctlMetadata := ⟨"test-cluster", "us-west-2", defaultVersion⟩
  availabilityZones := []
  kubernetesNetworkConfig := ⟨if "test-cluster".endsWith "ipv6" then .IPv6 else .IPv4⟩
  addons := [⟨"vpc-cni", "latest"⟩, ⟨"coredns", "latest"⟩, ⟨"kube-proxy", "latest"⟩]
  iam := ⟨true⟩
  managedNodeGroups := [⟨"mng-1", mngMinSize, mngMaxSize, mngDesiredCapacity⟩]

/-- A world in which serde_yaml writes `testClusterYaml` as `cfg` and parses
`cfg` back, and the encoded file `Y2Zn` decodes to the bytes of `cfg`. -/
def yamlWorld : EksWorld :=
  { exampleWorld {} true [] (.exited 0) with
    yamlToString := fun config => if config = testClusterYaml then some "cfg" else none
    yamlFromStr := fun text => if text = "cfg" then some testClusterYaml.toValue else none
    base64Decode := fun encoded => if encoded = "Y2Zn" then some [99, 102, 103] else none
    fromUtf8 := fun bytes => if bytes = [99, 102, 103] then some "cfg" else none }

theorem createCluster_readBack_testCluster :
    yamlWorld.YamlRoundTrips ∧
    Call.writeAll clusterConfigPath "cfg" (some ()) ∈
      ((ClusterConfig.args "test-cluster" "us-west-2" none none).createCluster yamlWorld []).2 ∧
    yamlWorld.base64Decode "Y2Zn" = some [99, 102, 103] ∧ yamlWorld.fromUtf8 [99, 102, 103] = some "cfg" ∧
    (∀ args status, Call.command "eksctl" args status ∈
        ((ClusterConfig.args "test-cluster" "us-west-2" none none).createCluster yamlWorld []).2 →
      args = ["create", "cluster", "-f", clusterConfigPath]) ∧
    ClusterConfig.new yamlWorld (.file "Y2Zn") = .ok (.configPath "test-cluster" "us-west-2") :=
  have roundTrips : yamlWorld.YamlRoundTrips := fun config text serialized => by
    simp only [yamlWorld] at serialized ⊢
    split at serialized <;> cases serialized
    subst_vars
    rfl
  have written : Call.writeAll clusterConfigPath "cfg" (some ()) ∈
      ((ClusterConfig.args "test-cluster" "us-west-2" none none).createCluster yamlWorld []).2 := by
    simp [ClusterConfig.createCluster, createYaml, createFile, writeAll, command, context, yamlWorld,
      testClusterYaml, exampleWorld, bind_apply, ExitStatus.success]
  ⟨roundTrips, written, rfl, rfl,
    createCluster_readBack yamlWorld roundTrips _ _ _ _ _ _ _ written _ _ rfl rfl⟩

end TestSys.Eks
