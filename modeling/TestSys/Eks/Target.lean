import TestSys.Eks.ConfigFile
import TestSys.Eks.Lifecycle

/-! # Which cluster a cleanup can delete

`destroy` deletes the cluster the memo held names, in the memo's region.  The
name and region a memo records, its target, are set once: by the last memo of a
`create` that returned, to the cluster of the configuration `ClusterConfig::new`
read.  Every other memo an attempt sends keeps the target of the memo it read.

The attempts of one agent share its library: base64, UTF-8 and serde_yaml
decode an eksctl file the same way in each, while the info client, AWS and the
commands may answer each attempt differently (`LibrarySession`, a refinement
of `Session`).  `session_target`: over every such history, the memo held
points at the cluster the first memo pointed at or at the cluster the spec's
configuration gives, and a `destroy` that reads it runs `eksctl delete
cluster` on one of these two clusters and on no other.  `session_cleanup`:
from a first memo naming no cluster or the configuration's, once an attempt
took a step of creating the cluster, a `destroy` that returns `Ok` has deleted
the configuration's cluster.

`create_fileConfig`: for an encoded eksctl file, the cluster the memo names is
read from that file's metadata, but `create` writes no file: the only step it
takes is `eksctl create cluster` on `/local/eksctl_config.yaml`. -/
set_option autoImplicit false

namespace TestSys.Eks

open Run

/-- A call that sends a memo sends one that satisfies `P`. -/
def Call.SendsTo (P : ProductionMemo → Prop) : Call → Prop
  | .sendInfo memo _ => P memo
  | _ => True

section SendsTo

variable {P Q : ProductionMemo → Prop}

theorem Call.Quiet.sendsTo {c : Call} (quiet : c.Quiet) : c.SendsTo P := by
  cases c with
  | sendInfo => cases quiet
  | _ => trivial

theorem Call.SendsTo.mono {c : Call} (h : c.SendsTo P) (hPQ : ∀ m, P m → Q m) : c.SendsTo Q := by
  cases c <;> first | trivial | exact hPQ _ h

/-- The memos sent in a log whose calls send memos that satisfy `P` satisfy `P`. -/
theorem sentMemos_of_sendsTo {log : Log} (h : ∀ c ∈ log, c.SendsTo P) :
    ∀ m ∈ sentMemos (effects log), P m := by
  intro m sent
  obtain ⟨e, he, memo⟩ := List.mem_filterMap.mp sent
  obtain ⟨c, hc, effect⟩ := List.mem_filterMap.mp he
  cases e with
  | send memo' acknowledged =>
    obtain rfl : memo' = m := Option.some.inj memo
    obtain ⟨result, rfl, -⟩ := effect_eq_send effect
    exact h _ hc
  | step s => cases memo

end SendsTo

/-! ## The memos each part of `create` sends -/

section Create

variable (w : EksWorld)

/-- After the memo `m0` is read, `createSetup` makes quiet calls and sends
memos that point where `m0` points. -/
theorem createSetup_calls (spec : Spec) (log : Log) (m0 : ProductionMemo) (got : w.getInfo log = some m0) :
    ∃ new, (createSetup w spec log).2 = log ++ new ∧
      ∀ c ∈ new, c.Quiet ∨ ∃ memo result, c = .sendInfo memo result ∧ memo.target = m0.target := by
  simp only [createSetup, getInfo, call_context_bind, got]
  refine Logs.after ?_ log (.inl rfl)
  repeat' first
    | with_reducible exact logs_pure _
    | with_reducible_and_instances exact logs_monadLift _
    | with_reducible refine logs_bind ?_ fun _ => ?_
    | exact logs_call fun _ => .inl rfl
    | exact logs_call fun _ => .inr ⟨_, _, rfl, rfl⟩
    | exact (isEksClusterCreationRequired_does w _ _).logs.mono fun _ => .inl

/-- `create_cluster` sends no memo. -/
theorem Call.OfCreateCluster.sendsTo {clusterConfig : ClusterConfig} {c : Call} {P : ProductionMemo → Prop}
    (h : Call.OfCreateCluster w clusterConfig c) : c.SendsTo P := by
  cases c <;> first | trivial | cases clusterConfig <;> simp [Call.OfCreateCluster, Call.OfYaml] at h

/-- Where a memo that an attempt in the world `w` sends may point: where the
memo it read, `m0`, points, or at the cluster of the configuration
`ClusterConfig::new` reads in `w`. -/
def PointsFrom (w : EksWorld) (spec : Spec) (m0 m : ProductionMemo) : Prop :=
  m.target = m0.target ∨ ∃ c, ClusterConfig.new w spec.configuration.config = .ok c ∧
    m.target = (some c.clusterName, some c.region)

/-- Every memo `create` sends points where the memo it read points, or at the
cluster of the configuration `ClusterConfig::new` read. -/
theorem create_targets (fuel : Nat) (spec : Spec) (m0 : ProductionMemo) (got : w.getInfo [] = some m0) :
    ∀ m ∈ sentMemos (effects (create w fuel spec []).2), PointsFrom w spec m0 m := by
  obtain ⟨new, hlog, setup⟩ := createSetup_calls w spec [] m0 got
  obtain ⟨new, hlog, sends⟩ : ∃ new, (create w fuel spec []).2 = [] ++ new ∧
      ∀ c ∈ new, c.SendsTo (PointsFrom w spec m0) := by
    refine appends_bind ⟨new, hlog, fun c hc => (setup c hc).elim Call.Quiet.sendsTo
      fun ⟨_, _, sent, same⟩ => sent ▸ .inl same⟩ fun ⟨memo, clusterConfig, doCreate⟩ mid ok => ?_
    obtain ⟨-, name, region, config⟩ := createSetup_ok w spec [] mid m0 memo clusterConfig doCreate got ok
    have setupTarget : memo.target = m0.target := by rw [ProductionMemo.target, name, region]; rfl
    have readBack : ∀ memo' mid', memo'.target = m0.target →
        ∃ new, (createReadBack w fuel spec memo' clusterConfig mid').2 = mid' ++ new ∧
          ∀ c ∈ new, c.SendsTo (PointsFrom w spec m0) := fun memo' mid' same =>
      let ⟨new, hlog, calls⟩ := (createReadBack_does w fuel spec memo' clusterConfig).logs mid'
      ⟨new, hlog, fun c hc => (calls c hc).elim Call.Quiet.sendsTo fun ⟨_, _, sent, points⟩ =>
        sent ▸ points.imp (·.trans same) fun named => ⟨clusterConfig, config, named⟩⟩
    cases doCreate <;> simp only [Bool.false_eq_true, ↓reduceIte, pure_bind]
    · exact readBack memo mid setupTarget
    · obtain ⟨new, hlog, provision⟩ := createProvision_logs w memo clusterConfig mid
      refine appends_bind ⟨new, hlog, fun c hc => (provision c hc).elim
        (fun ⟨_, _, sent, same⟩ => sent ▸ .inl (same.trans setupTarget)) (Call.OfCreateCluster.sendsTo w)⟩
        fun memo' mid' ok => ?_
      obtain ⟨-, name', region'⟩ := createProvision_ok w memo memo' clusterConfig mid mid' ok
      exact readBack memo' mid' (by rw [ProductionMemo.target, name', region']; exact setupTarget)
  rw [hlog, List.nil_append]
  exact sentMemos_of_sendsTo sends

/-! ## What eksctl creates from an encoded file -/

/-- A call that takes a step of creating the cluster is `eksctl create cluster`
on the file at `path`. -/
def Call.CreatesFrom (path : String) (c : Call) : Prop :=
  ∀ s, c.effect = some (.step s) → ∃ status, c = .command "eksctl" ["create", "cluster", "-f", path] status

theorem Call.Quiet.createsFrom {c : Call} {path : String} (quiet : c.Quiet) : c.CreatesFrom path :=
  fun _ step => nomatch quiet.symm.trans step

theorem sendInfo_createsFrom {memo : ProductionMemo} {result : Option Unit} {path : String} :
    (Call.sendInfo memo result).CreatesFrom path :=
  fun _ step => nomatch step

/-- Quiet calls and memos sent take no step of creating the cluster. -/
theorem Call.createsFrom_of_calls {c : Call} {path : String} {P : ProductionMemo → Prop}
    (h : c.Quiet ∨ ∃ memo result, c = .sendInfo memo result ∧ P memo) : c.CreatesFrom path :=
  h.elim Call.Quiet.createsFrom fun ⟨_, _, sent, _⟩ => sent ▸ sendInfo_createsFrom

theorem createProvision_createsFrom (memo : ProductionMemo) (clusterName region : String) :
    Logs (Call.CreatesFrom testClusterConfigPath)
      (createProvision w memo (.configPath clusterName region)) :=
  (createProvision_logs w memo _).mono fun _ calls => calls.elim
    (fun ⟨_, _, sent, _⟩ => sent ▸ sendInfo_createsFrom) fun ⟨status, made⟩ _ _ => ⟨status, made⟩

/-- For an encoded eksctl file, the only step of creating the cluster `create`
takes is `eksctl create cluster -f /local/eksctl_config.yaml`: it writes no
file, so eksctl does not read the configuration `create` decoded. -/
theorem create_fileConfig (fuel : Nat) (spec : Spec) (encoded : String)
    (config : spec.configuration.config = .file encoded) :
    ∀ c ∈ (create w fuel spec []).2, ∀ s, c.effect = some (.step s) →
      ∃ status, c = .command "eksctl" ["create", "cluster", "-f", testClusterConfigPath] status := by
  rcases got : w.getInfo [] with _ | m0
  · have failed : (create w fuel spec []).2 = [.getInfo none] := by
      simp [create, bind_apply, createSetup_of_getInfo_none w spec [] got]
    simp [failed]
  · obtain ⟨new, hlog, setup⟩ := createSetup_calls w spec [] m0 got
    obtain ⟨new, hlog, creates⟩ : ∃ new, (create w fuel spec []).2 = [] ++ new ∧
        ∀ c ∈ new, c.CreatesFrom testClusterConfigPath := by
      refine appends_bind ⟨new, hlog, fun c hc => Call.createsFrom_of_calls (setup c hc)⟩
        fun ⟨memo, clusterConfig, doCreate⟩ mid ok => ?_
      obtain ⟨-, -, -, parsed⟩ := createSetup_ok w spec [] mid m0 memo clusterConfig doCreate got ok
      rw [config] at parsed
      obtain ⟨clusterName, region, rfl⟩ := new_file_configPath w encoded clusterConfig parsed
      have readBack : ∀ memo', Logs (Call.CreatesFrom testClusterConfigPath)
          (createReadBack w fuel spec memo' (.configPath clusterName region)) := fun memo' =>
        (createReadBack_does w fuel spec memo' _).logs.mono fun _ => Call.createsFrom_of_calls
      cases doCreate <;> simp only [Bool.false_eq_true, ↓reduceIte, pure_bind]
      · exact readBack memo mid
      · exact logs_bind (createProvision_createsFrom w memo clusterName region) readBack mid
    rw [hlog, List.nil_append]
    exact creates

end Create

/-- Create the cluster from the encoded eksctl file `Y2Zn`. -/
def fileSpec : Spec := ⟨⟨some .create, none, .file "Y2Zn", none⟩, []⟩

theorem create_fileConfig_yamlWorld :
    fileSpec.configuration.config = .file "Y2Zn" ∧
    ∀ c ∈ (create yamlWorld 1 fileSpec []).2, ∀ s, c.effect = some (.step s) →
      ∃ status, c = .command "eksctl" ["create", "cluster", "-f", testClusterConfigPath] status :=
  ⟨rfl, create_fileConfig yamlWorld 1 fileSpec "Y2Zn" rfl⟩

/-- In `yamlWorld`, where `Y2Zn` decodes to a file naming `test-cluster`, the
run creates the cluster, with eksctl as its one step. -/
example : (effects (create yamlWorld 1 fileSpec []).2).filter Effect.isStep = [.step .eksctl] := by
  decide

/-! ## Over every history -/

/-- The memos an attempt sends point at the cluster the memo read pointed at,
or at the cluster of the configuration `ClusterConfig::new` read in its world. -/
theorem Action.targets (w : EksWorld) (spec : Spec) (action : Action) (stored : ProductionMemo)
    (got : w.getInfo [] = some stored) :
    ∀ m ∈ sentMemos (effects (action.log w spec)), PointsFrom w spec stored m := by
  cases action with
  | create fuel => exact create_targets w fuel spec stored got
  | destroy =>
    intro m sent
    obtain rfl := List.mem_singleton.mp (destroy_sentMemos w stored got sent)
    exact .inl rfl

/-- What the info client holds after `effects` is the memo it held or one of
the memos sent. -/
theorem Stores.eq_or_mem {stored final : ProductionMemo} {effects : List Effect}
    (h : Stores stored effects final) : final = stored ∨ final ∈ sentMemos effects := by
  induction h with
  | nil => exact .inl rfl
  | kept _ ih =>
    rcases ih with rfl | sent
    · exact .inr (List.mem_cons_self _ _)
    · exact .inr (List.mem_cons_of_mem _ sent)
  | lost _ ih => exact ih.imp_right (List.mem_cons_of_mem _)
  | step _ ih => exact ih

/-! ## One agent's library -/

/-- The library functions the agent links in: base64, UTF-8 and serde_yaml. -/
structure Library where
  base64Decode : String → Option (List UInt8)
  fromUtf8 : List UInt8 → Option String
  yamlFromStr : String → Option Value
  yamlToString : EksctlYamlConfig → Option String
  base64Encode : String → String

def EksWorld.library (w : EksWorld) : Library :=
  ⟨w.base64Decode, w.fromUtf8, w.yamlFromStr, w.yamlToString, w.base64Encode⟩

/-- `ClusterConfig::new` reads the configuration with the library alone. -/
theorem ClusterConfig.new_library {w w' : EksWorld} (same : w.library = w'.library) (config : EksctlConfig) :
    ClusterConfig.new w config = ClusterConfig.new w' config := by
  obtain ⟨decode, utf8, yaml, -, -⟩ := Library.mk.inj same
  cases config <;> simp only [ClusterConfig.new, decode, utf8, yaml]

/-- The histories of `Session` whose attempts all run with the library
`library`. -/
inductive LibrarySession (spec : Spec) (secretName : String) (library : Library) (m0 : ProductionMemo) :
    ProductionMemo → Bool → Prop where
  | init : LibrarySession spec secretName library m0 m0 false
  | attempt {stored final : ProductionMemo} {created : Bool} (w : EksWorld) (action : Action)
      (calls : Nat) :
      LibrarySession spec secretName library m0 stored created → w.library = library →
      w.getInfo [] = some stored → w.awsCredentialsSecretName = secretName →
      Stores stored (effects ((action.log w spec).take calls)) final →
      LibrarySession spec secretName library m0 final
        (created || (effects ((action.log w spec).take calls)).any Effect.isStep)

/-- One attempt of `create` that ran to its end in `readyWorld`. -/
theorem librarySession_ready :
    LibrarySession exampleSpec "awsCredentials" (readyWorld {}).library {} readyMemo true := by
  have h : LibrarySession exampleSpec "awsCredentials" (readyWorld {}).library {} _ _ :=
    .attempt (readyWorld {}) (.create 1) 100 .init rfl rfl rfl (stores_storedMemo _ _)
  simp only [Action.log, create_readyWorld] at h
  rwa [show storedMemo {} _ = readyMemo by decide, show (false || _) = true by decide] at h

section Session

variable {spec : Spec} {secretName : String} {library : Library} {m0 stored : ProductionMemo}
  {created : Bool}

theorem LibrarySession.session (h : LibrarySession spec secretName library m0 stored created) :
    Session spec secretName m0 stored created := by
  induction h with
  | init => exact .init
  | attempt w action calls _ _ got secret stores ih => exact .attempt w action calls ih got secret stores

/-- Where the memo held points, for any world `w` of the agent: where the first
memo pointed, or at the cluster of the configuration `ClusterConfig::new`
reads in `w`. -/
theorem LibrarySession.pointsAt (h : LibrarySession spec secretName library m0 stored created)
    (w : EksWorld) (shares : w.library = library) :
    stored.target = m0.target ∨ ∃ c, ClusterConfig.new w spec.configuration.config = .ok c ∧
      stored.target = (some c.clusterName, some c.region) := by
  induction h with
  | init => exact .inl rfl
  | attempt w' action calls _ linked got _ stores ih =>
    rcases stores.eq_or_mem with rfl | sent
    · exact ih
    · have sent : _ ∈ sentMemos (effects (action.log w' spec)) :=
        (((List.take_sublist calls _).filterMap _).filterMap _).subset sent
      rcases action.targets w' spec _ got _ sent with same | ⟨c, config, named⟩
      · rw [same]
        exact ih
      · exact .inr ⟨c, (ClusterConfig.new_library (shares.trans linked.symm) _).trans config, named⟩

/-- The name and region a memo held that points where `m0` did, or at the
configuration's cluster, gives `eksctl delete cluster`. -/
theorem deleted_of_pointsAt {w : EksWorld} {name : String}
    (points : stored.target = m0.target ∨ ∃ c, ClusterConfig.new w spec.configuration.config = .ok c ∧
      stored.target = (some c.clusterName, some c.region))
    (named : stored.clusterName = some name) :
    (m0.clusterName = some name ∧ stored.region.getD defaultRegion = m0.region.getD defaultRegion) ∨
      ∃ c, ClusterConfig.new w spec.configuration.config = .ok c ∧ name = c.clusterName ∧
        stored.region.getD defaultRegion = c.region := by
  rcases points with same | ⟨c, config, points⟩
  · simp only [ProductionMemo.target, Prod.mk.injEq] at same
    exact .inl ⟨same.1 ▸ named, by rw [same.2]⟩
  · simp only [ProductionMemo.target, Prod.mk.injEq, named, Option.some.injEq] at points
    exact .inr ⟨c, config, points.1, by rw [points.2]; rfl⟩

/-- Over every history of attempts of one agent, the memo held points at the
cluster the first memo pointed at or at the cluster the spec's configuration
gives with the agent's library, and a `destroy` of the agent that reads it runs
no command but `eksctl delete cluster` on one of these two clusters. -/
theorem session_target (h : LibrarySession spec secretName library m0 stored created) (w : EksWorld)
    (shares : w.library = library) (got : w.getInfo [] = some stored) :
    (stored.target = m0.target ∨ ∃ c, ClusterConfig.new w spec.configuration.config = .ok c ∧
      stored.target = (some c.clusterName, some c.region)) ∧
    ∀ program args status, Call.command program args status ∈ (destroy w []).2 → program = "eksctl" ∧
      ((∃ name, m0.clusterName = some name ∧
          args = ["delete", "cluster", "--name", name, "-r", m0.region.getD defaultRegion]) ∨
        ∃ c, ClusterConfig.new w spec.configuration.config = .ok c ∧
          args = ["delete", "cluster", "--name", c.clusterName, "-r", c.region]) := by
  refine ⟨h.pointsAt w shares, fun program args status mem => ?_⟩
  obtain ⟨-, name, named, rfl, rfl⟩ := (destroy_deletes w stored got).1 program args status mem
  refine ⟨rfl, ?_⟩
  rcases deleted_of_pointsAt (h.pointsAt w shares) named with ⟨before, region⟩ | ⟨c, config, rfl, region⟩
  · exact .inl ⟨name, before, by rw [region]⟩
  · exact .inr ⟨c, config, by rw [region]⟩

/-- From a first memo that names no cluster or the cluster of the spec's
configuration, after any history of one agent in which an attempt took a step
of creating the cluster, a `destroy` of the agent that returns `Ok` ran `eksctl
delete cluster` on the configuration's cluster, in its region, and the command
succeeded. -/
theorem session_cleanup (h : LibrarySession spec secretName library m0 stored true) (w : EksWorld)
    (shares : w.library = library)
    (first : m0.clusterName = none ∨ ∃ c, ClusterConfig.new w spec.configuration.config = .ok c ∧
      m0.target = (some c.clusterName, some c.region))
    (got : w.getInfo [] = some stored) (ok : (destroy w []).1 = .ok ()) :
    ∃ c status, ClusterConfig.new w spec.configuration.config = .ok c ∧ status.success = true ∧
      Call.command "eksctl" ["delete", "cluster", "--name", c.clusterName, "-r", c.region] (some status) ∈
        (destroy w []).2 := by
  obtain ⟨name, status, named, success, deleted⟩ :=
    (destroy_deletes w stored got).2 ok (h.session.inv.2 rfl)
  rcases deleted_of_pointsAt (h.pointsAt w shares) named with ⟨before, region⟩ | ⟨c, config, rfl, region⟩
  · rcases first with fresh | ⟨c, config, points⟩
    · exact absurd (fresh.symm.trans before) Option.noConfusion
    · simp only [ProductionMemo.target, Prod.mk.injEq] at points
      obtain rfl : c.clusterName = name := Option.some.inj (points.1.symm.trans before)
      exact ⟨c, status, config, success, by rwa [region, points.2] at deleted⟩
  · exact ⟨c, status, config, success, by rwa [region] at deleted⟩

end Session

theorem session_target_ready :
    LibrarySession exampleSpec "awsCredentials" (readyWorld {}).library {} readyMemo true ∧
    (readyWorld readyMemo).library = (readyWorld {}).library ∧ (readyWorld readyMemo).getInfo [] = some readyMemo ∧
    (readyMemo.target = ({} : ProductionMemo).target ∨
      ∃ c, ClusterConfig.new (readyWorld readyMemo) exampleSpec.configuration.config = .ok c ∧
        readyMemo.target = (some c.clusterName, some c.region)) ∧
    ∀ program args status, Call.command program args status ∈ (destroy (readyWorld readyMemo) []).2 →
      program = "eksctl" ∧
      ((∃ name, ({} : ProductionMemo).clusterName = some name ∧
          args = ["delete", "cluster", "--name", name, "-r", ({} : ProductionMemo).region.getD defaultRegion]) ∨
        ∃ c, ClusterConfig.new (readyWorld readyMemo) exampleSpec.configuration.config = .ok c ∧
          args = ["delete", "cluster", "--name", c.clusterName, "-r", c.region]) :=
  ⟨librarySession_ready, rfl, rfl, session_target librarySession_ready _ rfl rfl⟩

theorem session_cleanup_ready :
    LibrarySession exampleSpec "awsCredentials" (readyWorld {}).library {} readyMemo true ∧
    (readyWorld readyMemo).library = (readyWorld {}).library ∧
    (({} : ProductionMemo).clusterName = none ∨
      ∃ c, ClusterConfig.new (readyWorld readyMemo) exampleSpec.configuration.config = .ok c ∧
        ({} : ProductionMemo).target = (some c.clusterName, some c.region)) ∧
    (readyWorld readyMemo).getInfo [] = some readyMemo ∧ (destroy (readyWorld readyMemo) []).1 = .ok () ∧
    ∃ c status, ClusterConfig.new (readyWorld readyMemo) exampleSpec.configuration.config = .ok c ∧
      status.success = true ∧
      Call.command "eksctl" ["delete", "cluster", "--name", c.clusterName, "-r", c.region] (some status) ∈
        (destroy (readyWorld readyMemo) []).2 :=
  ⟨librarySession_ready, rfl, .inl rfl, rfl, by decide,
    session_cleanup librarySession_ready _ rfl (.inl rfl) rfl (by decide)⟩

end TestSys.Eks
