import TestSys.Eks.Model
import Mathlib.Data.List.Chain

/-! # What a run does to the memo and to the cluster

Of the calls the provider makes, two kinds matter to a later cleanup: the memos
it sends, each acknowledged by the info client or not, and the steps that
create the cluster.  `effects` keeps those of a log and drops the rest.

`checkpointed` holds when every creation step comes after an acknowledged memo
recording that provisioning started (`exists_checkpoint_before` restates it
over the calls); `ProductionMemo.Extends` holds when a memo keeps what an
earlier one records of provisioning, `ProductionMemo.KeepsCredentials` when it
keeps the credentials. -/
set_option autoImplicit false

namespace TestSys.Eks

/-- The steps of `create_cluster` that create the cluster: the eksctl file, and
`eksctl create`. -/
inductive CreationStep where
  | createFile
  | writeAll
  | eksctl
  deriving DecidableEq

inductive Effect where
  | send (memo : ProductionMemo) (acknowledged : Bool)
  | step (s : CreationStep)
  deriving DecidableEq

def Call.effect : Call → Option Effect
  | .sendInfo memo result => some (.send memo result.isSome)
  | .createFile _ _ => some (.step .createFile)
  | .writeAll _ _ _ => some (.step .writeAll)
  | .command "eksctl" ("create" :: _) _ => some (.step .eksctl)
  | _ => none

@[simp] theorem effect_getInfo (memo : Option ProductionMemo) : (Call.getInfo memo).effect = none := rfl

@[simp] theorem effect_sendInfo (memo : ProductionMemo) (result : Option Unit) :
    (Call.sendInfo memo result).effect = some (.send memo result.isSome) := rfl

@[simp] theorem effect_awsConfig (request : AwsConfigRequest) (result : Option Unit) :
    (Call.awsConfig request result).effect = none := rfl

@[simp] theorem effect_readToString (path : Path) (contents : Option String) :
    (Call.readToString path contents).effect = none := rfl

@[simp] theorem effect_command (program : String) (args : List String) (status : Option ExitStatus) :
    (Call.command program args status).effect =
      if program = "eksctl" ∧ args.head? = some "create" then some (.step .eksctl) else none := by
  unfold Call.effect
  split <;> try simp_all
  rename_i fallback
  rw [if_neg]
  rintro ⟨rfl, head⟩
  cases args <;> simp_all

/-- The call neither sends a memo nor takes a step of creating the cluster. -/
def Call.Quiet (e : Call) : Prop := e.effect = none

def effects (log : Log) : List Effect := log.filterMap Call.effect

@[simp] theorem effects_nil : effects [] = [] := rfl

@[simp] theorem effects_cons (e : Call) (log : Log) :
    effects (e :: log) = e.effect.toList ++ effects log := by
  cases h : e.effect <;> simp [effects, List.filterMap_cons, h]

@[simp] theorem effects_append (log log' : Log) : effects (log ++ log') = effects log ++ effects log' :=
  List.filterMap_append ..

theorem effects_eq_nil {log : Log} (quiet : ∀ e ∈ log, e.Quiet) : effects log = [] :=
  List.filterMap_eq_nil_iff.mpr quiet

/-- What a run that logs only quiet calls appends has no effect. -/
theorem quiet_appends {α : Type} {x : EksRun α} (hx : Run.Logs Call.Quiet x) (log : Log) :
    ∃ new, (x log).2 = log ++ new ∧ effects new = [] :=
  let ⟨new, hlog, quiet⟩ := hx log
  ⟨new, hlog, effects_eq_nil quiet⟩

/-- A quiet run followed by `k`: each of the ways it can end, with no effect. -/
theorem quiet_bind {α β : Type} {T : Outcome ProviderError β × Log → Prop} {x : EksRun α}
    {k : α → EksRun β} {log : Log} (hx : Run.Logs Call.Quiet x)
    (hok : ∀ a new, effects new = [] → T (k a (log ++ new)))
    (herror : ∀ e new, effects new = [] → T (.error e, log ++ new))
    (hhalt : ∀ h new, effects new = [] → T (.halt h, log ++ new)) : T ((x >>= k) log) :=
  Run.bind_apply_of_appends (quiet_appends hx log) hok herror hhalt

theorem effect_eq_send {e : Call} {memo : ProductionMemo} {acknowledged : Bool}
    (h : e.effect = some (.send memo acknowledged)) :
    ∃ result, e = .sendInfo memo result ∧ result.isSome = acknowledged := by
  unfold Call.effect at h
  split at h <;> simp only [Option.some.injEq, Effect.send.injEq, reduceCtorEq] at h
  exact ⟨_, by rw [h.1], h.2⟩

def Effect.memo : Effect → Option ProductionMemo
  | .send memo _ => some memo
  | .step _ => none

/-- The memos sent, acknowledged or not, in order. -/
def sentMemos (effects : List Effect) : List ProductionMemo := effects.filterMap Effect.memo

@[simp] theorem sentMemos_nil : sentMemos [] = [] := rfl

@[simp] theorem sentMemos_cons_send (memo : ProductionMemo) (acknowledged : Bool) (rest : List Effect) :
    sentMemos (.send memo acknowledged :: rest) = memo :: sentMemos rest := rfl

@[simp] theorem sentMemos_cons_step (s : CreationStep) (rest : List Effect) :
    sentMemos (.step s :: rest) = sentMemos rest := rfl

@[simp] theorem sentMemos_append (effects effects' : List Effect) :
    sentMemos (effects ++ effects') = sentMemos effects ++ sentMemos effects' :=
  List.filterMap_append ..

/-! ## Checkpoints -/

/-- Every creation step comes after an acknowledged memo recording that
provisioning started. -/
def checkpointed : List Effect → Bool
  | [] => true
  | .send memo acknowledged :: rest => acknowledged && memo.provisioningStarted || checkpointed rest
  | .step _ :: _ => false

/-- `checkpointed` over the calls of a log: before every creation step there is
an acknowledged `send_info` of a memo with provisioning started. -/
theorem exists_checkpoint_before {log : Log} (h : checkpointed (effects log) = true)
    (before : Log) (e : Call) (after : Log) (s : CreationStep) (split : log = before ++ e :: after)
    (creates : e.effect = some (.step s)) :
    ∃ memo, .sendInfo memo (some ()) ∈ before ∧ memo.provisioningStarted = true := by
  induction before generalizing log with
  | nil => simp [split, creates, checkpointed] at h
  | cons c before ih =>
    subst split
    rcases hc : c.effect with _ | ⟨memo, acknowledged⟩ | s'
    · obtain ⟨memo, mem, started⟩ := ih (by simpa [hc] using h) rfl
      exact ⟨memo, List.mem_cons_of_mem _ mem, started⟩
    · obtain ⟨result, rfl, hack⟩ := effect_eq_send hc
      simp only [effects_cons, hc, Option.toList_some, List.singleton_append, checkpointed,
        Bool.or_eq_true, Bool.and_eq_true] at h
      rcases h with ⟨hacked, started⟩ | h
      · rcases result with _ | ⟨⟨⟩⟩
        · simp at hack hacked
        · exact ⟨memo, List.mem_cons_self _ _, started⟩
      · obtain ⟨memo', mem, started⟩ := ih h rfl
        exact ⟨memo', List.mem_cons_of_mem _ mem, started⟩
    · simp [hc, checkpointed] at h

/-! ## The rules of provisioning -/

namespace ProductionMemo

/-- `m'` keeps what `m` records of provisioning: that it started, the creation
policy, and the cluster's name and region. -/
def Extends (m m' : ProductionMemo) : Prop :=
  (m.provisioningStarted = true → m'.provisioningStarted = true) ∧
  (m.creationPolicy.isSome → m'.creationPolicy.isSome) ∧
  (m.clusterName.isSome → m'.clusterName.isSome) ∧ (m.region.isSome → m'.region.isSome)

instance : DecidableRel Extends := fun _ _ =>
  inferInstanceAs (Decidable (_ ∧ _ ∧ _ ∧ _))

instance : IsTrans ProductionMemo Extends :=
  ⟨fun _ _ _ h h' => ⟨h'.1 ∘ h.1, h'.2.1 ∘ h.2.1, h'.2.2.1 ∘ h.2.2.1, h'.2.2.2 ∘ h.2.2.2⟩⟩

/-- The secret's name and the role to assume. -/
def credentials (m : ProductionMemo) : Option String × Option String :=
  (m.awsSecretName, m.assumeRole)

end ProductionMemo

/-- What a later cleanup can rely on after the effects so far. -/
structure Progress where
  /-- The last memo sent, or the memo read when none was sent. -/
  memo : ProductionMemo
  /-- A memo with provisioning started was acknowledged. -/
  checkpointPassed : Bool
  steps : List CreationStep

namespace Progress

variable (specCredentials : Option String × Option String)

def init (memo : ProductionMemo) : Progress := ⟨memo, false, []⟩

/-- One effect, when it keeps the rules: a memo keeps what the last one records
of provisioning, and keeps its credentials or carries the spec's; a creation
step comes after the checkpoint and is not repeated. -/
def next (p : Progress) : Effect → Option Progress
  | .send memo acknowledged =>
    if p.memo.Extends memo ∧
        (memo.credentials = p.memo.credentials ∨ memo.credentials = specCredentials) then
      some ⟨memo, p.checkpointPassed || acknowledged && memo.provisioningStarted, p.steps⟩
    else none
  | .step s => if p.checkpointPassed = true ∧ s ∉ p.steps then some { p with steps := s :: p.steps } else none

def run (p : Progress) : List Effect → Option Progress
  | [] => some p
  | e :: effects => (p.next specCredentials e).bind fun p' => p'.run effects

@[simp] theorem run_nil (p : Progress) : p.run specCredentials [] = some p := rfl

@[simp] theorem run_cons (p : Progress) (e : Effect) (effects : List Effect) :
    p.run specCredentials (e :: effects) =
      (p.next specCredentials e).bind fun p' => p'.run specCredentials effects := rfl

theorem run_append (p : Progress) (effects effects' : List Effect) :
    p.run specCredentials (effects ++ effects') =
      (p.run specCredentials effects).bind fun p' => p'.run specCredentials effects' := by
  induction effects generalizing p with
  | nil => rfl
  | cons e effects ih => simp [ih, Option.bind_assoc]

/-- Creation steps, none repeated nor taken before, after the checkpoint. -/
theorem run_steps (p : Progress) (steps : List CreationStep) (nodup : steps.Nodup)
    (passed : p.checkpointPassed = true) (fresh : ∀ s ∈ steps, s ∉ p.steps) :
    p.run specCredentials (steps.map .step) = some { p with steps := steps.reverse ++ p.steps } := by
  induction steps generalizing p with
  | nil => rfl
  | cons s steps ih =>
    have later : ∀ s' ∈ steps, s' ∉ s :: p.steps := fun s' mem =>
      List.not_mem_cons_of_ne_of_not_mem (fun h => (List.nodup_cons.mp nodup).1 (h ▸ mem))
        (fresh s' (List.mem_cons_of_mem _ mem))
    have rest := ih { p with steps := s :: p.steps } (List.nodup_cons.mp nodup).2 passed later
    simp only [passed] at rest
    simp [next, passed, fresh s (List.mem_cons_self _ _), rest]

/-! ## What a run that keeps the rules guarantees -/

variable {specCredentials} {p p' : Progress} {effects : List Effect}

/-- Everything one effect that keeps the rules can do. -/
theorem next_eq_some {e : Effect} (h : p.next specCredentials e = some p') :
    (∃ memo acknowledged, e = .send memo acknowledged ∧ p.memo.Extends memo ∧
      (memo.credentials = p.memo.credentials ∨ memo.credentials = specCredentials) ∧
      p' = ⟨memo, p.checkpointPassed || acknowledged && memo.provisioningStarted, p.steps⟩) ∨
    ∃ s, e = .step s ∧ p.checkpointPassed = true ∧ s ∉ p.steps ∧ p' = { p with steps := s :: p.steps } := by
  cases e with
  | send memo acknowledged =>
    simp only [next] at h
    split at h
    · exact .inl ⟨memo, acknowledged, rfl, ‹_ ∧ _›.1, ‹_ ∧ _›.2, (Option.some.inj h).symm⟩
    · cases h
  | step s =>
    simp only [next] at h
    split at h
    · exact .inr ⟨s, rfl, ‹_ ∧ _›.1, ‹_ ∧ _›.2, (Option.some.inj h).symm⟩
    · cases h

theorem run_cons_eq_some {e : Effect} (h : p.run specCredentials (e :: effects) = some p') :
    ∃ q, p.next specCredentials e = some q ∧ q.run specCredentials effects = some p' :=
  Option.bind_eq_some.mp h

theorem run_checkpointed (h : p.run specCredentials effects = some p') (hp : p.checkpointPassed = false) :
    checkpointed effects = true := by
  induction effects generalizing p with
  | nil => rfl
  | cons e effects ih =>
    obtain ⟨q, hq, h⟩ := run_cons_eq_some h
    rcases next_eq_some hq with ⟨memo, acknowledged, rfl, -, -, rfl⟩ | ⟨s, rfl, passed, -⟩
    · cases hc : (acknowledged && memo.provisioningStarted)
      · simpa [checkpointed, hc] using ih h (by simp [hp, hc])
      · simp [checkpointed, hc]
    · simp [hp] at passed

theorem run_count (h : p.run specCredentials effects = some p') (s : CreationStep) :
    (s ∈ p.steps → effects.count (.step s) = 0) ∧ effects.count (.step s) ≤ 1 := by
  induction effects generalizing p with
  | nil => simp
  | cons e effects ih =>
    obtain ⟨q, hq, h⟩ := run_cons_eq_some h
    rcases next_eq_some hq with ⟨memo, acknowledged, rfl, -, -, rfl⟩ | ⟨s', rfl, -, fresh, rfl⟩
    · simpa [List.count_cons] using ih h
    · have later := ih h
      by_cases same : s' = s
      · subst same
        simp_all [List.count_cons]
      · simp_all [List.count_cons]

theorem run_chain (h : p.run specCredentials effects = some p') :
    (sentMemos effects).Chain ProductionMemo.Extends p.memo := by
  induction effects generalizing p with
  | nil => exact .nil
  | cons e effects ih =>
    obtain ⟨q, hq, h⟩ := run_cons_eq_some h
    rcases next_eq_some hq with ⟨memo, acknowledged, rfl, kept, -, rfl⟩ | ⟨s, rfl, -, -, rfl⟩
    · exact .cons kept (ih h)
    · exact (ih h :)

/-- Along a run that keeps the rules, the credentials change at most once, to
the spec's. -/
theorem run_credentials (h : p.run specCredentials effects = some p') :
    ∃ before after, sentMemos effects = before ++ after ∧
      (∀ m ∈ before, m.credentials = p.memo.credentials) ∧ ∀ m ∈ after, m.credentials = specCredentials := by
  induction effects generalizing p with
  | nil => exact ⟨[], [], rfl, by simp, by simp⟩
  | cons e effects ih =>
    obtain ⟨q, hq, h⟩ := run_cons_eq_some h
    rcases next_eq_some hq with ⟨memo, acknowledged, rfl, -, same | spec, rfl⟩ | ⟨s, rfl, -, -, rfl⟩
    · obtain ⟨before, after, split, hbefore, hafter⟩ := ih h
      exact ⟨memo :: before, after, by simp [split], by simp_all, hafter⟩
    · obtain ⟨before, after, split, hbefore, hafter⟩ := ih h
      refine ⟨[], memo :: before ++ after, by simp [split], by simp, ?_⟩
      simp only [List.cons_append, List.mem_cons, List.mem_append]
      rintro m (rfl | mem | mem)
      exacts [spec, (hbefore m mem).trans spec, hafter m mem]
    · exact (ih h :)

end Progress

/-! ## Runs that keep the rules -/

/-- The run that ended with `result`, started on `log`, keeps the rules from
every progress `pre` admits, and when it returned `a` it ended in a progress
`post a` admits. -/
def KeepsRules {α : Type} (specCredentials : Option String × Option String)
    (pre : Progress → Prop) (post : α → Progress → Prop) (log : Log)
    (result : Outcome ProviderError α × Log) : Prop :=
  ∃ new, result.2 = log ++ new ∧ ∀ p, pre p →
    ∃ p', p.run specCredentials (effects new) = some p' ∧ ∀ a, result.1 = .ok a → post a p'

section KeepsRules

variable {α β : Type} {specCredentials : Option String × Option String} {pre : Progress → Prop}
  {post : β → Progress → Prop} {log : Log}

theorem keepsRules_of (outcome : Outcome ProviderError β) (new : Log)
    (h : ∀ p, pre p → ∃ p', p.run specCredentials (effects new) = some p' ∧
      ∀ b, outcome = .ok b → post b p') :
    KeepsRules specCredentials pre post log (outcome, log ++ new) :=
  ⟨new, rfl, h⟩

theorem KeepsRules.pure (b : β) (h : ∀ p, pre p → post b p) :
    KeepsRules specCredentials pre post log ((Pure.pure b : EksRun β) log) :=
  ⟨[], by simp, fun p hp => ⟨p, rfl, fun _ hb => by cases hb; exact h p hp⟩⟩

theorem KeepsRules.bind {mid : α → Progress → Prop} {x : EksRun α} {k : α → EksRun β}
    (hx : KeepsRules specCredentials pre mid log (x log))
    (hk : ∀ a log', KeepsRules specCredentials (mid a) post log' (k a log')) :
    KeepsRules specCredentials pre post log ((x >>= k) log) := by
  obtain ⟨new, hlog, hnew⟩ := hx
  rw [Run.bind_apply]
  rcases hrun : x log with ⟨_ | e | h, after⟩ <;> rw [hrun] at hlog hnew <;> subst hlog
  · rename_i a
    obtain ⟨new', hlog', hnew'⟩ := hk a (log ++ new)
    refine ⟨new ++ new', by simp [hlog'], fun p hp => ?_⟩
    obtain ⟨p₁, hrun₁, hmid⟩ := hnew p hp
    obtain ⟨p₂, hrun₂, hpost⟩ := hnew' p₁ (hmid a rfl)
    exact ⟨p₂, by rw [effects_append, Progress.run_append, hrun₁]; exact hrun₂, hpost⟩
  all_goals
    refine ⟨new, rfl, fun p hp => ?_⟩
    obtain ⟨p₁, hrun₁, -⟩ := hnew p hp
    exact ⟨p₁, hrun₁, fun _ h => nomatch h⟩

end KeepsRules

end TestSys.Eks
