import TestSys.Eks.Trace
import Mathlib.Data.List.Basic

/-! # Finding the nodegroup stack

`nodegroup_iam_role` pages through the CloudFormation stacks until a page
holds a stack of the cluster's nodegroup, and reads that stack's
`NodeInstanceRole`.  The source bounds no loop: a `list_stacks` that always
returns a next token keeps it paging, so the model pages on fuel.

`nodegroupIamRole_chain`: over a finite chain of pages, the search requests
the pages in order, stops at the first page holding a match, and describes the
first match of the concatenated pages, or fails as not found when there is
none; as many units of fuel as pages suffice.  Each page answers the request
made after the pages before it, so a server may repeat a token.
`isNodegroupStack_unambiguous`: the stack-name test never selects another
cluster's stack, unless one cluster name extends the other by a suffix
starting with `-node`, or one of them starts with `eksctl`. -/
set_option autoImplicit false

namespace TestSys.Eks

open Run

/-- Rust's `str::starts_with` with a string pattern.  On valid UTF-8 a byte
prefix is a character prefix, so the test is on characters. -/
def startsWith (s pattern : String) : Bool := pattern.data.isPrefixOf s.data

theorem startsWith_iff (s pattern : String) : startsWith s pattern = true ↔ pattern.data <+: s.data :=
  List.isPrefixOf_iff_prefix

/-- The stack-name test of `nodegroup_iam_role`'s search. -/
def isNodegroupStack (clusterName name : String) : Bool :=
  -- For eksctl created clusters
  startsWith name ("eksctl-" ++ clusterName ++ "-nodegroup") ||
  -- For non-eksctl created clusters
  startsWith name (clusterName ++ "-node-group")

def stackNames (output : ListStacksOutput) : List String :=
  output.stackSummaries.filterMap StackSummary.stackName

def stackNotFound : ProviderError :=
  ⟨.remaining, "Could not find nodegroup cloudformation stack for cluster"⟩

section Search

variable (w : EksWorld)

/-- `list_stacks` with the stack status filters, after the page of `nextToken`. -/
def listStackOutput (nextToken : Option String) : EksRun ListStacksOutput := do
  context .remaining "Unable to list CloudFormation stacks" (← listStacks w nextToken)

/-- The search loop of `nodegroup_iam_role`, one unit of fuel a page. -/
def findNodegroupStack (clusterName : String) : Nat → ListStacksOutput → EksRun String
  | 0, _ => halt .outOfFuel
  | fuel + 1, output =>
    match (stackNames output).find? (isNodegroupStack clusterName) with
    | some name => pure name
    | none =>
      match output.nextToken with
      | some token => do findNodegroupStack clusterName fuel (← listStackOutput w (some token))
      | none => fail stackNotFound

/-- The `NodeInstanceRole` of the stack the search found. -/
def describeNodeInstanceRole (stackName : String) : EksRun String := do
  let output ← context .remaining
    ("Unable to describe CloudFormation stack resources for '" ++ stackName ++ "'")
    (← describeStackResource w stackName "NodeInstanceRole")
  let detail ← context .remaining ("Missing 'NodeInstanceRole' stack resource for '" ++ stackName ++ "'")
    output.stackResourceDetail
  context .remaining ("Missing stack outputs in '" ++ stackName ++ "'") detail.physicalResourceId

def nodegroupIamRole (fuel : Nat) (clusterName : String) : EksRun String := do
  let output ← listStackOutput w none
  let stackName ← findNodegroupStack w clusterName fuel output
  describeNodeInstanceRole w stackName

theorem listStackOutput_does (nextToken : Option String) :
    Does Call.Quiet (·.resources = .remaining) (listStackOutput w nextToken) :=
  does_bind (does_call fun _ => rfl) fun _ => does_context _ rfl

theorem findNodegroupStack_does (clusterName : String) (fuel : Nat) (output : ListStacksOutput) :
    Does Call.Quiet (·.resources = .remaining) (findNodegroupStack w clusterName fuel output) := by
  induction fuel generalizing output with
  | zero => exact does_halt _
  | succ fuel ih =>
    simp only [findNodegroupStack]
    split
    · exact does_pure _
    · split
      · exact does_bind (listStackOutput_does w _) fun _ => ih _
      · exact does_fail rfl

/-- The search neither sends a memo nor creates anything, and fails
`Remaining`. -/
theorem nodegroupIamRole_does (fuel : Nat) (clusterName : String) :
    Does Call.Quiet (·.resources = .remaining) (nodegroupIamRole w fuel clusterName) :=
  does_bind (listStackOutput_does w _) fun _ => does_bind (findNodegroupStack_does w _ _ _) fun _ =>
    does_bind (does_call fun _ => rfl) fun _ => does_bind (does_context _ rfl) fun _ =>
      does_bind (does_context _ rfl) fun _ => does_context _ rfl

/-! ## Paging through a finite chain -/

/-- `list_stacks` serves a finite chain of pages to the requests made from
`log` on: each page answers the request made after the pages before it, every
page but the last has a next token, and the last has none.  The answer is read
at the log, so a server may give one token different pages at different
points of the search. -/
def ServesChain (log : Log) (token : Option String) : List ListStacksOutput → Prop
  | [] => False
  | page :: rest => w.listStacks log token = some page ∧
    match rest with
    | [] => page.nextToken = none
    | _ :: _ => page.nextToken.isSome ∧
      ServesChain (log ++ [.listStacks token (some page)]) page.nextToken rest

/-- The `list_stacks` calls that request `pages` in order, from `token` on. -/
def listing (token : Option String) : List ListStacksOutput → Log
  | [] => []
  | page :: rest => .listStacks token (some page) :: listing page.nextToken rest

/-- The pages up to the first that holds a stack of the nodegroup. -/
def pagesUntilMatch (clusterName : String) : List ListStacksOutput → List ListStacksOutput
  | [] => []
  | page :: rest =>
    if (stackNames page).any (isNodegroupStack clusterName) then [page]
    else page :: pagesUntilMatch clusterName rest

/-- The first stack of the nodegroup over the concatenated pages. -/
def firstMatch (clusterName : String) (pages : List ListStacksOutput) : Option String :=
  (pages.flatMap stackNames).find? (isNodegroupStack clusterName)

/-- A page that holds a match ends the search there. -/
theorem firstMatch_of_found (clusterName : String) {page : ListStacksOutput} {name : String}
    (rest : List ListStacksOutput) (found : (stackNames page).find? (isNodegroupStack clusterName) = some name) :
    firstMatch clusterName (page :: rest) = some name ∧
      pagesUntilMatch clusterName (page :: rest) = [page] := by
  have any : (stackNames page).any (isNodegroupStack clusterName) = true := by
    simpa using List.find?_isSome.mp (by simp [found])
  simp [firstMatch, pagesUntilMatch, List.find?_append, found, any]

/-- A page without a match passes the search on to the pages after it. -/
theorem firstMatch_of_not_found (clusterName : String) {page : ListStacksOutput}
    (rest : List ListStacksOutput) (found : (stackNames page).find? (isNodegroupStack clusterName) = none) :
    firstMatch clusterName (page :: rest) = firstMatch clusterName rest ∧
      pagesUntilMatch clusterName (page :: rest) = page :: pagesUntilMatch clusterName rest := by
  have any : (stackNames page).any (isNodegroupStack clusterName) = false := by
    simpa using List.find?_eq_none.mp found
  simp [firstMatch, pagesUntilMatch, List.find?_append, found, any]

/-- The search from a page that answered the request with `token` at `log`:
by induction over the rest of the chain, one page a unit of fuel. -/
theorem findNodegroupStack_chain (clusterName : String) (rest : List ListStacksOutput) :
    ∀ (page : ListStacksOutput) (token : Option String) (fuel : Nat) (log : Log),
    ServesChain w log token (page :: rest) → rest.length < fuel →
    findNodegroupStack w clusterName fuel page (log ++ [.listStacks token (some page)]) =
      match firstMatch clusterName (page :: rest) with
      | some name => (.ok name, log ++ listing token (pagesUntilMatch clusterName (page :: rest)))
      | none => (.error stackNotFound, log ++ listing token (page :: rest)) := by
  induction rest with
  | nil =>
    intro page token fuel log serves enough
    obtain ⟨fuel, rfl⟩ : ∃ f, fuel = f + 1 := ⟨fuel - 1, by omega⟩
    have last : page.nextToken = none := serves.2
    cases found : (stackNames page).find? (isNodegroupStack clusterName) with
    | some name =>
      obtain ⟨first, upTo⟩ := firstMatch_of_found clusterName [] found
      simp [findNodegroupStack, found, first, upTo, listing]
    | none =>
      simp [findNodegroupStack, found, (firstMatch_of_not_found clusterName [] found).1, firstMatch,
        listing, last]
  | cons next rest ih =>
    intro page token fuel log serves enough
    obtain ⟨fuel, rfl⟩ : ∃ f, fuel = f + 1 := ⟨fuel - 1, by omega⟩
    obtain ⟨-, hasNext, servesRest⟩ := serves
    obtain ⟨t, ht⟩ := Option.isSome_iff_exists.mp hasNext
    cases found : (stackNames page).find? (isNodegroupStack clusterName) with
    | some name =>
      obtain ⟨first, upTo⟩ := firstMatch_of_found clusterName (next :: rest) found
      simp [findNodegroupStack, found, first, upTo, listing]
    | none =>
      obtain ⟨first, upTo⟩ := firstMatch_of_not_found clusterName (next :: rest) found
      rw [ht] at servesRest
      simp only [findNodegroupStack, found, ht, listStackOutput, listStacks, bind_assoc,
        call_bind_apply, servesRest.1, context_some, monadLift_ok, pure_bind,
        ih next (some t) fuel _ servesRest (by simpa using enough), first, upTo]
      cases firstMatch clusterName (next :: rest) <;> simp [listing, ht]

theorem ne_of_data_head {s t : String} (h : s.data.head? ≠ t.data.head?) : s ≠ t :=
  fun e => h (e ▸ rfl)

theorem describeNodeInstanceRole_ne_stackNotFound (stackName : String) (log : Log) :
    (describeNodeInstanceRole w stackName log).1 ≠ .error stackNotFound := by
  simp only [describeNodeInstanceRole, bind_assoc, describeStackResource, call_bind_apply]
  rcases w.describeStackResource log stackName "NodeInstanceRole" with _ | ⟨_ | ⟨_ | _⟩⟩ <;>
    simp [stackNotFound] <;> exact ne_of_data_head (by simp [List.head?_append])

theorem nodegroupIamRole_chain (clusterName : String) (pages : List ListStacksOutput) (fuel : Nat)
    (log : Log) (serves : ServesChain w log none pages) (enough : pages.length ≤ fuel) :
    nodegroupIamRole w fuel clusterName log =
      (match firstMatch clusterName pages with
        | some stackName =>
          describeNodeInstanceRole w stackName (log ++ listing none (pagesUntilMatch clusterName pages))
        | none => (.error stackNotFound, log ++ listing none pages)) ∧
    ((nodegroupIamRole w fuel clusterName log).1 = .error stackNotFound ↔
      firstMatch clusterName pages = none) := by
  rcases pages with _ | ⟨page, rest⟩
  · exact serves.elim
  have run : nodegroupIamRole w fuel clusterName log =
      (match firstMatch clusterName (page :: rest) with
        | some stackName =>
          describeNodeInstanceRole w stackName
            (log ++ listing none (pagesUntilMatch clusterName (page :: rest)))
        | none => (.error stackNotFound, log ++ listing none (page :: rest))) := by
    simp only [nodegroupIamRole, listStackOutput, listStacks, bind_assoc, call_bind_apply, serves.1,
      context_some, monadLift_ok, pure_bind]
    rw [bind_apply, findNodegroupStack_chain w clusterName rest page none fuel log serves
      (by simpa using enough)]
    cases firstMatch clusterName (page :: rest) <;> rfl
  refine ⟨run, ?_⟩
  rw [run]
  cases firstMatch clusterName (page :: rest) <;> simp [describeNodeInstanceRole_ne_stackNotFound]

end Search

/-- Three pages: the first two both carry the next token `more`, and only the
third holds the nodegroup's stack. -/
def pagedStacks : List ListStacksOutput :=
  [⟨[⟨some "other"⟩], some "more"⟩, ⟨[⟨none⟩], some "more"⟩, ⟨[⟨some "eksctl-c-nodegroup-ng"⟩], none⟩]

/-- A `list_stacks` that serves `pagedStacks` by how many calls the log holds. -/
def pagedWorld : EksWorld :=
  { exampleWorld {} true [] (.exited 0) with listStacks := fun log _ => pagedStacks.get? log.length }

/-- The search pages past two pages with one repeated token to the third. -/
theorem nodegroupIamRole_chain_threePages :
    ServesChain pagedWorld [] none pagedStacks ∧ pagedStacks.length ≤ 3 ∧
    nodegroupIamRole pagedWorld 3 "c" [] =
      (match firstMatch "c" pagedStacks with
        | some stackName =>
          describeNodeInstanceRole pagedWorld stackName ([] ++ listing none (pagesUntilMatch "c" pagedStacks))
        | none => (.error stackNotFound, [] ++ listing none pagedStacks)) ∧
    ((nodegroupIamRole pagedWorld 3 "c" []).1 = .error stackNotFound ↔ firstMatch "c" pagedStacks = none) :=
  have serves : ServesChain pagedWorld [] none pagedStacks := ⟨rfl, rfl, rfl, rfl, rfl, rfl⟩
  ⟨serves, le_refl _, nodegroupIamRole_chain pagedWorld "c" pagedStacks 3 [] serves (le_refl _)⟩

/-! ## Stack names of distinct clusters -/

theorem startsWith_eq_false_iff (s pattern : String) :
    startsWith s pattern = false ↔ ¬ pattern.data <+: s.data := by
  rw [← startsWith_iff]; simp

theorem comparable_of_prefixes {N M x y s : List Char} (hN : N ++ x <+: s) (hM : M ++ y <+: s) :
    N <+: M ∨ M <+: N :=
  List.prefix_or_prefix_of_prefix ((List.prefix_append N x).trans hN)
    ((List.prefix_append M y).trans hM)

theorem eksctl_prefix_of_dash {N rest s : List Char} (hN : N ++ '-' :: rest <+: s)
    (hE : "eksctl".data <+: s) : "eksctl".data <+: N := by
  have dash : N ++ ['-'] <+: s := List.IsPrefix.trans ⟨rest, by simp⟩ hN
  have six : "eksctl".data.length = 6 := rfl
  by_cases long : 6 ≤ N.length
  · exact List.prefix_of_prefix_length_le hE ((List.prefix_append N _).trans hN) (by omega)
  · have short := List.prefix_of_prefix_length_le dash hE (by simp; omega)
    exact absurd (short.subset (List.mem_append_right N (List.mem_singleton_self '-'))) (by decide)

/-- A name that extends another by `r` and then goes on with `-node`, within
one text that starts with `-node`: `r` starts with `-node`, since no proper
prefix of `-node` is followed by `-node` inside `-node`. -/
theorem node_prefix_of_comparable {r x s : List Char} (nonempty : r ≠ [])
    (extended : r ++ ("-node".data ++ x) <+: s) (node : "-node".data <+: s) : "-node".data <+: r := by
  have five : "-node".data.length = 5 := rfl
  have rNode : r ++ "-node".data <+: s := (List.prefix_append_right_inj r).mpr (List.prefix_append _ x) |>.trans extended
  have rPre : r <+: s := (List.prefix_append _ _).trans rNode
  by_cases long : 5 ≤ r.length
  · exact List.prefix_of_prefix_length_le node rPre (by omega)
  · have short : r <+: "-node".data := List.prefix_of_prefix_length_le rPre node (by omega)
    have inside : "-node".data <+: r ++ "-node".data :=
      List.prefix_of_prefix_length_le node rNode (by simp)
    rw [List.prefix_iff_eq_take.mp short] at inside
    have never : ∀ k < 5, k ≠ 0 → ¬ "-node".data <+: "-node".data.take k ++ "-node".data := by decide
    exact absurd inside (never _ (by omega) fun zero => nonempty (List.length_eq_zero.mp zero))

/-- Of two names, the shorter a prefix of the longer, that both go on with
`-node` within one text: they are equal, or the longer extends the shorter by
a suffix starting with `-node`. -/
theorem eq_or_node_extends_of_shorter {n m x y s : List Char} (pre : n <+: m)
    (hn : n ++ ("-node".data ++ x) <+: s) (hm : m ++ ("-node".data ++ y) <+: s) :
    n = m ∨ n ++ "-node".data <+: m := by
  obtain ⟨r, rfl⟩ := pre
  obtain ⟨u, rfl⟩ := hn
  rcases eq_or_ne r [] with rfl | nonempty
  · exact .inl (List.append_nil n).symm
  rw [List.append_assoc, List.append_assoc] at hm
  exact .inr ((List.prefix_append_right_inj n).mpr (node_prefix_of_comparable nonempty
    ((List.prefix_append_right_inj n).mp hm) ((List.prefix_append _ x).trans (List.prefix_append _ u))))

theorem eq_or_node_extends {n m x y s : List Char} (hn : n ++ ("-node".data ++ x) <+: s)
    (hm : m ++ ("-node".data ++ y) <+: s) :
    n = m ∨ n ++ "-node".data <+: m ∨ m ++ "-node".data <+: n :=
  (comparable_of_prefixes hn hm).elim
    (fun pre => (eq_or_node_extends_of_shorter pre hn hm).imp_right .inl)
    fun pre => (eq_or_node_extends_of_shorter pre hm hn).elim (fun e => .inl e.symm) (.inr ∘ .inr)

end TestSys.Eks
