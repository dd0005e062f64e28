/-! # Runs against injected collaborators

An agent reaches the outside world only through calls to collaborators whose
answers it cannot predict: the info client, the test runner, the AWS APIs, the
processes it spawns.  `Run σ ε α` threads the log of those calls.  A
collaborator answers from the log so far, so a behaviour that depends on
earlier calls is one function of the log, and a statement over every such
function covers every behaviour.  A run ends with a value, with Rust's `Err`,
or halts: a panic, or a loop the source does not bound that outlived its fuel.

`Logs P x` says that every call `x` appends to the log satisfies `P`; it is
built along a program by `logs_bind` and `logs_call`.  `Fails P x` says that
every error `x` can end with satisfies `P`, and is built by `fails_bind`.
`Does P Q x` is both, built along a program by `does_bind`. -/
set_option autoImplicit false

namespace TestSys

/-- Why a run stopped without returning. -/
inductive Halt where
  | panic
  | outOfFuel
  deriving DecidableEq

/-- How a run ends. -/
inductive Outcome (ε α : Type) where
  | ok (value : α)
  | error (e : ε)
  | halt (reason : Halt)
  deriving DecidableEq

/-- A pure `Result` as the outcome of a run. -/
def Outcome.ofExcept {ε α : Type} : Except ε α → Outcome ε α
  | .ok a => .ok a
  | .error e => .error e

def Run (σ ε α : Type) : Type := List σ → Outcome ε α × List σ

namespace Run

variable {σ ε α β : Type}

protected def pure (a : α) : Run σ ε α := fun log => (.ok a, log)

protected def bind (x : Run σ ε α) (f : α → Run σ ε β) : Run σ ε β := fun log =>
  match x log with
  | (.ok a, log) => f a log
  | (.error e, log) => (.error e, log)
  | (.halt h, log) => (.halt h, log)

instance : Monad (Run σ ε) where
  pure := Run.pure
  bind := Run.bind

/-- `return Err(e)`. -/
def fail (e : ε) : Run σ ε α := fun log => (.error e, log)

def halt (h : Halt) : Run σ ε α := fun log => (.halt h, log)

/-- A call to a collaborator: it answers from the log so far, and the call is
logged with its answer. -/
def call {ρ : Type} (answer : List σ → ρ) (record : ρ → σ) : Run σ ε ρ := fun log =>
  (.ok (answer log), log ++ [record (answer log)])

/-- Rust's `?` on a `Result` whose error converts by `f`. -/
def lift {ε' : Type} (f : ε' → ε) : Except ε' α → Run σ ε α
  | .ok a => pure a
  | .error e => fail (f e)

/-- Matching on a run's `Err`: `tryCatch x handler` hands the error of `x` to
`handler`, with the calls `x` made kept in the log. -/
instance : MonadExceptOf ε (Run σ ε) where
  throw := fail
  tryCatch x handler := fun log =>
    match x log with
    | (.error e, log) => handler e log
    | result => result

/-- A pure `Result` used with `?` inside a run. -/
instance : MonadLift (Except ε) (Run σ ε) := ⟨lift id⟩

/-- Rust's `slice[i]`: an index out of bounds panics. -/
def index (xs : List α) (i : Nat) : Run σ ε α :=
  match xs[i]? with
  | some x => pure x
  | none => halt .panic

/-- Rust's `slice[i] = x`: an index out of bounds panics. -/
def setIndex (xs : List α) (i : Nat) (x : α) : Run σ ε (List α) :=
  if i < xs.length then pure (xs.set i x) else halt .panic

@[simp] theorem pure_apply (a : α) (log : List σ) :
    (pure a : Run σ ε α) log = (.ok a, log) := rfl

theorem bind_apply (x : Run σ ε α) (f : α → Run σ ε β) (log : List σ) :
    (x >>= f) log = match x log with
      | (.ok a, log) => f a log
      | (.error e, log) => (.error e, log)
      | (.halt h, log) => (.halt h, log) := rfl

@[simp] theorem fail_apply (e : ε) (log : List σ) :
    (fail e : Run σ ε α) log = (.error e, log) := rfl

@[simp] theorem halt_apply (h : Halt) (log : List σ) :
    (halt h : Run σ ε α) log = (.halt h, log) := rfl

@[simp] theorem call_apply {ρ : Type} (answer : List σ → ρ) (record : ρ → σ) (log : List σ) :
    (call answer record : Run σ ε ρ) log = (.ok (answer log), log ++ [record (answer log)]) := rfl

@[simp] theorem tryCatch_apply (x : Run σ ε α) (handler : ε → Run σ ε α) (log : List σ) :
    (tryCatch x handler : Run σ ε α) log =
      match x log with
      | (.error e, log) => handler e log
      | result => result := rfl

@[simp] theorem fail_bind (e : ε) (f : α → Run σ ε β) : (fail e >>= f) = fail e := rfl

@[simp] theorem halt_bind (h : Halt) (f : α → Run σ ε β) : (halt h >>= f) = halt h := rfl

@[simp] theorem map_fail (f : α → β) (e : ε) : (f <$> (fail e : Run σ ε α)) = fail e := rfl

@[simp] theorem map_halt (f : α → β) (h : Halt) : (f <$> (halt h : Run σ ε α)) = halt h := rfl

instance : LawfulMonad (Run σ ε) := LawfulMonad.mk' (Run σ ε)
  (fun x => by
    funext log
    show Run.bind x (fun a => Run.pure (id a)) log = x log
    simp only [Run.bind, Run.pure, id]
    rcases x log with ⟨_ | _ | _, _⟩ <;> rfl)
  (fun _ _ => rfl)
  (fun x f g => by
    funext log
    simp only [bind_apply]
    rcases x log with ⟨_ | _ | _, _⟩ <;> rfl)

@[simp] theorem call_bind_apply {ρ : Type} (answer : List σ → ρ) (record : ρ → σ)
    (f : ρ → Run σ ε β) (log : List σ) :
    (call answer record >>= f) log = f (answer log) (log ++ [record (answer log)]) := rfl

@[simp] theorem lift_ok {ε' : Type} (f : ε' → ε) (a : α) :
    (lift f (.ok a) : Run σ ε α) = pure a := rfl

@[simp] theorem lift_error {ε' : Type} (f : ε' → ε) (e : ε') :
    (lift f (.error e) : Run σ ε α) = fail (f e) := rfl

@[simp] theorem monadLift_ok (a : α) :
    (MonadLiftT.monadLift (Except.ok a : Except ε α) : Run σ ε α) = pure a := rfl

@[simp] theorem monadLift_error (e : ε) :
    (MonadLiftT.monadLift (Except.error e : Except ε α) : Run σ ε α) = fail e := rfl

@[simp] theorem liftM_ok_apply (a : α) (log : List σ) :
    (liftM (Except.ok a : Except ε α) : Run σ ε α) log = (.ok a, log) := rfl

@[simp] theorem liftM_error_apply (e : ε) (log : List σ) :
    (liftM (Except.error e : Except ε α) : Run σ ε α) log = (.error e, log) := rfl

/-- A bind that returned: its first part returned, and the rest ran on from
there. -/
theorem bind_eq_ok {x : Run σ ε α} {f : α → Run σ ε β} {log after : List σ} {b : β}
    (h : (x >>= f) log = (.ok b, after)) : ∃ a mid, x log = (.ok a, mid) ∧ f a mid = (.ok b, after) := by
  rw [bind_apply] at h
  rcases hx : x log with ⟨_ | _ | _, mid⟩ <;> rw [hx] at h
  · exact ⟨_, _, rfl, h⟩
  · cases h
  · cases h

/-- A bind whose first part returned `a` runs on with `a` from that part's log:
this evaluates a long run one part at a time. -/
theorem bind_apply_of_ok {x : Run σ ε α} {f : α → Run σ ε β} {log : List σ} {a : α}
    (h : (x log).1 = .ok a) : (x >>= f) log = f a (x log).2 := by
  rw [bind_apply]
  rcases hx : x log with ⟨_ | _ | _, mid⟩ <;> rw [hx] at h <;> cases h
  rfl

/-! ## What a run appends to the log -/

/-- Every call `x` appends to the log satisfies `P`, and `x` only appends. -/
def Logs (P : σ → Prop) (x : Run σ ε α) : Prop :=
  ∀ log, ∃ new, (x log).2 = log ++ new ∧ ∀ e ∈ new, P e

variable {P : σ → Prop}

theorem logs_pure (a : α) : Logs P (pure a : Run σ ε α) :=
  fun log => ⟨[], by simp⟩

theorem logs_fail (e : ε) : Logs P (fail e : Run σ ε α) :=
  fun log => ⟨[], by simp⟩

theorem logs_halt (h : Halt) : Logs P (halt h : Run σ ε α) :=
  fun log => ⟨[], by simp⟩

theorem logs_call {ρ : Type} {answer : List σ → ρ} {record : ρ → σ} (h : ∀ r, P (record r)) :
    Logs P (call answer record : Run σ ε ρ) :=
  fun log => ⟨[record (answer log)], by simp [h]⟩

theorem logs_lift {ε' : Type} (f : ε' → ε) (r : Except ε' α) : Logs P (lift f r : Run σ ε α) := by
  cases r
  · exact logs_fail _
  · exact logs_pure _

theorem logs_monadLift (r : Except ε α) : Logs P (MonadLiftT.monadLift r : Run σ ε α) :=
  logs_lift id r

theorem logs_bind {x : Run σ ε α} {f : α → Run σ ε β} (hx : Logs P x) (hf : ∀ a, Logs P (f a)) :
    Logs P (x >>= f) := by
  intro log
  obtain ⟨new, hlog, hnew⟩ := hx log
  rw [bind_apply]
  rcases hrun : x log with ⟨outcome, after⟩
  rw [hrun] at hlog
  subst hlog
  cases outcome with
  | ok a =>
    obtain ⟨more, hmore, hall⟩ := hf a (log ++ new)
    exact ⟨new ++ more, by simpa using hmore,
      fun e he => (List.mem_append.mp he).elim (hnew e) (hall e)⟩
  | error e => exact ⟨new, rfl, hnew⟩
  | halt h => exact ⟨new, rfl, hnew⟩

/-- What follows from `x >>= k` when all that is known of `x` is `R` of what it
appends: each of the three ways `x` can end. -/
theorem bind_apply_of_appends {R : List σ → Prop} {T : Outcome ε β × List σ → Prop}
    {x : Run σ ε α} {k : α → Run σ ε β} {log : List σ}
    (hx : ∃ new, (x log).2 = log ++ new ∧ R new)
    (hok : ∀ a new, R new → T (k a (log ++ new)))
    (herror : ∀ e new, R new → T (.error e, log ++ new))
    (hhalt : ∀ h new, R new → T (.halt h, log ++ new)) : T ((x >>= k) log) := by
  obtain ⟨new, hlog, hnew⟩ := hx
  rw [bind_apply]
  rcases hrun : x log with ⟨_ | e | h, after⟩ <;> rw [hrun] at hlog <;> subst hlog
  · exact hok _ _ hnew
  · exact herror _ _ hnew
  · exact hhalt _ _ hnew

theorem Logs.mono {Q : σ → Prop} {x : Run σ ε α} (hx : Logs P x) (h : ∀ e, P e → Q e) :
    Logs Q x := fun log =>
  let ⟨new, hlog, hnew⟩ := hx log
  ⟨new, hlog, fun e he => h e (hnew e he)⟩

/-- A call in the log after `x` was there before or satisfies `P`. -/
theorem Logs.mem {x : Run σ ε α} (hx : Logs P x) {log : List σ} {e : σ} (h : e ∈ (x log).2) :
    e ∈ log ∨ P e := by
  obtain ⟨new, hlog, hnew⟩ := hx log
  rw [hlog, List.mem_append] at h
  exact h.imp_right (hnew e)

/-- A call in the log after `x >>= f`, where every `f a` logs only calls that
satisfy `P`, is in the log after `x` or satisfies `P`. -/
theorem mem_bind_of_logs {x : Run σ ε α} {f : α → Run σ ε β} (hf : ∀ a, Logs P (f a)) {log : List σ}
    {e : σ} (h : e ∈ ((x >>= f) log).2) : e ∈ (x log).2 ∨ P e := by
  rw [bind_apply] at h
  rcases hx : x log with ⟨_ | _ | _, mid⟩ <;> rw [hx] at h
  · exact (hf _).mem h
  all_goals exact .inl h

/-- `x` run after a call `c` that satisfies `P`. -/
theorem Logs.after {x : Run σ ε α} (hx : Logs P x) (log : List σ) {c : σ} (hc : P c) :
    ∃ new, (x (log ++ [c])).2 = log ++ new ∧ ∀ e ∈ new, P e :=
  let ⟨new, hlog, hnew⟩ := hx (log ++ [c])
  ⟨c :: new, by simp [hlog], by simpa [hc] using hnew⟩

/-- What `x >>= f` appends from `log`, when what `f` appends may depend on what
`x` returned. -/
theorem appends_bind {x : Run σ ε α} {f : α → Run σ ε β} {log : List σ}
    (hx : ∃ new, (x log).2 = log ++ new ∧ ∀ e ∈ new, P e)
    (hf : ∀ a mid, x log = (.ok a, mid) → ∃ new, (f a mid).2 = mid ++ new ∧ ∀ e ∈ new, P e) :
    ∃ new, ((x >>= f) log).2 = log ++ new ∧ ∀ e ∈ new, P e := by
  obtain ⟨new, hlog, hnew⟩ := hx
  rw [bind_apply]
  rcases hrun : x log with ⟨_ | _ | _, after⟩ <;> rw [hrun] at hlog <;> subst hlog
  · obtain ⟨more, hmore, hall⟩ := hf _ _ hrun
    exact ⟨new ++ more, by simpa using hmore, fun e he => (List.mem_append.mp he).elim (hnew e) (hall e)⟩
  all_goals exact ⟨new, rfl, hnew⟩

/-! ## How a run fails -/

/-- Every error `x` ends with, from any log, satisfies `P`. -/
def Fails (P : ε → Prop) (x : Run σ ε α) : Prop :=
  ∀ log e, (x log).1 = .error e → P e

section Fails

variable {P : ε → Prop}

theorem fails_pure (a : α) : Fails P (pure a : Run σ ε α) :=
  fun _ _ h => nomatch h

theorem fails_fail {e : ε} (h : P e) : Fails P (fail e : Run σ ε α) :=
  fun _ _ failed => Outcome.error.inj failed ▸ h

theorem fails_halt (h : Halt) : Fails P (halt h : Run σ ε α) :=
  fun _ _ h => nomatch h

theorem fails_call {ρ : Type} {answer : List σ → ρ} {record : ρ → σ} :
    Fails P (call answer record : Run σ ε ρ) :=
  fun _ _ h => nomatch h

theorem fails_monadLift {r : Except ε α} (h : ∀ e, r = .error e → P e) :
    Fails P (MonadLiftT.monadLift r : Run σ ε α) := by
  cases r with
  | error e => exact fails_fail (h e rfl)
  | ok a => exact fails_pure a

theorem fails_bind {x : Run σ ε α} {f : α → Run σ ε β} (hx : Fails P x) (hf : ∀ a, Fails P (f a)) :
    Fails P (x >>= f) := by
  intro log e h
  rw [bind_apply] at h
  rcases hrun : x log with ⟨_ | e' | _, mid⟩ <;> rw [hrun] at h
  · exact hf _ mid e h
  · cases h
    exact hx log e (by rw [hrun])
  · cases h

theorem Fails.mono {Q : ε → Prop} {x : Run σ ε α} (hx : Fails P x) (h : ∀ e, P e → Q e) : Fails Q x :=
  fun log e failed => h e (hx log e failed)

end Fails

/-! ## What a run can do -/

/-- What `x` can do: every call it appends satisfies `P`, and every error it
ends with satisfies `Q`.  A function's one such lemma says what its callers
need of it, by `Does.mono`. -/
structure Does (P : σ → Prop) (Q : ε → Prop) (x : Run σ ε α) : Prop where
  logs : Logs P x
  fails : Fails Q x

section Does

variable {P P' : σ → Prop} {Q Q' : ε → Prop}

theorem does_pure (a : α) : Does P Q (pure a : Run σ ε α) :=
  ⟨logs_pure a, fails_pure a⟩

theorem does_fail {e : ε} (h : Q e) : Does P Q (fail e : Run σ ε α) :=
  ⟨logs_fail e, fails_fail h⟩

theorem does_halt (h : Halt) : Does P Q (halt h : Run σ ε α) :=
  ⟨logs_halt h, fails_halt h⟩

theorem does_call {ρ : Type} {answer : List σ → ρ} {record : ρ → σ} (h : ∀ r, P (record r)) :
    Does P Q (call answer record : Run σ ε ρ) :=
  ⟨logs_call h, fails_call⟩

theorem does_monadLift {r : Except ε α} (h : ∀ e, r = .error e → Q e) :
    Does P Q (MonadLiftT.monadLift r : Run σ ε α) :=
  ⟨logs_monadLift r, fails_monadLift h⟩

theorem does_bind {x : Run σ ε α} {f : α → Run σ ε β} (hx : Does P Q x) (hf : ∀ a, Does P Q (f a)) :
    Does P Q (x >>= f) :=
  ⟨logs_bind hx.logs fun a => (hf a).logs, fails_bind hx.fails fun a => (hf a).fails⟩

theorem Does.mono {x : Run σ ε α} (hx : Does P Q x) (hP : ∀ c, P c → P' c) (hQ : ∀ e, Q e → Q' e) :
    Does P' Q' x :=
  ⟨hx.logs.mono hP, hx.fails.mono hQ⟩

end Does

end Run

end TestSys
