import ScopedWork.Strategy

/-!
# The conflict decorator retries exactly the retryable failures

A synchronous run of the conflict decorator over a base strategy (run once, or retry
transient failures as a policy says) is described by `DecoratedRun`, stated in the terms a
caller uses: after a failed invocation the operation is invoked again exactly when the
failure is transient and the current inner run has retries left, or when a concurrency
conflict leaves the inner run while the decorator's count is below two; a conflict at count
two becomes a retry-limit failure that reports three attempts, and any other outcome is
handed back unchanged.

The operation is an arbitrary sequence of outcomes: its `i`-th invocation gives
`outcome i`, and the state counts the invocations. `Strategy.run` follows `DecoratedRun`
and nothing else, and the number of invocations is at most `(3 - c₀) * (budget + 1)`.
-/

namespace ScopedWork

namespace Strategy

variable {α : Type}

/-- The operation whose `i`-th invocation gives `outcome i`; the state counts invocations. -/
def invoke (outcome : Nat → Except Fault α) : StateM Nat (Except Fault α) :=
  modifyGet fun i => (outcome i, i + 1)

/-- How many transient retries one run of a base strategy allows. -/
def transientBudget (o : Options) : Nat :=
  match o.transientRetry with
  | some p => p.maxRetries
  | none => 0

/-- A run of the conflict decorator over a base strategy allowing `budget` transient
retries per inner run. From invocation `i`, with decorator count `c` and `r` transient
retries made in the current inner run, the run makes invocations up to `k - 1` and ends
with `R` at decorator count `c'`. -/
inductive DecoratedRun (budget : Nat) (outcome : Nat → Except Fault α) :
    Nat → Nat → Nat → Nat → Except Fault α → Nat → Prop
  | success {i c r : Nat} {a : α} :
      outcome i = .ok a → DecoratedRun budget outcome i c r (i + 1) (.ok a) c
  | transientRetry {i c r k c' : Nat} {e : Fault} {R : Except Fault α} :
      outcome i = .error e → e.isTransient → r < budget →
      DecoratedRun budget outcome (i + 1) c (r + 1) k R c' →
      DecoratedRun budget outcome i c r k R c'
  | conflictRetry {i c r k c' : Nat} {e : Fault} {R : Except Fault α} :
      outcome i = .error e → e.isConflict → c < conflictRetries →
      DecoratedRun budget outcome (i + 1) (c + 1) 0 k R c' →
      DecoratedRun budget outcome i c r k R c'
  | limit {i c r : Nat} {e : Fault} :
      outcome i = .error e → e.isConflict → c = conflictRetries →
      DecoratedRun budget outcome i c r (i + 1) (.error (.retryLimit 3 e)) c
  | fail {i c r : Nat} {e : Fault} :
      outcome i = .error e → ¬(e.isTransient ∧ r < budget) → e.isConflict = false →
      DecoratedRun budget outcome i c r (i + 1) (.error e) c

/-- A run of a base strategy allowing `budget` transient retries: from invocation `i`, with
`r` retries made, the run makes invocations up to `j - 1` and ends with `E`. -/
inductive InnerRun (budget : Nat) (outcome : Nat → Except Fault α) :
    Nat → Nat → Nat → Except Fault α → Prop
  | ok {i r : Nat} {a : α} : outcome i = .ok a → InnerRun budget outcome i r (i + 1) (.ok a)
  | retry {i r j : Nat} {e : Fault} {E : Except Fault α} :
      outcome i = .error e → e.isTransient → r < budget →
      InnerRun budget outcome (i + 1) (r + 1) j E → InnerRun budget outcome i r j E
  | stop {i r : Nat} {e : Fault} :
      outcome i = .error e → ¬(e.isTransient ∧ r < budget) →
      InnerRun budget outcome i r (i + 1) (.error e)

/-- What the decorator at count `c` makes of an inner run that ended after invocation
`j - 1` with `E`: the rest of the decorated run ends after invocation `k - 1` with `R` at
count `c'`. -/
inductive AfterInner (budget : Nat) (outcome : Nat → Except Fault α) (c j : Nat) :
    Except Fault α → Nat → Except Fault α → Nat → Prop
  | ok {a : α} : AfterInner budget outcome c j (.ok a) j (.ok a) c
  | retry {e : Fault} {k c' : Nat} {R : Except Fault α} :
      e.isConflict → c < conflictRetries → DecoratedRun budget outcome j (c + 1) 0 k R c' →
      AfterInner budget outcome c j (.error e) k R c'
  | limit {e : Fault} : e.isConflict → c = conflictRetries →
      AfterInner budget outcome c j (.error e) j (.error (.retryLimit 3 e)) c
  | pass {e : Fault} : e.isConflict = false →
      AfterInner budget outcome c j (.error e) j (.error e) c

/-- An inner run followed by the decorator's decision is a decorated run. -/
theorem InnerRun.decorated {budget : Nat} {outcome : Nat → Except Fault α}
    {i r j c k c' : Nat} {E R : Except Fault α}
    (h : InnerRun budget outcome i r j E) (after : AfterInner budget outcome c j E k R c') :
    DecoratedRun budget outcome i c r k R c' := by
  induction h with
  | ok ho =>
    cases after
    exact .success ho
  | retry ho ht hr _ ih => exact .transientRetry ho ht hr (ih after)
  | stop ho hn =>
    cases after with
    | retry hc hlt rest => exact .conflictRetry ho hc hlt rest
    | limit hc heq => exact .limit ho hc heq
    | pass hc => exact .fail ho hn hc

namespace DecoratedRun

variable {budget : Nat} {outcome : Nat → Except Fault α}

theorem transient_not_conflict {e : Fault} (h : e.isTransient) : e.isConflict = false := by
  cases e <;> simp_all [Fault.isTransient, Fault.isConflict]

/-- The run is determined by the outcomes. -/
theorem deterministic {i c r k₁ k₂ c₁ c₂ : Nat} {R₁ R₂ : Except Fault α}
    (h₁ : DecoratedRun budget outcome i c r k₁ R₁ c₁)
    (h₂ : DecoratedRun budget outcome i c r k₂ R₂ c₂) : k₁ = k₂ ∧ R₁ = R₂ ∧ c₁ = c₂ := by
  induction h₁ generalizing k₂ R₂ c₂ with
  | success ho =>
    cases h₂ <;> simp_all
  | transientRetry ho ht hr _ ih =>
    cases h₂ with
    | transientRetry _ _ _ g => exact ih g
    | conflictRetry ho' hc | limit ho' hc =>
      rw [ho, Except.error.injEq] at ho'
      subst ho'
      rw [transient_not_conflict ht] at hc
      cases hc
    | fail ho' hn => simp_all
    | success ho' => simp_all
  | conflictRetry ho hc hlt _ ih =>
    cases h₂ with
    | conflictRetry _ _ _ g => exact ih g
    | transientRetry ho' ht =>
      rw [ho, Except.error.injEq] at ho'
      subst ho'
      rw [transient_not_conflict ht] at hc
      cases hc
    | limit _ _ heq => omega
    | fail ho' hn hc' => simp_all
    | success ho' => simp_all
  | limit ho hc heq =>
    cases h₂ with
    | conflictRetry _ _ hlt => omega
    | transientRetry ho' ht =>
      rw [ho, Except.error.injEq] at ho'
      subst ho'
      rw [transient_not_conflict ht] at hc
      cases hc
    | fail ho' hn hc' => simp_all
    | limit => simp_all
    | success ho' => simp_all
  | fail ho hn hc =>
    cases h₂ with
    | transientRetry ho' ht hr => simp_all
    | conflictRetry ho' hc' => simp_all
    | limit ho' hc' => simp_all
    | fail => simp_all
    | success ho' => simp_all

/-- Every inner run makes at most `budget + 1` invocations, and at most two inner runs
follow the current one. -/
theorem invocations_le {i c r k c' : Nat} {R : Except Fault α}
    (h : DecoratedRun budget outcome i c r k R c') (hc : c ≤ conflictRetries)
    (hr : r ≤ budget) : k + r ≤ i + (conflictRetries - c) * (budget + 1) + budget + 1 := by
  induction h with
  | success => omega
  | transientRetry _ _ hlt _ ih => have := ih hc hlt; omega
  | @conflictRetry i c r k c' e R _ _ hlt _ ih =>
    have hstep : (conflictRetries - c) * (budget + 1) =
        (conflictRetries - (c + 1)) * (budget + 1) + (budget + 1) := by
      rw [show conflictRetries - c = conflictRetries - (c + 1) + 1 by omega, Nat.succ_mul]
    have := ih hlt (Nat.zero_le _)
    omega
  | limit => omega
  | fail => omega

end DecoratedRun

@[simp] theorem invoke_run (outcome : Nat → Except Fault α) (i : Nat) :
    (invoke outcome).run i = (outcome i, i + 1) := rfl

theorem invoke_bind_run {β : Type} (outcome : Nat → Except Fault α)
    (f : Except Fault α → StateM Nat β) (i : Nat) :
    (invoke outcome >>= f).run i = (f (outcome i)).run (i + 1) := rfl

theorem retryTransient_zero_run (outcome : Nat → Except Fault α) (i : Nat) :
    (retryTransient none (invoke outcome) 0).run i = (outcome i, i + 1) := rfl

theorem retryTransient_succ_run (outcome : Nat → Except Fault α) (n i : Nat) :
    (retryTransient none (invoke outcome) (n + 1)).run i =
      match outcome i with
      | .ok a => (.ok a, i + 1)
      | .error e =>
        if e.isTransient then (retryTransient none (invoke outcome) n).run (i + 1)
        else (.error e, i + 1) := by
  simp only [retryTransient, cancelledNow, pure_bind, Bool.false_eq_true, if_false,
    invoke_bind_run]
  cases outcome i with
  | ok a => rfl
  | error e => cases ht : e.isTransient <;> simp only [ht, Bool.not_false, Bool.not_true] <;> rfl

/-- A base strategy retries transient failures up to its budget: running once is the
transient loop with no budget. -/
theorem run_ofOptions (o : Options) (outcome : Nat → Except Fault α) (i : Nat) :
    (run none (invoke outcome) (ofOptions o) []).run i =
      ((((retryTransient none (invoke outcome) (transientBudget o)).run i).1, []),
        ((retryTransient none (invoke outcome) (transientBudget o)).run i).2) := by
  unfold ofOptions transientBudget
  cases o.transientRetry with
  | none => rfl
  | some p => rfl

/-- The transient loop with `n` retries left runs as `InnerRun` says. -/
theorem retryTransient_inner {budget : Nat} (outcome : Nat → Except Fault α) :
    ∀ (n i r : Nat), r + n = budget →
      InnerRun budget outcome i r ((retryTransient none (invoke outcome) n).run i).2
        ((retryTransient none (invoke outcome) n).run i).1
  | 0, i, r, hb => by
    rw [retryTransient_zero_run]
    cases ho : outcome i with
    | ok a => exact .ok ho
    | error e => exact .stop ho (by omega)
  | n + 1, i, r, hb => by
    rw [retryTransient_succ_run]
    cases ho : outcome i with
    | ok a => exact .ok ho
    | error e =>
      dsimp only
      cases ht : e.isTransient with
      | true =>
        exact .retry ho ht (by omega) (retryTransient_inner outcome n (i + 1) (r + 1) (by omega))
      | false => exact .stop ho (by simp [ht])

section Conflicts

variable {β : Type} {runInner : List Nat → StateM Nat (Except Fault β × List Nat)}
  {inner inner' : List Nat} {i j : Nat}

theorem retryConflicts_run_ok {a : β} (h : (runInner inner).run i = ((.ok a, inner'), j))
    (n c : Nat) : (retryConflicts runInner n c inner).run i = ((.ok a, c :: inner'), j) := by
  cases n <;> rw [retryConflicts, StateT.run_bind, h] <;> rfl

theorem retryConflicts_run_pass {e : Fault} (h : (runInner inner).run i = ((.error e, inner'), j))
    (hc : e.isConflict = false) (n c : Nat) :
    (retryConflicts runInner n c inner).run i = ((.error e, c :: inner'), j) := by
  cases n <;> rw [retryConflicts, StateT.run_bind, h] <;>
    show (if e.isConflict = true then _ else _ : StateM Nat _).run j = _ <;> rw [hc] <;> rfl

theorem retryConflicts_run_retry {e : Fault}
    (h : (runInner inner).run i = ((.error e, inner'), j)) (hc : e.isConflict) (n c : Nat) :
    (retryConflicts runInner (n + 1) c inner).run i =
      (retryConflicts runInner n (c + 1) inner').run j := by
  rw [retryConflicts, StateT.run_bind, h]
  show (if e.isConflict = true then _ else _ : StateM Nat _).run j = _
  rw [hc]
  rfl

theorem retryConflicts_run_limit {e : Fault}
    (h : (runInner inner).run i = ((.error e, inner'), j)) (hc : e.isConflict) (c : Nat) :
    (retryConflicts runInner 0 c inner).run i =
      ((.error (.retryLimit (c + 1) e), c :: inner'), j) := by
  rw [retryConflicts, StateT.run_bind, h]
  show (if e.isConflict = true then _ else _ : StateM Nat _).run j = _
  rw [hc]
  rfl

end Conflicts

/-- The decorator's loop with `n` conflict retries left, over a base strategy, runs as
`DecoratedRun` says; its count ends as the only entry of the counts. -/
theorem retryConflicts_decorated (o : Options) (outcome : Nat → Except Fault α) :
    ∀ (n i c : Nat), c + n = conflictRetries →
      ∃ c', ((retryConflicts (run none (invoke outcome) (ofOptions o)) n c []).run i).1.2 = [c'] ∧
        DecoratedRun (transientBudget o) outcome i c 0
          ((retryConflicts (run none (invoke outcome) (ofOptions o)) n c []).run i).2
          ((retryConflicts (run none (invoke outcome) (ofOptions o)) n c []).run i).1.1 c' := by
  intro n i c hn
  have hrun := run_ofOptions o outcome i
  have hinner : InnerRun (transientBudget o) outcome i 0 _ _ :=
    retryTransient_inner outcome (transientBudget o) i 0 (by omega)
  generalize ((retryTransient none (invoke outcome) (transientBudget o)).run i).1 = E at hrun hinner
  generalize ((retryTransient none (invoke outcome) (transientBudget o)).run i).2 = j at hrun hinner
  cases E with
  | ok a =>
    rw [retryConflicts_run_ok hrun]
    exact ⟨c, rfl, hinner.decorated .ok⟩
  | error e =>
    cases hc : e.isConflict with
    | false =>
      rw [retryConflicts_run_pass hrun hc]
      exact ⟨c, rfl, hinner.decorated (.pass hc)⟩
    | true =>
      cases n with
      | zero =>
        rw [retryConflicts_run_limit hrun hc]
        have hlimit : c + 1 = 3 := by simp [conflictRetries] at hn; omega
        refine ⟨c, rfl, ?_⟩
        rw [hlimit]
        exact hinner.decorated (.limit hc (by omega))
      | succ n =>
        rw [retryConflicts_run_retry hrun hc]
        obtain ⟨c', hcounts, rest⟩ := retryConflicts_decorated o outcome n j (c + 1) (by omega)
        exact ⟨c', hcounts, hinner.decorated (.retry hc (by omega) rest)⟩

/-- The conflict decorator over any base strategy (run once, retry transient failures, or
the strategy a set of options selects), started at any retry count up to two, invokes the
operation again exactly after a retryable failure, ends with the last outcome (a conflict
at count two becoming a retry-limit failure of three attempts), and invokes the operation
at most `(3 - c₀) * (budget + 1)` times. -/
theorem retryOnConflict_retries_exactly_retryable (o : Options) (c₀ : Nat)
    (hc₀ : c₀ ≤ conflictRetries) (outcome : Nat → Except Fault α) :
    ∃ k R c', (run none (invoke outcome) (onConflict (ofOptions o)) [c₀]).run 0 = ((R, [c']), k) ∧
      DecoratedRun (transientBudget o) outcome 0 c₀ 0 k R c' ∧
      (∀ k' R' c'', DecoratedRun (transientBudget o) outcome 0 c₀ 0 k' R' c'' →
        k' = k ∧ R' = R ∧ c'' = c') ∧
      k ≤ (3 - c₀) * (transientBudget o + 1) := by
  obtain ⟨c', hcounts, hrun⟩ :=
    retryConflicts_decorated o outcome (conflictRetries - c₀) 0 c₀ (by omega)
  have hbound := hrun.invocations_le hc₀ (Nat.zero_le _)
  have hthree : (3 - c₀) * (transientBudget o + 1) =
      (conflictRetries - c₀) * (transientBudget o + 1) + (transientBudget o + 1) := by
    rw [show 3 - c₀ = conflictRetries - c₀ + 1 by simp [conflictRetries] at hc₀ ⊢; omega,
      Nat.succ_mul]
  refine ⟨_, _, c', ?_, hrun, fun k' R' c'' h => (h.deterministic hrun), by omega⟩
  show (retryConflicts (run none (invoke outcome) (ofOptions o)) (conflictRetries - c₀) c₀ []).run 0 = _
  rw [← hcounts]
  rfl

/-- Endless conflicts under a decorator over running once: the count starts at zero. -/
theorem endless_conflicts_run_decorated : 0 ≤ conflictRetries ∧
    ∃ k R c', (run none (invoke fun _ => (.error (.conflict "row changed") : Except Fault Nat))
        (onConflict (ofOptions {})) [0]).run 0 = ((R, [c']), k) ∧
      DecoratedRun (transientBudget {}) (fun _ => .error (.conflict "row changed")) 0 0 0 k R c' ∧
      (∀ k' R' c'', DecoratedRun (transientBudget {}) (fun _ => .error (.conflict "row changed"))
        0 0 0 k' R' c'' → k' = k ∧ R' = R ∧ c'' = c') ∧
      k ≤ (3 - 0) * (transientBudget {} + 1) :=
  ⟨Nat.zero_le _, retryOnConflict_retries_exactly_retryable {} 0 (Nat.zero_le _) _⟩

example : (run none (invoke fun _ => (.error (.conflict "row changed") : Except Fault Nat))
    (onConflict once) [0]).run 0 =
      ((.error (.retryLimit 3 (.conflict "row changed")), [2]), 3) := rfl

end Strategy

end ScopedWork
