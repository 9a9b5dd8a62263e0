import ScopedWork.Proofs.Retry

/-!
# Asynchronous strategies and cancellation

An asynchronous run of a strategy looks at its cancellation token before every attempt and
after every transient failure it would retry, and waits its backoff against the token. With
a token that is never cancelled this is the synchronous run itself: the two are equal as
programs, in any monad and for any operation.

With a token that is cancelled while the `k`-th invocation runs (or before the run, for
`k = 0`), the asynchronous run is the synchronous run cut after the `k`-th invocation: if
the synchronous run makes no more invocations, both end alike; otherwise the asynchronous
run makes exactly `k` invocations and ends cancelled (`CutAt`). A failure that no layer
retries, a cancellation among them, ends every run at once. And the conflict decorator's
count grows by exactly the conflicts it absorbed: every conflict among the attempts, except
the one it gave up on.
-/

namespace ScopedWork

namespace Strategy

variable {α : Type}

/-! ## A token that is never cancelled -/

section Never

variable {m : Type → Type} [Monad m]

/-- A token that is never cancelled: looking at it answers no, and waiting on it does
nothing. -/
def neverCancelled : Waiting m where
  cancelled := pure false
  pause := pure ()

@[simp] theorem neverCancelled_cancelled : (neverCancelled : Waiting m).cancelled = pure false := rfl
@[simp] theorem neverCancelled_pause : (neverCancelled : Waiting m).pause = pure () := rfl

theorem retryTransient_neverCancelled [LawfulMonad m] (attempt : m (Except Fault α)) :
    ∀ budget, retryTransient (some neverCancelled) attempt budget = retryTransient none attempt budget
  | 0 => by simp [retryTransient, cancelledNow]
  | budget + 1 => by
    simp only [retryTransient, cancelledNow, neverCancelled_cancelled, neverCancelled_pause, pure_bind,
      Bool.false_eq_true, if_false, retryTransient_neverCancelled attempt budget]

theorem run_neverCancelled [LawfulMonad m] (attempt : m (Except Fault α)) :
    ∀ (strategy : Strategy) (counts : List Nat),
      run (some neverCancelled) attempt strategy counts = run none attempt strategy counts
  | once, counts => by simp [run, cancelledNow]
  | transient p, counts => by simp only [run, retryTransient_neverCancelled]
  | onConflict inner, counts => by
    simp only [run]
    rw [funext (run_neverCancelled attempt inner)]

end Never

/-! ## How many invocations a run makes -/

section Invocations

variable (outcome : Nat → Except Fault α)

theorem retryTransient_invocations : ∀ budget i,
    i < ((retryTransient none (invoke outcome) budget).run i).2
  | 0, i => by rw [retryTransient_zero_run]; exact Nat.lt_succ_self i
  | budget + 1, i => by
    rw [retryTransient_succ_run]
    cases outcome i with
    | ok a => exact Nat.lt_succ_self i
    | error e =>
      dsimp only
      split
      · exact Nat.lt_trans (Nat.lt_succ_self i) (retryTransient_invocations budget (i + 1))
      · exact Nat.lt_succ_self i

theorem retryConflicts_invocations {β : Type} {runInner : List Nat → StateM Nat (Except Fault β × List Nat)}
    (h : ∀ inner i, i < ((runInner inner).run i).2) :
    ∀ budget retries inner i, i < ((retryConflicts runInner budget retries inner).run i).2 := by
  intro budget
  induction budget with
  | zero =>
    intro retries inner i
    rw [retryConflicts, StateT.run_bind]
    rcases hr : (runInner inner).run i with ⟨⟨r, inner'⟩, j⟩
    have hij : i < j := by simpa [hr] using h inner i
    cases r with
    | ok a => exact hij
    | error e => show i < ((if e.isConflict = true then _ else _ : StateM Nat _).run j).2; split <;> exact hij
  | succ budget ih =>
    intro retries inner i
    rw [retryConflicts, StateT.run_bind]
    rcases hr : (runInner inner).run i with ⟨⟨r, inner'⟩, j⟩
    have hij : i < j := by simpa [hr] using h inner i
    cases r with
    | ok a => exact hij
    | error e =>
      show i < ((if e.isConflict = true then _ else _ : StateM Nat _).run j).2
      split
      · exact Nat.lt_trans hij (ih (retries + 1) inner' j)
      · exact hij

/-- Every run invokes the operation at least once. -/
theorem run_invocations : ∀ (strategy : Strategy) (counts : List Nat) (i : Nat),
    i < ((run none (invoke outcome) strategy counts).run i).2
  | once, _, i => Nat.lt_succ_self i
  | transient p, _, i => retryTransient_invocations outcome p.maxRetries i
  | onConflict inner, _, i =>
    retryConflicts_invocations (run_invocations inner) _ _ _ i

end Invocations

/-! ## A token cancelled by the `k`-th invocation -/

section Cancelled

/-- A token cancelled while the `k`-th invocation runs, or before the run for `k = 0`: it
reads as cancelled once `k` invocations were made. Waiting on it lets nothing else run. -/
def cancelledFrom (k : Nat) : Waiting (StateM Nat) where
  cancelled := do return decide (k ≤ (← get))
  pause := pure ()

/-- How a run with the token cancelled at `k` ends, from invocation `i`, next to the same
run without a token, which ended with `sync`: as that run, if it made no invocation past the
`k`-th; otherwise cancelled, with exactly the invocations up to the `k`-th made. -/
def CutAt {β : Type} (cancelled : β → Prop) (k i : Nat) (sync async : β × Nat) : Prop :=
  (sync.2 ≤ k ∧ async = sync) ∨ (k < sync.2 ∧ cancelled async.1 ∧ async.2 = max i k)

variable (outcome : Nat → Except Fault α) (k : Nat)

theorem cancelledFrom_bind_run {β : Type} (f : Bool → StateM Nat β) (i : Nat) :
    ((cancelledFrom k).cancelled >>= f).run i = (f (decide (k ≤ i))).run i := rfl

@[simp] theorem cancelledFrom_pause : (cancelledFrom k).pause = pure () := rfl

theorem retryTransient_cancelledFrom_zero_run (i : Nat) :
    (retryTransient (some (cancelledFrom k)) (invoke outcome) 0).run i =
      if k ≤ i then (.error .cancelled, i) else (outcome i, i + 1) := by
  rw [retryTransient, cancelledNow, cancelledFrom_bind_run]
  by_cases hk : k ≤ i
  · simp only [hk, decide_true, if_pos]
    rfl
  · simp only [hk, decide_false, Bool.false_eq_true, if_false]
    rfl

theorem retryTransient_cancelledFrom_succ_run (budget i : Nat) :
    (retryTransient (some (cancelledFrom k)) (invoke outcome) (budget + 1)).run i =
      if k ≤ i then (.error .cancelled, i) else
      match outcome i with
      | .ok a => (.ok a, i + 1)
      | .error e =>
        if e.isTransient then
          if k ≤ i + 1 then (.error .cancelled, i + 1)
          else (retryTransient (some (cancelledFrom k)) (invoke outcome) budget).run (i + 1)
        else (.error e, i + 1) := by
  rw [retryTransient, cancelledNow, cancelledFrom_bind_run]
  by_cases hk : k ≤ i
  · simp only [hk, decide_true, if_pos]
    rfl
  · simp only [hk, decide_false, Bool.false_eq_true, if_false, invoke_bind_run]
    cases outcome i with
    | ok a => rfl
    | error e =>
      dsimp only
      cases ht : e.isTransient
      · simp only [Bool.not_false, if_true, Bool.false_eq_true, if_false]
        rfl
      · simp only [Bool.not_true, Bool.false_eq_true, if_false, if_true]
        rw [cancelledFrom_bind_run]
        by_cases hk' : k ≤ i + 1
        · -- cancelled during the attempt: the backoff ends the run
          simp only [hk', decide_true, if_true]
          rfl
        · simp only [hk', decide_false, Bool.false_eq_true, if_false, cancelledFrom_pause, pure_bind]

/-- Retrying transient failures with the token cancelled at `k` is the run without a token,
cut after the `k`-th invocation. -/
theorem retryTransient_cutAt : ∀ budget i,
    CutAt (· = .error .cancelled) k i ((retryTransient none (invoke outcome) budget).run i)
      ((retryTransient (some (cancelledFrom k)) (invoke outcome) budget).run i)
  | 0, i => by
    rw [retryTransient_zero_run, retryTransient_cancelledFrom_zero_run]
    by_cases hk : k ≤ i
    · -- cancelled before the only attempt
      rw [if_pos hk]
      exact .inr ⟨by dsimp only; omega, rfl, by dsimp only; omega⟩
    · rw [if_neg hk]
      exact .inl ⟨by dsimp only; omega, rfl⟩
  | budget + 1, i => by
    have hmore := retryTransient_invocations outcome (budget + 1) i
    rw [retryTransient_cancelledFrom_succ_run]
    by_cases hk : k ≤ i
    · rw [if_pos hk]
      exact .inr ⟨Nat.lt_of_le_of_lt hk hmore, rfl, by dsimp only; omega⟩
    · rw [if_neg hk, retryTransient_succ_run]
      cases ho : outcome i with
      | ok a => exact .inl ⟨by dsimp only; omega, rfl⟩
      | error e =>
        dsimp only
        cases ht : e.isTransient
        · exact .inl ⟨by simp only [Bool.false_eq_true, if_false]; omega, rfl⟩
        · have hrest := retryTransient_invocations outcome budget (i + 1)
          simp only [if_true]
          by_cases hk' : k ≤ i + 1
          · -- cancelled while this attempt ran, while the run without a token goes on
            rw [if_pos hk']
            exact .inr ⟨by omega, rfl, by dsimp only; omega⟩
          · rw [if_neg hk']
            rcases retryTransient_cutAt budget (i + 1) with ⟨hle, heq⟩ | ⟨hlt, hc, hat⟩
            · exact .inl ⟨hle, heq⟩
            · exact .inr ⟨hlt, hc, by omega⟩

section Conflicts

variable {β : Type} {runInner runInner' : List Nat → StateM Nat (Except Fault β × List Nat)}

/-- The decorator makes at least the invocations of its first inner run. -/
theorem retryConflicts_invocations_ge (hinc : ∀ inner i, i < ((runInner inner).run i).2)
    {inner inner' : List Nat} {i j : Nat} {r : Except Fault β}
    (hr : (runInner inner).run i = ((r, inner'), j)) (budget retries : Nat) :
    j ≤ ((retryConflicts runInner budget retries inner).run i).2 := by
  cases r with
  | ok a => exact Nat.le_of_eq (by rw [retryConflicts_run_ok hr])
  | error e =>
    cases hc : e.isConflict
    · exact Nat.le_of_eq (by rw [retryConflicts_run_pass hr hc])
    · cases budget with
      | zero => exact Nat.le_of_eq (by rw [retryConflicts_run_limit hr hc])
      | succ budget =>
        rw [retryConflicts_run_retry hr hc]
        exact Nat.le_of_lt (retryConflicts_invocations hinc budget (retries + 1) inner' j)

/-- The decorator over inner runs that are cut after the `k`-th invocation is cut there too:
an inner run cancelled by the token ends the decorator's run, since a cancellation is no
conflict. -/
theorem retryConflicts_cutAt (hinc : ∀ inner i, i < ((runInner inner).run i).2)
    (hcut : ∀ inner i, CutAt (fun r => r.1 = .error .cancelled) k i ((runInner inner).run i)
      ((runInner' inner).run i)) :
    ∀ budget retries inner i, CutAt (fun r => r.1 = .error .cancelled) k i
      ((retryConflicts runInner budget retries inner).run i)
      ((retryConflicts runInner' budget retries inner).run i) := by
  intro budget
  induction budget with
  | zero =>
    intro retries inner i
    rcases hr : (runInner inner).run i with ⟨⟨r, inner'⟩, j⟩
    rcases hcut inner i with ⟨hle, heq⟩ | ⟨hlt, hc, hat⟩
    · -- the inner runs end alike, and so does what the decorator makes of them
      rw [hr] at hle heq
      cases r with
      | ok a => exact .inl ⟨by rw [retryConflicts_run_ok hr]; exact hle,
          by rw [retryConflicts_run_ok hr, retryConflicts_run_ok heq]⟩
      | error e =>
        cases hce : e.isConflict
        · exact .inl ⟨by rw [retryConflicts_run_pass hr hce]; exact hle,
            by rw [retryConflicts_run_pass hr hce, retryConflicts_run_pass heq hce]⟩
        · exact .inl ⟨by rw [retryConflicts_run_limit hr hce]; exact hle,
            by rw [retryConflicts_run_limit hr hce, retryConflicts_run_limit heq hce]⟩
    · -- the inner run with the token was cancelled, which ends the decorator's run
      rcases hr' : (runInner' inner).run i with ⟨⟨r', inner''⟩, j'⟩
      rw [hr'] at hc hat
      rw [hr] at hlt
      dsimp only at hc hat hlt
      subst hc
      rw [retryConflicts_run_pass hr' rfl]
      exact .inr ⟨Nat.lt_of_lt_of_le hlt (retryConflicts_invocations_ge hinc hr 0 retries), rfl, hat⟩
  | succ budget ih =>
    intro retries inner i
    rcases hr : (runInner inner).run i with ⟨⟨r, inner'⟩, j⟩
    have hij : i < j := by simpa [hr] using hinc inner i
    rcases hcut inner i with ⟨hle, heq⟩ | ⟨hlt, hc, hat⟩
    · rw [hr] at hle heq
      cases r with
      | ok a => exact .inl ⟨by rw [retryConflicts_run_ok hr]; exact hle,
          by rw [retryConflicts_run_ok hr, retryConflicts_run_ok heq]⟩
      | error e =>
        cases hce : e.isConflict
        · exact .inl ⟨by rw [retryConflicts_run_pass hr hce]; exact hle,
            by rw [retryConflicts_run_pass hr hce, retryConflicts_run_pass heq hce]⟩
        · -- an absorbed conflict: both go on from the same invocation with the same count
          rw [retryConflicts_run_retry hr hce, retryConflicts_run_retry heq hce]
          rcases ih (retries + 1) inner' j with ⟨hle', heq'⟩ | ⟨hlt', hc', hat'⟩
          · exact .inl ⟨hle', heq'⟩
          · exact .inr ⟨hlt', hc', by omega⟩
    · rcases hr' : (runInner' inner).run i with ⟨⟨r', inner''⟩, j'⟩
      rw [hr'] at hc hat
      rw [hr] at hlt
      dsimp only at hc hat hlt
      subst hc
      rw [retryConflicts_run_pass hr' rfl]
      exact .inr ⟨Nat.lt_of_lt_of_le hlt (retryConflicts_invocations_ge hinc hr _ retries), rfl, hat⟩

end Conflicts

theorem run_once_cancelledFrom (counts : List Nat) (i : Nat) :
    (run (some (cancelledFrom k)) (invoke outcome) once counts).run i =
      if k ≤ i then ((.error .cancelled, counts), i) else ((outcome i, counts), i + 1) := by
  rw [run, cancelledNow, cancelledFrom_bind_run]
  by_cases hk : k ≤ i
  · rw [if_pos hk]
    simp only [hk, decide_true, if_pos]
    rfl
  · rw [if_neg hk]
    simp only [hk, decide_false, Bool.false_eq_true, if_false]
    rfl

theorem run_transient_run (wait : Option (Waiting (StateM Nat))) (p : Policy) (counts : List Nat) (i : Nat) :
    (run wait (invoke outcome) (transient p) counts).run i =
      ((((retryTransient wait (invoke outcome) p.maxRetries).run i).1, counts),
        ((retryTransient wait (invoke outcome) p.maxRetries).run i).2) := rfl

/-- Every strategy, with the token cancelled at `k`, runs as it does without a token, cut
after the `k`-th invocation. -/
theorem run_cutAt : ∀ (strategy : Strategy) (counts : List Nat) (i : Nat),
    CutAt (fun r => r.1 = .error .cancelled) k i ((run none (invoke outcome) strategy counts).run i)
      ((run (some (cancelledFrom k)) (invoke outcome) strategy counts).run i)
  | once, counts, i => by
    rw [run_once_cancelledFrom]
    by_cases hk : k ≤ i
    · rw [if_pos hk]
      exact .inr ⟨Nat.lt_of_le_of_lt hk (Nat.lt_succ_self i), rfl, by dsimp only; omega⟩
    · rw [if_neg hk]
      exact .inl ⟨by show i + 1 ≤ k; omega, rfl⟩
  | transient p, counts, i => by
    rw [run_transient_run, run_transient_run]
    rcases retryTransient_cutAt outcome k p.maxRetries i with ⟨hle, heq⟩ | ⟨hlt, hc, hat⟩
    · exact .inl ⟨hle, by rw [heq]⟩
    · exact .inr ⟨hlt, hc, hat⟩
  | onConflict inner, counts, i =>
    retryConflicts_cutAt k (run_invocations outcome inner) (run_cutAt inner) _ _ _ i

end Cancelled

/-! ## A failure that no layer retries ends the run -/

section Final

variable (outcome : Nat → Except Fault α)

/-- A run from invocation `i` that ended with `r` after `n` invocations in all stopped at the
first failure that no strategy retries, a cancellation among them: that invocation was the
last, and its failure the run's outcome. -/
def StopsAtFinal {β : Type} (i : Nat) (r : Except Fault β) (n : Nat) : Prop :=
  ∀ j e, i ≤ j → j < n → outcome j = .error e → e.isTransient = false → e.isConflict = false →
    n = j + 1 ∧ r = .error e

theorem retryTransient_stopsAtFinal : ∀ budget i,
    StopsAtFinal outcome i ((retryTransient none (invoke outcome) budget).run i).1
      ((retryTransient none (invoke outcome) budget).run i).2
  | 0, i => by
    rw [retryTransient_zero_run]
    intro j e hij hjn ho _ _
    obtain rfl : j = i := by dsimp only at hjn; omega
    exact ⟨rfl, ho⟩
  | budget + 1, i => by
    intro j e hij hjn ho ht hc
    rw [retryTransient_succ_run] at hjn ⊢
    cases hoi : outcome i with
    | ok a =>
      rw [hoi] at hjn
      obtain rfl : j = i := by dsimp only at hjn; omega
      rw [hoi] at ho
      cases ho
    | error e' =>
      rw [hoi] at hjn
      dsimp only at hjn ⊢
      cases ht' : e'.isTransient
      · simp only [ht', Bool.false_eq_true, if_false] at hjn ⊢
        obtain rfl : j = i := by omega
        rw [hoi] at ho
        exact ⟨rfl, ho⟩
      · -- a transient failure is retried, so the final failure comes later
        simp only [ht', if_true] at hjn ⊢
        have hji : j ≠ i := by
          rintro rfl
          rw [hoi, Except.error.injEq] at ho
          subst ho
          rw [ht] at ht'
          cases ht'
        exact retryTransient_stopsAtFinal budget (i + 1) j e (by omega) hjn ho ht hc

theorem retryConflicts_stopsAtFinal {runInner : List Nat → StateM Nat (Except Fault α × List Nat)}
    (hstop : ∀ inner i, StopsAtFinal outcome i ((runInner inner).run i).1.1 ((runInner inner).run i).2) :
    ∀ budget retries inner i, StopsAtFinal outcome i
      ((retryConflicts runInner budget retries inner).run i).1.1
      ((retryConflicts runInner budget retries inner).run i).2 := by
  intro budget
  induction budget with
  | zero =>
    intro retries inner i j e hij hjn ho ht hc
    rcases hr : (runInner inner).run i with ⟨⟨r, inner'⟩, j₁⟩
    have hs := hstop inner i
    rw [hr] at hs
    have hend : ((retryConflicts runInner 0 retries inner).run i).2 = j₁ := by
      cases r with
      | ok a => rw [retryConflicts_run_ok hr]
      | error e' =>
        cases hce : e'.isConflict
        · rw [retryConflicts_run_pass hr hce]
        · rw [retryConflicts_run_limit hr hce]
    rw [hend] at hjn ⊢
    obtain ⟨rfl, rfl⟩ := hs j e hij hjn ho ht hc
    exact ⟨rfl, by rw [retryConflicts_run_pass hr hc]⟩
  | succ budget ih =>
    intro retries inner i j e hij hjn ho ht hc
    rcases hr : (runInner inner).run i with ⟨⟨r, inner'⟩, j₁⟩
    have hs := hstop inner i
    rw [hr] at hs
    by_cases hj : j < j₁
    · -- the final failure came in the first inner run, which then ended with it
      obtain ⟨rfl, rfl⟩ := hs j e hij hj ho ht hc
      rw [retryConflicts_run_pass hr hc]
      exact ⟨rfl, rfl⟩
    · -- the decorator went on after the first inner run: it absorbed a conflict there
      cases r with
      | ok a =>
        rw [retryConflicts_run_ok hr] at hjn
        exact absurd hjn (by dsimp only; omega)
      | error e' =>
        cases hce : e'.isConflict
        · rw [retryConflicts_run_pass hr hce] at hjn
          exact absurd hjn (by dsimp only; omega)
        · rw [retryConflicts_run_retry hr hce] at hjn ⊢
          exact ih (retries + 1) inner' j₁ j e (by omega) hjn ho ht hc

/-- Under every strategy, the first failure that no strategy retries ends the run. -/
theorem run_stopsAtFinal : ∀ (strategy : Strategy) (counts : List Nat) (i : Nat),
    StopsAtFinal outcome i ((run none (invoke outcome) strategy counts).run i).1.1
      ((run none (invoke outcome) strategy counts).run i).2
  | once, counts, i => by
    intro j e hij hjn ho _ _
    obtain rfl : j = i := by
      change j < i + 1 at hjn
      omega
    exact ⟨rfl, ho⟩
  | transient p, counts, i => retryTransient_stopsAtFinal outcome p.maxRetries i
  | onConflict inner, counts, i =>
    retryConflicts_stopsAtFinal outcome (run_stopsAtFinal inner) _ _ _ i

end Final

/-! ## The decorator's count -/

section Count

variable (outcome : Nat → Except Fault α)

/-- Whether an outcome is a concurrency conflict. -/
def conflicted {β : Type} : Except Fault β → Bool
  | .error e => e.isConflict
  | .ok _ => false

/-- How many of the invocations from `i` up to `n - 1` ended in a conflict. -/
def conflictsBetween (i n : Nat) : Nat :=
  (List.range' i (n - i)).countP fun j => conflicted (outcome j)

theorem conflictsBetween_append {i j n : Nat} (hij : i ≤ j) (hjn : j ≤ n) :
    conflictsBetween outcome i n = conflictsBetween outcome i j + conflictsBetween outcome j n := by
  unfold conflictsBetween
  have hsplit := @List.range'_append i (j - i) (n - j) 1
  rw [Nat.one_mul, Nat.add_sub_cancel' hij, show j - i + (n - j) = n - i by omega] at hsplit
  rw [← hsplit, List.countP_append]

theorem conflictsBetween_last (i : Nat) :
    conflictsBetween outcome i (i + 1) = if conflicted (outcome i) then 1 else 0 := by
  simp [conflictsBetween]

/-- How a run of a base strategy from invocation `i`, ending with `r` after invocation
`n - 1`, spent its invocations: at least one, all but the last a transient failure, and the
run's outcome that of the last. -/
def BaseSpan (i : Nat) (r : Except Fault α) (n : Nat) : Prop :=
  i < n ∧ r = outcome (n - 1) ∧
    ∀ j, i ≤ j → j + 1 < n → ∃ e, outcome j = .error e ∧ e.isTransient = true

theorem BaseSpan.conflicts_before {i n m : Nat} {r : Except Fault α} (h : BaseSpan outcome i r n)
    (hm : m < n) : conflictsBetween outcome i m = 0 := by
  refine List.countP_eq_zero.2 fun j hj => ?_
  rw [List.mem_range'_1] at hj
  obtain ⟨e, ho, ht⟩ := h.2.2 j hj.1 (by omega)
  rw [ho, conflicted, DecoratedRun.transient_not_conflict ht]
  exact Bool.false_ne_true

/-- A base run counts one conflict if it ended in one, and none otherwise. -/
theorem BaseSpan.conflicts {i n : Nat} {r : Except Fault α} (h : BaseSpan outcome i r n) :
    conflictsBetween outcome i n = if conflicted r then 1 else 0 := by
  have hlast := conflictsBetween_last outcome (n - 1)
  rw [Nat.sub_add_cancel (Nat.one_le_of_lt h.1)] at hlast
  rw [conflictsBetween_append outcome (Nat.le_sub_one_of_lt h.1) (Nat.sub_le n 1),
    h.conflicts_before outcome (Nat.sub_lt (Nat.zero_lt_of_lt h.1) Nat.one_pos), hlast, h.2.1,
    Nat.zero_add]

theorem retryTransient_baseSpan : ∀ budget i,
    BaseSpan outcome i ((retryTransient none (invoke outcome) budget).run i).1
      ((retryTransient none (invoke outcome) budget).run i).2
  | 0, i => by
    rw [retryTransient_zero_run]
    exact ⟨Nat.lt_succ_self i, rfl, fun j hij hjn => absurd hjn (by omega)⟩
  | budget + 1, i => by
    rw [retryTransient_succ_run]
    cases ho : outcome i with
    | ok a => exact ⟨Nat.lt_succ_self i, ho.symm, fun j hij hjn => absurd hjn (by dsimp only at hjn; omega)⟩
    | error e =>
      dsimp only
      cases ht : e.isTransient
      · rw [if_neg Bool.false_ne_true]
        exact ⟨Nat.lt_succ_self i, ho.symm, fun j hij hjn => absurd hjn (by dsimp only at hjn; omega)⟩
      · -- the transient failure at `i` is followed by the rest of the loop
        rw [if_pos rfl]
        obtain ⟨hlt, hr, hrest⟩ := retryTransient_baseSpan budget (i + 1)
        refine ⟨by omega, hr, fun j hij hjn => ?_⟩
        rcases Nat.eq_or_lt_of_le hij with rfl | hij'
        · exact ⟨e, ho, ht⟩
        · exact hrest j hij' hjn

/-- A run of the base strategy a set of options selects spends its invocations as
`BaseSpan` says. -/
theorem run_ofOptions_baseSpan (o : Options) (counts : List Nat) (i : Nat) :
    BaseSpan outcome i ((run none (invoke outcome) (ofOptions o) counts).run i).1.1
      ((run none (invoke outcome) (ofOptions o) counts).run i).2 := by
  unfold ofOptions
  cases o.transientRetry with
  | none => exact retryTransient_baseSpan outcome 0 i
  | some p => exact retryTransient_baseSpan outcome p.maxRetries i

/-- What the decorator needs of an inner run from `i` that ended with `r` after invocation
`n - 1`: it counts one conflict if it ended in one and none otherwise, and it ended
cancelled or with its last invocation's outcome. -/
def InnerSpan (i : Nat) (r : Except Fault α) (n : Nat) : Prop :=
  i ≤ n ∧ conflictsBetween outcome i n = (if conflicted r then 1 else 0) ∧
    (r = .error .cancelled ∨ r = outcome (n - 1))

theorem BaseSpan.innerSpan {i n : Nat} {r : Except Fault α} (h : BaseSpan outcome i r n) :
    InnerSpan outcome i r n :=
  ⟨Nat.le_of_lt h.1, h.conflicts outcome, .inr h.2.1⟩

/-- A base run cut by the token after the `k`-th invocation still gives the decorator what
it needs: the invocations before the cut were transient failures. -/
theorem BaseSpan.innerSpan_cut {k i : Nat} {sync async : (Except Fault α × List Nat) × Nat}
    (h : BaseSpan outcome i sync.1.1 sync.2)
    (hcut : CutAt (fun r => r.1 = .error .cancelled) k i sync async) :
    InnerSpan outcome i async.1.1 async.2 := by
  rcases hcut with ⟨_, rfl⟩ | ⟨hlt, hc, hat⟩
  · exact h.innerSpan outcome
  · rw [hc, hat]
    refine ⟨Nat.le_max_left i k, ?_, .inl rfl⟩
    rw [h.conflicts_before outcome (Nat.max_lt.2 ⟨h.1, hlt⟩)]
    rfl

/-- The decorator gave up: its run ended in a retry-limit failure over the conflict its last
invocation ended in. -/
def GaveUp (r : Except Fault α) (n : Nat) : Prop :=
  ∃ a e, outcome (n - 1) = .error e ∧ e.isConflict = true ∧ r = .error (.retryLimit a e)

/-- The decorator's count went from `c₀` to `c` over a run from `i` that ended with `r`
after invocation `n - 1`: it grew by one for every conflict among the invocations, but for
the one the decorator gave up on. -/
def Absorbed (c₀ i : Nat) (r : Except Fault α) (c n : Nat) : Prop :=
  (GaveUp outcome r n → c + 1 = c₀ + conflictsBetween outcome i n) ∧
    (¬GaveUp outcome r n → c = c₀ + conflictsBetween outcome i n)

/-- An inner run that did not end in a conflict is passed on as it is, which is never
giving up. -/
theorem InnerSpan.not_gaveUp {i n : Nat} {r : Except Fault α} (h : InnerSpan outcome i r n)
    (hc : conflicted r = false) : ¬GaveUp outcome r n := by
  rintro ⟨a, e, ho, he, rfl⟩
  rcases h.2.2 with hr | hr
  · cases hr
  · -- the last invocation would have ended both in `e` and in a retry-limit failure over it
    rw [ho, Except.error.injEq] at hr
    rw [← hr] at he
    cases he

section Decorator

variable {runInner : List Nat → StateM Nat (Except Fault α × List Nat)}

theorem retryConflicts_le (h : ∀ inner i, i ≤ ((runInner inner).run i).2) :
    ∀ budget retries inner i, i ≤ ((retryConflicts runInner budget retries inner).run i).2 := by
  intro budget
  induction budget with
  | zero =>
    intro retries inner i
    rcases hr : (runInner inner).run i with ⟨⟨r, inner'⟩, j⟩
    have hij : i ≤ j := by simpa [hr] using h inner i
    cases r with
    | ok a => rw [retryConflicts_run_ok hr]; exact hij
    | error e =>
      cases hce : e.isConflict
      · rw [retryConflicts_run_pass hr hce]; exact hij
      · rw [retryConflicts_run_limit hr hce]; exact hij
  | succ budget ih =>
    intro retries inner i
    rcases hr : (runInner inner).run i with ⟨⟨r, inner'⟩, j⟩
    have hij : i ≤ j := by simpa [hr] using h inner i
    cases r with
    | ok a => rw [retryConflicts_run_ok hr]; exact hij
    | error e =>
      cases hce : e.isConflict
      · rw [retryConflicts_run_pass hr hce]; exact hij
      · rw [retryConflicts_run_retry hr hce]
        exact Nat.le_trans hij (ih (retries + 1) inner' j)

/-- The decorator's count grows by exactly the conflicts it absorbed, over inner runs that
count their conflicts as a base run does. -/
theorem retryConflicts_absorbed
    (hspan : ∀ inner i, InnerSpan outcome i ((runInner inner).run i).1.1 ((runInner inner).run i).2) :
    ∀ budget retries inner i, Absorbed outcome retries i
      ((retryConflicts runInner budget retries inner).run i).1.1
      (((retryConflicts runInner budget retries inner).run i).1.2.headD 0)
      ((retryConflicts runInner budget retries inner).run i).2 := by
  intro budget
  induction budget with
  | zero =>
    intro retries inner i
    rcases hr : (runInner inner).run i with ⟨⟨r, inner'⟩, j⟩
    have hs := hspan inner i
    rw [hr] at hs
    dsimp only at hs
    cases hcr : conflicted r
    · -- the decorator passes the inner outcome on, at the same count
      have hpass : (retryConflicts runInner 0 retries inner).run i = ((r, retries :: inner'), j) := by
        cases r with
        | ok a => exact retryConflicts_run_ok hr 0 retries
        | error e => exact retryConflicts_run_pass hr hcr 0 retries
      rw [hpass]
      have hzero : conflictsBetween outcome i j = 0 := by rw [hs.2.1, hcr]; rfl
      exact ⟨fun hg => absurd hg (hs.not_gaveUp outcome hcr), fun _ => by rw [hzero]; rfl⟩
    · -- a conflict with no retries left: the decorator gives up
      cases r with
      | ok a => cases hcr
      | error e =>
        rw [retryConflicts_run_limit hr hcr]
        have hlast : Except.error e = outcome (j - 1) := hs.2.2.resolve_left fun h => by
          rw [Except.error.injEq] at h
          rw [h] at hcr
          cases hcr
        have hone : conflictsBetween outcome i j = 1 := by rw [hs.2.1, hcr]; rfl
        have hg : GaveUp outcome (.error (.retryLimit (retries + 1) e)) j :=
          ⟨retries + 1, e, hlast.symm, hcr, rfl⟩
        exact ⟨fun _ => by rw [hone]; rfl, fun hng => absurd hg hng⟩
  | succ budget ih =>
    intro retries inner i
    rcases hr : (runInner inner).run i with ⟨⟨r, inner'⟩, j⟩
    have hs := hspan inner i
    rw [hr] at hs
    dsimp only at hs
    cases hcr : conflicted r
    · have hpass : (retryConflicts runInner (budget + 1) retries inner).run i =
          ((r, retries :: inner'), j) := by
        cases r with
        | ok a => exact retryConflicts_run_ok hr _ retries
        | error e => exact retryConflicts_run_pass hr hcr _ retries
      rw [hpass]
      have hzero : conflictsBetween outcome i j = 0 := by rw [hs.2.1, hcr]; rfl
      exact ⟨fun hg => absurd hg (hs.not_gaveUp outcome hcr), fun _ => by rw [hzero]; rfl⟩
    · -- an absorbed conflict: the count grows by one and the decorator goes on from `j`
      cases r with
      | ok a => cases hcr
      | error e =>
        rw [retryConflicts_run_retry hr hcr]
        have hone : conflictsBetween outcome i j = 1 := by rw [hs.2.1, hcr]; rfl
        have hjn := retryConflicts_le (fun inner i => (hspan inner i).1) budget (retries + 1) inner' j
        have hsplit := conflictsBetween_append outcome hs.1 hjn
        obtain ⟨hgave, hkept⟩ := ih (retries + 1) inner' j
        exact ⟨fun hg => by rw [hsplit, hone, hgave hg]; omega,
          fun hng => by rw [hsplit, hone, hkept hng]; omega⟩

end Decorator

/-- Either run of a base strategy, without a token or with one cancelled by the `k`-th
invocation, gives the decorator what it needs. -/
theorem run_ofOptions_innerSpan (token : Option Nat) (o : Options) (counts : List Nat) (i : Nat) :
    InnerSpan outcome i ((run (token.map cancelledFrom) (invoke outcome) (ofOptions o) counts).run i).1.1
      ((run (token.map cancelledFrom) (invoke outcome) (ofOptions o) counts).run i).2 := by
  have hbase := run_ofOptions_baseSpan outcome o counts i
  cases token with
  | none => exact hbase.innerSpan outcome
  | some k => exact hbase.innerSpan_cut outcome (run_cutAt outcome k (ofOptions o) counts i)

end Count

/-- A run cut after the `k`-th invocation stops at a failure no layer retries as the
uncut run does: a cut run ends before any such failure of the uncut one. -/
theorem CutAt.stopsAtFinal {outcome : Nat → Except Fault α} {k i : Nat}
    {sync async : (Except Fault α × List Nat) × Nat}
    (hcut : CutAt (fun r => r.1 = .error .cancelled) k i sync async)
    (hstop : StopsAtFinal outcome i sync.1.1 sync.2) : StopsAtFinal outcome i async.1.1 async.2 := by
  rcases hcut with ⟨_, rfl⟩ | ⟨hlt, _, hat⟩
  · exact hstop
  · intro j e hij hjn ho ht hc
    rw [hat] at hjn
    -- the uncut run would have stopped at `j`, before the cut
    have hend := (hstop j e hij (by omega) ho ht hc).1
    omega

theorem CutAt.invocations_le {β : Type} {cancelled : β → Prop} {k i : Nat} {sync async : β × Nat}
    (hcut : CutAt cancelled k i sync async) : async.2 ≤ max i k := by
  rcases hcut with ⟨hle, rfl⟩ | ⟨_, _, hat⟩
  · exact Nat.le_trans hle (Nat.le_max_right i k)
  · exact Nat.le_of_eq hat

/-- Asynchronous runs of strategies agree with synchronous ones and honour cancellation.
For every strategy, decorated or not, every counts and every sequence of outcomes: with a
token that is never cancelled the run is the synchronous one, with the same result, the same
invocations and the same counts after. With a token cancelled by the `k`-th invocation (or
before the run, for `k = 0`), the run never invokes the operation after the `k`-th time, and
it is the synchronous run cut there: it ends as the synchronous run if that made no more
invocations, and cancelled otherwise. With a token or without, a failure that no layer
retries, a cancellation among them, ends the run and is its outcome. And the conflict
decorator over a base strategy ends with its count grown by exactly the conflicts it
absorbed: every conflict among the invocations but the one it gave up on. -/
theorem async_run_honours_cancellation (outcome : Nat → Except Fault α) :
    (∀ strategy counts, (run (some neverCancelled) (invoke outcome) strategy counts).run 0 =
      (run none (invoke outcome) strategy counts).run 0) ∧
    (∀ strategy counts k,
      ((run (some (cancelledFrom k)) (invoke outcome) strategy counts).run 0).2 ≤ k ∧
      CutAt (fun r => r.1 = .error .cancelled) k 0 ((run none (invoke outcome) strategy counts).run 0)
        ((run (some (cancelledFrom k)) (invoke outcome) strategy counts).run 0)) ∧
    (∀ strategy counts (token : Option Nat), StopsAtFinal outcome 0
      ((run (token.map cancelledFrom) (invoke outcome) strategy counts).run 0).1.1
      ((run (token.map cancelledFrom) (invoke outcome) strategy counts).run 0).2) ∧
    (∀ (o : Options) (counts : List Nat) (token : Option Nat), Absorbed outcome (counts.headD 0) 0
      ((run (token.map cancelledFrom) (invoke outcome) (onConflict (ofOptions o)) counts).run 0).1.1
      (((run (token.map cancelledFrom) (invoke outcome) (onConflict (ofOptions o)) counts).run 0).1.2.headD 0)
      ((run (token.map cancelledFrom) (invoke outcome) (onConflict (ofOptions o)) counts).run 0).2) := by
  refine ⟨fun strategy counts => by rw [run_neverCancelled], fun strategy counts k => ?_,
    fun strategy counts token => ?_, fun o counts token => ?_⟩
  · have hcut := run_cutAt outcome k strategy counts 0
    exact ⟨by simpa using hcut.invocations_le, hcut⟩
  · have hstop := run_stopsAtFinal outcome strategy counts 0
    cases token with
    | none => exact hstop
    | some k => exact (run_cutAt outcome k strategy counts 0).stopsAtFinal hstop
  · exact retryConflicts_absorbed outcome (run_ofOptions_innerSpan outcome token o) _ _ _ 0

/-- Transient failures under the default policy, with the token cancelled while the second
attempt runs: the backoff after it ends the run, and no third attempt starts. -/
example : (run (some (cancelledFrom 2)) (invoke fun _ => (.error (.transient "busy") : Except Fault Nat))
    (transient {}) []).run 0 = ((.error .cancelled, []), 2) := rfl

end Strategy

end ScopedWork
