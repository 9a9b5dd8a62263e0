import ScopedWork.Proofs.Root.Commit
import ScopedWork.Proofs.Root.Prepare
import ScopedWork.Proofs.Attempt.Released

/-!
# A root execution is all or nothing

A root execution of work that stays in its scope (`Prog`) runs attempts until one succeeds,
fails for good, or is cancelled. Each attempt invokes the work once, and the work records in
its journal the history at that point and, after each operation, the history around it.

What the attempts leave in the history is `Attempts`: each attempt began at most one
transaction and ended it, by committing it or rolling it back, and only the last attempt may
have committed. Every operation of the work ran inside the transaction of the unit's context
(`Mark.InTxn`), so that nothing reached the database through a transaction of its own. The
committed tables change only through the one commit, and an execution that fails committed
nothing, unless its commit was applied and only its acknowledgement was lost: that failure
is a commit failure, which no strategy retries when the unit avoids commit retries.
-/

namespace ScopedWork

open Act Execution

variable {σ : Type} {u c o : Nat}

namespace TxnEvent

/-- The transaction an event commits, if it is a commit. -/
def committedTxn : TxnEvent → Option Nat
  | committed id => some id
  | _ => none

end TxnEvent

namespace Execution

/-! ### The events of attempts -/

theorem Writes.uncommitted {slot : Option Nat} {ws : List TxnEvent} (h : Writes slot ws) :
    ws.filterMap TxnEvent.committedTxn = [] := by
  cases slot with
  | none =>
    simp only [Writes] at h
    simp [h]
  | some t =>
    refine List.filterMap_eq_nil_iff.mpr fun ev hev => ?_
    obtain ⟨cs, rfl⟩ := h ev hev
    rfl

/-- What a transaction commits of the events that begin it, write to it and end it. -/
theorem Writes.commits_of_began {t : Nat} {ws : List TxnEvent} (h : Writes (some t) ws)
    (last : TxnEvent) :
    (TxnEvent.began t :: ws ++ [last]).filterMap TxnEvent.committedTxn = last.committedTxn.toList := by
  rw [List.cons_append, List.filterMap_cons, List.filterMap_append, h.uncommitted]
  cases last <;> rfl

/-- The events of one attempt commit at most one transaction. -/
theorem AttemptEvents.commits_le_one {d : List TxnEvent} (h : AttemptEvents d) :
    (d.filterMap TxnEvent.committedTxn).length ≤ 1 := by
  rcases h with rfl | ⟨t, ws, hws, rfl | rfl⟩
  · simp
  · rw [hws.commits_of_began]
    simp [TxnEvent.committedTxn]
  · rw [hws.commits_of_began]
    simp [TxnEvent.committedTxn]

/-- Before the attempt commits, nothing is committed. -/
theorem Phase.uncommitted {A d : List TxnEvent} {aborted : Bool} {slot : Option Nat}
    (hp : Phase A aborted slot d) : d.filterMap TxnEvent.committedTxn = [] := by
  cases aborted <;> cases slot <;> simp only [Phase] at hp
  · simp [hp]
  · obtain ⟨-, ws, rfl, hws⟩ := hp
    rw [List.filterMap_cons, hws.uncommitted]
    rfl
  · rcases hp with rfl | ⟨t, ws, rfl, hws⟩
    · rfl
    · rw [hws.commits_of_began]
      rfl

/-- Rolling back what the attempt left open ends it. -/
theorem Phase.close {A d : List TxnEvent} {aborted : Bool} {slot : Option Nat}
    (hp : Phase A aborted slot d) : AttemptEvents (d ++ slot.toList.map .rolledBack) := by
  have hend := hp.invalidate
  simp only [Phase] at hend
  rcases hend with h | ⟨t, ws, h, hws⟩
  · exact .inl h
  · exact .inr ⟨t, ws, hws, .inr h⟩

/-- Committing the transaction the attempt began ends it. -/
theorem Phase.commit {A d : List TxnEvent} {t : Nat} (hp : Phase A false (some t) d) :
    AttemptEvents (d ++ [.committed t]) := by
  obtain ⟨-, ws, rfl, hws⟩ := hp
  exact .inr ⟨t, ws, hws, .inl rfl⟩

/-! ### The attempts of an execution -/

/-- Attempts that committed nothing, from history `H` to `H'`, started at the histories
`starts`: each began at most one transaction and rolled it back. -/
inductive Retried : List TxnEvent → List (List TxnEvent) → List TxnEvent → Prop
  | nil (H : List TxnEvent) : Retried H [] H
  | cons {H d H' : List TxnEvent} {starts : List (List TxnEvent)} :
      AttemptEvents d → d.filterMap TxnEvent.committedTxn = [] → Retried (H ++ d) starts H' →
      Retried H (H :: starts) H'

/-- The attempts of an execution, from history `H` to `H'`, started at the histories `starts`:
attempts that committed nothing, then perhaps a last one, which may have committed. Each
began at most one transaction and ended it. -/
def Attempts (H : List TxnEvent) (starts : List (List TxnEvent)) (H' : List TxnEvent) : Prop :=
  Retried H starts H' ∨
    ∃ S H₁ d, Retried H S H₁ ∧ AttemptEvents d ∧ starts = S ++ [H₁] ∧ H' = H₁ ++ d

namespace Retried

variable {H H₁ : List TxnEvent} {S : List (List TxnEvent)}

/-- Retried attempts add to the history and commit nothing. -/
theorem uncommitted (h : Retried H S H₁) : ∃ D, H₁ = H ++ D ∧ D.filterMap TxnEvent.committedTxn = [] := by
  induction h with
  | nil H => exact ⟨[], by simp, rfl⟩
  | @cons H d H' starts _ hd _ ih =>
    obtain ⟨D, rfl, hD⟩ := ih
    exact ⟨d ++ D, by simp, by simp [hd, hD]⟩

/-- One more attempt that committed nothing. -/
theorem snoc (h : Retried H S H₁) {d : List TxnEvent} (hev : AttemptEvents d)
    (hd : d.filterMap TxnEvent.committedTxn = []) : Retried H (S ++ [H₁]) (H₁ ++ d) := by
  induction h with
  | nil H => exact .cons hev hd (.nil _)
  | cons hev' hd' _ ih => exact .cons hev' hd' ih

end Retried

/-- Over all its attempts, an execution commits at most one transaction. -/
theorem Attempts.commits_le_one {H H' : List TxnEvent} {S : List (List TxnEvent)} (h : Attempts H S H') :
    ∃ D, H' = H ++ D ∧ (D.filterMap TxnEvent.committedTxn).length ≤ 1 := by
  rcases h with h | ⟨S, H₁, d, h, hev, -, rfl⟩
  · obtain ⟨D, rfl, hD⟩ := h.uncommitted
    exact ⟨D, rfl, by simp [hD]⟩
  · obtain ⟨D, rfl, hD⟩ := h.uncommitted
    exact ⟨D ++ d, by simp, by simpa [hD] using hev.commits_le_one⟩

end Execution

/-! ### One attempt -/

/-- The work of a root records the history as it is invoked, then runs in its scope. -/
theorem Prog.invokeAndRun_rootWork (h : Hooks Journal) (p e : Nat) (prog : Prog) (wait : Wait)
    (s : Sys Journal) :
    exec (Exec.invokeAndRun h e (Prog.rootWork h p prog) wait) s =
      exec (Exec.runWork h e (prog.run h p e) wait)
        { s with host := s.host ++ [.entered s.world.db.history] } := by
  cases wait with
  | blocking =>
    simp only [Exec.invokeAndRun, Exec.runWork_eq, Exec.outcomeOf, Prog.rootWork, exec_bind, Exec.get,
      exec_world, exec_modifyHost, exec_pure, exec_outcome]
  | async t =>
    simp only [Exec.invokeAndRun, Prog.rootWork, exec_bind, exec_world, exec_modifyHost, exec_pure]

/-- The scope of an attempt, from a unit ready for it at history `A`: the work is invoked once,
recording `A`, and runs in a new scope of the unit. The attempt goes on in its phase and, unless
the scope completed with a value, the unit ends invalidated with no transaction open. -/
theorem attemptScope_spec {h : Hooks Journal} {p : Nat} {prog : Prog} {wait : Wait}
    {s s' : Sys Journal} {q : Except Fault (Reply × Bool)} (hr : Ready u c o p s.world.db.history s)
    (hx : exec (attemptScope h u c (Prog.rootWork h p prog) wait) s = (q, s')) :
    Within u c o s.world.db.history s s' ∧
      (∃ J, s'.host = s.host ++ .entered s.world.db.history :: J ∧ Sound J) ∧
      ((∃ v, q = .ok (v, true)) ∨
        ((s'.world.observers[o]?.getD default).aborted = true ∧
          (s'.world.contexts[c]?.getD default).txn = none)) := by
  simp only [attemptScope, exec_bind] at hx
  rcases ht : exec wait.scopeToken s with ⟨q₁, s₁⟩
  obtain ⟨⟨tok, rfl⟩, hs₁⟩ := Wait.scopeToken_spec ht
  have hw₁ : Within u c o s.world.db.history s s₁ :=
    hs₁ ▸ .of_moves (Moves.of_tokens hr.live _ _) ⟨hr.steady.lock_free, hr.steady.not_saving⟩ hr.attempt
  simp only [ht, Exec.create_exec] at hx
  obtain ⟨s₂, hs₂⟩ : ∃ s₂ : Sys Journal, s₂ = { s₁ with world := { s₁.world with
      execs := s₁.world.execs.push { unit := u, context := c, nested := false, token := tok } } } :=
    ⟨_, rfl⟩
  rw [← hs₂, Prog.invokeAndRun_rootWork] at hx
  obtain ⟨hw₂, hscope, hfresh⟩ := Within.push_scope hw₁.live hw₁.steady hw₁.attempt hs₂
  have hready₂ := (hr.of_within hw₁).of_within hw₂
  have hA : s₂.world.db.history = s.world.db.history := by rw [hs₂, hs₁]
  have hhost : s₂.host = s.host := by rw [hs₂, hs₁]
  have hready₂' : Ready u c o p s.world.db.history
      { s₂ with host := s₂.host ++ [.entered s₂.world.db.history] } :=
    ⟨hready₂.live, hready₂.steady, hready₂.attempt, hready₂.provider⟩
  obtain ⟨hw₃, ⟨J, hJ, hsound⟩, -, hend⟩ := Exec.runWork_spec hready₂'.live hready₂'.steady
    hready₂'.attempt hscope.1 hscope.2 hfresh (fun _ _ hb => Prog.run_spec h p prog hready₂' hscope hb) hx
  refine ⟨(hw₁.trans hw₂).trans ⟨hw₃.live, hw₃.steady, hw₃.frame, hw₃.stays, hw₃.tables, hw₃.attempt⟩,
    ⟨J, ?_, hsound⟩, hend⟩
  rw [hJ, hhost, hA]
  simp

/-- A failure that is already a commit failure is reported as it is. -/
theorem commitFault_of_isCommitFailure (options : Options) {e : Fault} (h : e.isCommitFailure) :
    commitFault options e = e := by
  simp [commitFault, h]

/-- How an attempt ends: its events `d` since it started, the transaction `slot` it leaves
open, the committed tables `T'` against the tables `T` at its start, and its outcome `r`. Once
what is left open is rolled back, the events began at most one transaction and ended it; only
a failed attempt leaves a transaction open; the tables changed only if the attempt committed;
and an attempt that committed failed only with a commit failure. -/
structure AttemptEnd {α : Type} (d : List TxnEvent) (slot : Option Nat) (T T' : Tables)
    (r : Except Fault α) : Prop where
  events : AttemptEvents (d ++ slot.toList.map .rolledBack)
  open_failed : ∀ v, r = .ok v → slot = none
  tables : d.filterMap TxnEvent.committedTxn = [] → T' = T
  failed : ∀ e, r = .error e → d.filterMap TxnEvent.committedTxn ≠ [] → e.isCommitFailure

/-- An attempt that ends before it commits, leaving a transaction open only on a failure. -/
theorem AttemptEnd.of_phase {α : Type} {A d : List TxnEvent} {aborted : Bool} {slot : Option Nat}
    {T : Tables} {r : Except Fault α} (hp : Phase A aborted slot d) (hopen : ∀ v, r = .ok v → slot = none) :
    AttemptEnd d slot T T r :=
  ⟨hp.close, hopen, fun _ => rfl, fun _ _ hc => absurd hp.uncommitted hc⟩

/-- The commit of the transaction an attempt began ends the attempt: cancelled before reaching
the database, committed, or rolled back by it. The outcome `r` reported for the attempt must
succeed only if the commit did, and fail with a commit failure whenever the commit did. -/
theorem AttemptEnd.of_commitEnds {α : Type} {A d : List TxnEvent} {t : Nat} {db db' : Database}
    {slot : Option Nat} {q : Except Fault Bool} {r : Except Fault α}
    (hp : Phase A false (some t) d) (hends : CommitEnds t db db' slot q)
    (hok : ∀ v, r = .ok v → ∃ b, q = .ok b)
    (herr : ∀ e, r = .error e → ∃ e₀, q = .error e₀ ∧ (e₀.isCommitFailure → e.isCommitFailure)) :
    ∃ d', db'.history = db.history ++ d' ∧ AttemptEnd (d ++ d') slot db.tables db'.tables r := by
  cases hends with
  | cancelled hq hdb hslot =>
    subst hdb hslot
    refine ⟨[], (List.append_nil _).symm, ?_⟩
    rw [List.append_nil]
    refine AttemptEnd.of_phase hp fun v hv => ?_
    obtain ⟨b, hb⟩ := hok v hv
    rw [hq] at hb
    cases hb
  | committed hslot hhist hq =>
    subst hslot
    refine ⟨[.committed t], hhist, by simpa using hp.commit, fun _ _ => rfl, fun hnc => ?_, fun e he _ => ?_⟩
    · simp [TxnEvent.committedTxn] at hnc
    · obtain ⟨e₀, hq₀, hcf⟩ := herr e he
      exact hcf (hq e₀ hq₀)
  | rolledBack hslot hhist htables hq =>
    subst hslot
    refine ⟨[.rolledBack t], hhist, by simpa using hp.close, fun _ _ => rfl, fun _ => htables,
      fun _ _ hc => absurd ?_ hc⟩
    simpa [TxnEvent.committedTxn] using hp.uncommitted

/-- One attempt, from a unit ready for it at history `A`: the work is invoked once, recording
`A`, and the attempt ends as `AttemptEnd` says. -/
theorem attempt_spec {h : Hooks Journal} {p : Nat} {prog : Prog} {options : Options} {wait : Wait}
    {s s' : Sys Journal} {r : Except Fault Reply} (hr : Ready u c o p s.world.db.history s)
    (hx : exec (attempt h u c options (Prog.rootWork h p prog) wait) s = (r, s')) :
    Live u c o s'.world ∧ Steady u o s'.world ∧ s'.world.providers = s.world.providers ∧
      (∃ J, s'.host = s.host ++ .entered s.world.db.history :: J ∧ Sound J) ∧
      ∃ d, s'.world.db.history = s.world.db.history ++ d ∧
        AttemptEnd d (s'.world.contexts[c]?.getD default).txn s.world.db.tables s'.world.db.tables r := by
  rw [attempt_eq_scoped, exec_bind] at hx
  rcases hs : exec (attemptScope h u c (Prog.rootWork h p prog) wait) s with ⟨q, s₁⟩
  obtain ⟨hw, hJ, hend⟩ := attemptScope_spec hr hs
  obtain ⟨d, hd, hp⟩ := hw.attempt
  rw [hs] at hx
  rcases q with e | ⟨v, _ | _⟩
  · -- the scope failed
    obtain ⟨rfl, rfl⟩ := Prod.mk.inj hx
    refine ⟨hw.live, hw.steady, hw.frame.providers, hJ, d, hd, ?_⟩
    rw [hw.tables]
    exact AttemptEnd.of_phase hp fun _ h => nomatch h
  · -- the scope did not complete: nothing is committed
    simp only [Bool.false_eq_true, if_false, exec_pure] at hx
    obtain ⟨rfl, rfl⟩ := Prod.mk.inj hx
    have hend' : (s₁.world.observers[o]?.getD default).aborted = true ∧
        (s₁.world.contexts[c]?.getD default).txn = none := by
      simpa using hend
    refine ⟨hw.live, hw.steady, hw.frame.providers, hJ, d, hd, ?_⟩
    rw [hw.tables]
    exact AttemptEnd.of_phase hp fun _ _ => hend'.2
  simp only [if_true, exec_bind, exec_outcome] at hx
  rcases hc : exec (UnitOfWork.tryCommit h u wait) s₁ with ⟨qc, s₂⟩
  obtain ⟨hk, hfree, hobs, hnone, hsome⟩ := UnitOfWork.tryCommit_spec hw.live hw.steady.lock_free hc
  have hst : Steady u o s₂.world := ⟨hfree, by rw [hobs]; exact hw.steady.not_saving⟩
  have hJ₂ : ∃ J, s₂.host = s.host ++ .entered s.world.db.history :: J ∧ Sound J := by
    rw [hk.host]
    exact hJ
  have hr : (∀ v', r = .ok v' → ∃ b, qc = .ok b) ∧
      (∀ e, r = .error e → ∃ e₀, qc = .error e₀ ∧ (e₀.isCommitFailure → e.isCommitFailure)) ∧ s' = s₂ := by
    rw [hc] at hx
    cases qc with
    | ok b =>
      simp only [exec_pure] at hx
      obtain ⟨rfl, rfl⟩ := Prod.mk.inj hx
      exact ⟨fun _ _ => ⟨b, rfl⟩, (fun _ h => by cases h), rfl⟩
    | error e₀ =>
      simp only [exec_bind, exec_throw] at hx
      obtain ⟨rfl, rfl⟩ := Prod.mk.inj hx
      refine ⟨(fun _ h => by cases h), fun e he => ⟨e₀, rfl, fun hcf => ?_⟩, rfl⟩
      cases he
      rw [commitFault_of_isCommitFailure options hcf]
      exact hcf
  obtain ⟨hok, herr, rfl⟩ := hr
  refine ⟨hk.live, hst, hk.frame.providers.trans hw.frame.providers, hJ₂, ?_⟩
  cases hslot : (s₁.world.contexts[c]?.getD default).txn with
  | none =>
    obtain ⟨rfl, rfl⟩ := hnone hslot
    rw [hslot] at hp
    refine ⟨d, hd, ?_⟩
    rw [hw.tables, hslot]
    exact AttemptEnd.of_phase hp fun _ _ => rfl
  | some t =>
    -- a transaction is open only before the unit is invalidated
    have hp' : Phase s.world.db.history false (some t) d := by
      cases hab : (s₁.world.observers[o]?.getD default).aborted
      · rw [hab, hslot] at hp
        exact hp
      · rw [hab, hslot] at hp
        exact hp.elim
    obtain ⟨d', hd', hend⟩ := AttemptEnd.of_commitEnds hp' (hsome t hslot) hok herr
    refine ⟨d ++ d', by rw [hd', hd, List.append_assoc], ?_⟩
    rwa [hw.tables] at hend

/-! ### From attempt to attempt -/

namespace Execution

/-- The journal after one more attempt, started at history `A`: every operation ran in the
context's transaction, and the attempts started at the histories recorded before, then at `A`. -/
theorem Sound.extend {J J' : Journal} {A : List TxnEvent} (hJ : ∀ m ∈ J, m.InTxn) (hs : Sound J') :
    (∀ m ∈ J ++ .entered A :: J', m.InTxn) ∧
      (J ++ .entered A :: J').filterMap Mark.snapshot = J.filterMap Mark.snapshot ++ [A] := by
  refine ⟨fun m hm => ?_, ?_⟩
  · rcases List.mem_append.mp hm with hm | hm
    · exact hJ m hm
    · rcases List.mem_cons.mp hm with rfl | hm
      · trivial
      · exact (hs m hm).1
  · have hnone : J'.filterMap Mark.snapshot = [] :=
      List.filterMap_eq_nil_iff.mpr fun m hm => (hs m hm).2
    rw [List.filterMap_append, List.filterMap_cons, hnone]
    rfl

/-- A root execution of unit `u` between two attempts, having started with history `H₀`,
journal `J₀` and committed tables `T₀`: the unit is live and steady with no transaction open
and not invalidated, provider `p` opens plain scopes, the committed tables are as they were,
and since `J₀` the work recorded only operations run in the context's transaction, at the
starts of attempts that committed nothing. -/
structure Between (u c o p : Nat) (H₀ : List TxnEvent) (J₀ : Journal) (T₀ : Tables)
    (s : Sys Journal) : Prop where
  live : Live u c o s.world
  steady : Steady u o s.world
  idle : (s.world.contexts[c]?.getD default).txn = none
  valid : (s.world.observers[o]?.getD default).aborted = false
  provider : (s.world.providers[p]?.getD default).conflict = none
  tables : s.world.db.tables = T₀
  record : ∃ J, s.host = J₀ ++ J ∧ (∀ m ∈ J, m.InTxn) ∧
    Retried H₀ (J.filterMap Mark.snapshot) s.world.db.history

/-- How a root execution that started with history `H₀`, journal `J₀` and committed tables
`T₀` ends with outcome `r`: since `J₀` the work recorded only operations run in the context's
transaction; its attempts, started at the histories it recorded, are `Attempts`; the committed
tables changed only if a transaction was committed; and an execution that failed after a
commit failed with a commit failure. -/
def Ended {α : Type} (H₀ : List TxnEvent) (J₀ : Journal) (T₀ : Tables) (r : Except Fault α)
    (s : Sys Journal) : Prop :=
  ∃ J D, s.host = J₀ ++ J ∧ s.world.db.history = H₀ ++ D ∧ (∀ m ∈ J, m.InTxn) ∧
    Attempts H₀ (J.filterMap Mark.snapshot) s.world.db.history ∧
    (D.filterMap TxnEvent.committedTxn = [] → s.world.db.tables = T₀) ∧
    (∀ e, r = .error e → D.filterMap TxnEvent.committedTxn ≠ [] → e.isCommitFailure)

variable {p : Nat} {H₀ : List TxnEvent} {J₀ : Journal} {T₀ : Tables}

/-- Stopping between attempts ends the execution: nothing was committed. -/
theorem Between.ended {α : Type} {s : Sys Journal} (hb : Between u c o p H₀ J₀ T₀ s) (e : Fault) :
    Ended (α := α) H₀ J₀ T₀ (.error e) s := by
  obtain ⟨J, hJ, hin, hret⟩ := hb.record
  obtain ⟨D, hD, hnc⟩ := hret.uncommitted
  exact ⟨J, D, hJ, hD, hin, .inl hret, fun _ => hb.tables, fun _ _ h => absurd hnc h⟩

/-- Looking at the token and pausing keep a root execution between attempts. -/
theorem Between.waits (wait : Wait) :
    Strategy.Waits (Between u c o p H₀ J₀ T₀) wait.waiting := by
  intro w hw
  cases wait with
  | blocking => cases hw
  | async t =>
    cases hw
    refine ⟨fun s s' r hb hx => ?_, fun s s' r hb hx => ?_⟩
    · simp only [Cancellation.isCancelled, exec_bind, exec_world, exec_pure, Prod.mk.injEq] at hx
      obtain ⟨rfl, rfl⟩ := hx
      exact ⟨⟨_, rfl⟩, hb⟩
    · rw [Cancellation.suspend_exec, Prod.mk.injEq] at hx
      obtain ⟨rfl, rfl⟩ := hx
      obtain ⟨J, hJ, hin, hret⟩ := hb.record
      exact ⟨rfl, ⟨(Moves.of_tokens hb.live _ _).live, ⟨hb.steady.lock_free, hb.steady.not_saving⟩,
        hb.idle, hb.valid, hb.provider, hb.tables, J, hJ, hin, hret⟩⟩

/-- No strategy retries a commit failure. -/
theorem Fault.not_retried_of_isCommitFailure {e : Fault} (h : e.isCommitFailure) :
    e.isTransient = false ∧ e.isConflict = false := by
  cases e <;> simp_all [Fault.isCommitFailure, Fault.isTransient, Fault.isConflict]

/-- An attempt that failed with a failure a strategy retries committed nothing: it would
otherwise have failed with a commit failure, which no strategy retries. -/
theorem AttemptEnd.uncommitted_of_retried {α : Type} {d : List TxnEvent} {slot : Option Nat}
    {T T' : Tables} {e : Fault} (hend : AttemptEnd d slot T T' (.error e : Except Fault α))
    (hretry : e.isTransient ∨ e.isConflict) : d.filterMap TxnEvent.committedTxn = [] := by
  cases hc : d.filterMap TxnEvent.committedTxn with
  | nil => rfl
  | cons t ts =>
    obtain ⟨ht, hcf⟩ := Fault.not_retried_of_isCommitFailure (hend.failed e rfl (by simp [hc]))
    rcases hretry with h | h
    · rw [ht] at h
      cases h
    · rw [hcf] at h
      cases h

/-- An attempt as the strategy runs it, from a unit between attempts: it never fails itself,
and it ends the execution as `Ended` says, with the unit live and steady and no transaction
open. After a failure that a
strategy retries, the unit is between attempts again: such a failure is no commit failure,
so the attempt committed nothing. -/
theorem Between.once_tries (h : Hooks Journal) (prog : Prog) (options : Options) (wait : Wait) :
    Strategy.Tries (Between u c o p H₀ J₀ T₀)
      (fun r s => Ended H₀ J₀ T₀ r s ∧ Live u c o s.world ∧ Steady u o s.world ∧
        (s.world.contexts[c]?.getD default).txn = none)
      (once h u c options (Prog.rootWork h p prog) wait) id := by
  intro s s' q hb hx
  unfold once at hx
  rw [exec_bind, exec_outcome] at hx
  rcases ha : exec (attempt h u c options (Prog.rootWork h p prog) wait) s with ⟨r, s₁⟩
  have hin : InAttempt c o s.world.db.history s.world :=
    ⟨[], by simp, by rw [hb.valid, hb.idle]; rfl⟩
  obtain ⟨hl₁, hst₁, hprov₁, ⟨J', hJ', hsound⟩, d, hd, hend⟩ :=
    attempt_spec ⟨hb.live, hb.steady, hin, hb.provider⟩ ha
  obtain ⟨J, hJ, hinJ, hret⟩ := hb.record
  obtain ⟨D, hD, hnc⟩ := hret.uncommitted
  obtain ⟨hinJ', hsnap⟩ := Sound.extend (A := s.world.db.history) hinJ hsound
  -- only this attempt can have committed
  have hcommits : ∀ d', (D ++ d').filterMap TxnEvent.committedTxn = d'.filterMap TxnEvent.committedTxn :=
    fun d' => by rw [List.filterMap_append, hnc, List.nil_append]
  rw [ha] at hx
  cases r with
  | ok v =>
    simp only [exec_pure] at hx
    obtain ⟨rfl, rfl⟩ := Prod.mk.inj hx
    have hslot := hend.open_failed v rfl
    refine ⟨_, rfl, ⟨⟨J ++ .entered s.world.db.history :: J', D ++ d, by rw [hJ', hJ]; simp,
      by rw [hd, hD, List.append_assoc], hinJ', ?_, fun hc => ?_, fun _ h => nomatch h⟩, hl₁, hst₁, hslot⟩,
      fun _ h => nomatch h⟩
    · rw [hsnap]
      exact .inr ⟨_, _, d, hret, by simpa [hslot] using hend.events, rfl, hd⟩
    · rw [hend.tables (by rwa [hcommits] at hc), hb.tables]
  | error e =>
    rcases hr : exec (UnitOfWork.resetAfterFailure u c) s₁ with ⟨q', s₂⟩
    obtain ⟨rfl, hk, hu₂, hab₂, hsave₂, hslot₂, htab₂, hhist₂⟩ := UnitOfWork.resetAfterFailure_spec hl₁ hr
    simp only [exec_bind, hr, exec_pure] at hx
    obtain ⟨rfl, rfl⟩ := Prod.mk.inj hx
    obtain ⟨d', hd'⟩ : ∃ d', d' = d ++ (s₁.world.contexts[c]?.getD default).txn.toList.map .rolledBack :=
      ⟨_, rfl⟩
    have hd₂ : s₂.world.db.history = s.world.db.history ++ d' := by
      rw [hhist₂, hd, hd', List.append_assoc]
    have hnc' : d'.filterMap TxnEvent.committedTxn = d.filterMap TxnEvent.committedTxn := by
      rw [hd', List.filterMap_append]
      cases (s₁.world.contexts[c]?.getD default).txn <;> simp [TxnEvent.committedTxn]
    have hrec : s₂.host = J₀ ++ (J ++ .entered s.world.db.history :: J') := by
      rw [hk.host, hJ', hJ]
      simp
    have hst₂ : Steady u o s₂.world := ⟨by rw [hu₂]; exact hst₁.lock_free, hsave₂⟩
    refine ⟨_, rfl, ⟨⟨J ++ .entered s.world.db.history :: J', D ++ d', hrec,
      by rw [hd₂, hD, List.append_assoc], hinJ', ?_, fun hc => ?_, fun e' he hc => ?_⟩, hk.live, hst₂, hslot₂⟩,
      fun e' he hretry => ?_⟩
    · rw [hsnap]
      exact .inr ⟨_, _, d', hret, hd' ▸ hend.events, rfl, hd₂⟩
    · rw [hcommits, hnc'] at hc
      rw [htab₂, hend.tables hc, hb.tables]
    · rw [hcommits, hnc'] at hc
      exact hend.failed e' he hc
    · -- a failure a strategy retries is no commit failure: the attempt committed nothing
      cases he
      have hdnc := AttemptEnd.uncommitted_of_retried hend hretry
      refine ⟨hk.live, hst₂, hslot₂, hab₂,
        by rw [hk.frame.providers, hprov₁]; exact hb.provider, by rw [htab₂, hend.tables hdnc, hb.tables],
        J ++ .entered s.world.db.history :: J', hrec, hinJ', ?_⟩
      rw [hsnap, hd₂]
      exact hret.snoc (hd' ▸ hend.events) (by rw [hnc', hdnc])

/-- An execution that changed neither the journal nor the history ran no attempt. -/
theorem Ended.of_unchanged {α : Type} {r : Except Fault α} {s : Sys Journal} (hh : s.host = J₀)
    (hd : s.world.db.history = H₀) (ht : s.world.db.tables = T₀) : Ended H₀ J₀ T₀ r s :=
  ⟨[], [], by rw [hh, List.append_nil], by rw [hd, List.append_nil], (fun _ h => nomatch h),
    by rw [hd]; exact .inl (.nil _), fun _ => ht, fun _ _ h => absurd rfl h⟩

/-- A live unit whose context holds no transaction is settled. -/
theorem Live.settled {w : World} (hl : Live u c o w) (hidle : (w.contexts[c]?.getD default).txn = none) :
    Settled u w := by
  intro c' hc'
  rw [hl.unit_context] at hc'
  cases hc'
  exact hidle

/-- The root execution of a fresh unit that avoids commit retries, ambient at the head of the
current chain with no external transaction, over a database that keeps its invariant, of work
that stays in its scope through a provider that opens plain scopes: it ends as `Ended` says
from the history, journal and committed tables it started with, leaves the unit settled, and
leaves the unit's lock free when it returns a value. -/
theorem root_ended (h : Hooks Journal) (u p : Nat) (options : Options) (prog : Prog) (wait : Wait)
    {s s' : Sys Journal} {r : Except Fault Reply} (hc : (s.world.unit u).context = none)
    (ho : (s.world.unit u).observer = none) (hfree : (s.world.unit u).lock = .free)
    (hu : u < s.world.units.size) (havoid : (s.world.unit u).options.avoidCommitRetries = true)
    (hext : (s.world.flow.getD s.world.thread).external = 0)
    (hamb : ∃ r, (s.world.flow.getD s.world.thread).head = some r ∧ r < s.world.nodes.size ∧
      ((s.world.nodes[r]?.getD default).kind, (s.world.nodes[r]?.getD default).value) =
        (UnitState.typeName, u) ∧ (s.world.nodes[r]?.getD default).disposed = false)
    (hs : Database.Serial s.world.db) (hprov : (s.world.providers[p]?.getD default).conflict = none)
    (hx : exec (root h u options (Prog.rootWork h p prog) wait) s = (r, s')) :
    Ended s.world.db.history s.host s.world.db.tables r s' ∧ Settled u s'.world ∧
      ∀ v, r = .ok v → (s'.world.units[u]?.getD default).lock = .free := by
  rw [root_eq, exec_bind] at hx
  rcases hp : exec (UnitOfWork.prepareRoot u) s with ⟨_ | c, s₁⟩ <;> rw [hp] at hx
  · -- preparing failed: the host's state and the database are as they were
    obtain ⟨rfl, rfl⟩ := Prod.mk.inj hx
    obtain ⟨hh, hout⟩ := UnitOfWork.prepareRoot_leaves u hp
    simp only [World.outside, Prod.mk.injEq] at hout
    have hsettled : Settled u s.world := fun c hc' => by
      rw [← World.unit_eq, hc] at hc'
      cases hc'
    exact ⟨Ended.of_unchanged hh (by rw [hout.1]) (by rw [hout.1]),
      UnitOfWork.prepareRoot_settled u hsettled hp, fun _ h => by cases h⟩
  · -- the strategy's loop runs from a unit between attempts
    obtain ⟨hh, hout⟩ := UnitOfWork.prepareRoot_leaves u hp
    simp only [World.outside, Prod.mk.injEq] at hout
    obtain ⟨hdb, -, -, -, hprov₁⟩ := hout
    obtain ⟨o, hl₁, hst₁, hidle₁, hvalid₁⟩ :=
      UnitOfWork.prepareRoot_live hc ho hfree hu havoid hext hamb hs hp
    have hb : Between u c o p s.world.db.history s.host s.world.db.tables s₁ :=
      ⟨hl₁, hst₁, hidle₁, hvalid₁, by rw [hprov₁]; exact hprov, by rw [hdb],
        [], by rw [hh, List.append_nil], (fun _ h => by cases h), by rw [hdb]; exact .nil _⟩
    dsimp only at hx
    rw [exec_bind] at hx
    rcases hrun : exec ((Strategy.forExecution options).run wait.waiting
      (once h u c options (Prog.rootWork h p prog) wait) (Strategy.forExecution options).initial) s₁ with ⟨q, s₂⟩
    obtain ⟨⟨x, counts⟩, rfl, ⟨hend, hl₂, hst₂, hidle₂⟩, -⟩ := Strategy.run_tries (Between.waits wait)
      (Between.once_tries h prog options wait) (fun _ e hb => ⟨hb.ended e, hb.live, hb.steady, hb.idle⟩)
      _ _ hb hrun
    rw [hrun] at hx
    simp only [exec_ofExcept, Prod.mk.injEq] at hx
    obtain ⟨rfl, rfl⟩ := hx
    exact ⟨hend, hl₂.settled hidle₂, fun _ _ => hst₂.lock_free⟩

end Execution

/-! ### The scope of a root execution -/

/-- Opening a scope that forces a new unit, or any scope with no unit ambient, creates a unit
from the factory and options and makes it ambient at the head of the current chain: the scope
is a root. -/
theorem Scope.activate_root_exec {option : ScopeOption} {f : Nat} {opts : Options} {s : Sys σ}
    (h : option = .forceCreateNew ∨ s.world.ambient = none) :
    exec (Scope.activate option f opts) s =
      (.ok ⟨s.world.nodes.size, s.world.units.size, true⟩,
        { s with world := World.enter { s.world with
          units := s.world.units.push { factory := f, options := opts } } s.world.units.size }) := by
  rw [Scope.activate, Ambient.activate_create_exec h]
  simp [UnitOfWork.new, World.enter, World.pushEntry]

/-- What opening a root scope leaves: the host's state, the database and the providers as they
were, one more unit, made from the factory and options, and its entry at the head of the chain. -/
theorem Scope.activate_root_spec {option : ScopeOption} (f : Nat) (opts : Options) {s : Sys σ}
    (h : option = .forceCreateNew ∨ s.world.ambient = none) :
    ∃ s₁, exec (Scope.activate option f opts) s =
        (.ok ⟨s.world.nodes.size, s.world.units.size, true⟩, s₁) ∧
      s₁.host = s.host ∧ s₁.world.db = s.world.db ∧ s₁.world.providers = s.world.providers ∧
      s₁.world.units = s.world.units.push { factory := f, options := opts } ∧
      s₁.world.flow.getD s₁.world.thread =
        { (s.world.flow.getD s.world.thread) with head := some s.world.nodes.size } ∧
      s₁.world.nodes = s.world.nodes.push
        { kind := UnitState.typeName, value := s.world.units.size, parent := (s.world.flow.getD s.world.thread).head } :=
  ⟨_, Scope.activate_root_exec h, rfl, by simp, by simp, by simp, by simp [World.enter], by simp [World.enter]⟩

/-- Disposing a settled unit leaves the host's state and the database alone: its context holds
no transaction, so nothing is rolled back. It fails only while the unit's lock is held. -/
theorem UnitOfWork.dispose_settled {h : Hooks σ} {u : Nat} {wait : Wait} {s s' : Sys σ}
    {r : Except Fault Unit} (hs : Settled u s.world) (hx : exec (UnitOfWork.dispose h u wait) s = (r, s')) :
    s'.host = s.host ∧ s'.world.db = s.world.db ∧
      ((s.world.units[u]?.getD default).lock ≠ .held → r = .ok ()) := by
  simp only [UnitOfWork.dispose, UnitOfWork.get, exec_bind, exec_world, exec_pure, World.unit_eq] at hx
  cases hl : (s.world.units[u]?.getD default).lock with
  | held =>
    simp only [hl, exec_throw, Prod.mk.injEq] at hx
    obtain ⟨rfl, rfl⟩ := hx
    exact ⟨rfl, rfl, fun h => absurd rfl h⟩
  | disposed =>
    simp only [hl, exec_pure, Prod.mk.injEq] at hx
    obtain ⟨rfl, rfl⟩ := hx
    exact ⟨rfl, rfl, fun _ => rfl⟩
  | free =>
    simp only [hl] at hx
    rw [exec_bind, UnitOfWork.modify, exec_modifyWorld] at hx
    cases hctx : (s.world.units[u]?.getD default).context with
    | none =>
      simp only [hctx, exec_pure, Prod.mk.injEq] at hx
      obtain ⟨rfl, rfl⟩ := hx
      exact ⟨rfl, rfl, fun _ => rfl⟩
    | some c =>
      -- the slot is empty, whether the context exists or not: every step succeeds
      have hslot : (s.world.contexts[c]?.getD default).txn = none := hs c hctx
      cases hob : (s.world.units[u]?.getD default).observer <;>
      cases hcx : s.world.contexts[c]? <;>
      simp only [hcx, Option.getD_some, Option.getD_none] at hslot <;>
      simp [hctx, hob, hcx, hslot, UnitOfWork.collect, UnitOfWork.modifyObserver,
        Context.removeInterceptor, Context.hasTxn, Context.close, Context.modify, Fault.aggregate,
        Array.getElem?_modify] at hx <;>
      obtain ⟨rfl, rfl⟩ := hx <;>
      exact ⟨rfl, rfl, fun _ => rfl⟩

namespace Execution

/-- Deactivating an entry keeps a unit settled. -/
theorem Settled.deactivated {u n : Nat} {w : World} (hs : Settled u w) : Settled u (w.deactivated n) := by
  intro c hc
  simpa [World.slot, World.deactivated] using hs c (by simpa [World.deactivated] using hc)

end Execution

/-- Disposing the scope of a root whose unit is settled leaves the host's state and the
database alone, and fails only while the unit's lock is held. -/
theorem Scope.dispose_root_settled {h : Hooks σ} {wait : Wait} {n u : Nat} {s s' : Sys σ}
    {r : Except Fault Unit} (hs : Settled u s.world)
    (hx : exec (Scope.dispose h ⟨n, u, true⟩ wait) s = (r, s')) :
    s'.host = s.host ∧ s'.world.db = s.world.db ∧
      ((s.world.units[u]?.getD default).lock ≠ .held → r = .ok ()) := by
  rw [Scope.dispose, exec_bind, Scope.deactivate_exec] at hx
  by_cases hd : (s.world.nodes[n]?.getD default).disposed = true
  · -- deactivated before: nothing to do
    rw [if_pos hd] at hx
    obtain ⟨rfl, rfl⟩ := Prod.mk.inj hx
    exact ⟨rfl, rfl, fun _ => rfl⟩
  · rw [if_neg hd] at hx
    obtain ⟨hh, hdb, hok⟩ := UnitOfWork.dispose_settled hs.deactivated hx
    exact ⟨hh, by rw [hdb]; simp [World.deactivated], by simpa [World.deactivated] using hok⟩

/-- A settled outcome is the work's own when cleaning up cannot fail after work that succeeded. -/
theorem settle_of_ok {α : Type} {q : Except Fault α} {d : Except Fault Unit} (h : ∀ v, q = .ok v → d = .ok ()) :
    ∀ e, settle q d = .error e → q = .error e := by
  intro e he
  cases q with
  | error e' => exact he
  | ok v =>
    rw [h v rfl] at he
    cases he

namespace Execution

variable {H₀ : List TxnEvent} {J₀ : Journal} {T₀ : Tables}

/-- Steps that leave the journal and the database alone, and report a failure only if the
execution failed so, keep how it ended. -/
theorem Ended.of_same {α : Type} {r r' : Except Fault α} {s s' : Sys Journal} (he : Ended H₀ J₀ T₀ r s)
    (hh : s'.host = s.host) (hdb : s'.world.db = s.world.db) (hr : ∀ e, r' = .error e → r = .error e) :
    Ended H₀ J₀ T₀ r' s' := by
  obtain ⟨J, D, hJ, hD, hin, hat, htab, hfail⟩ := he
  refine ⟨J, D, by rw [hh, hJ], by rw [hdb, hD], hin, by rw [hdb]; exact hat, fun hc => ?_,
    fun e he' => hfail e (hr e he')⟩
  rw [hdb]
  exact htab hc

/-- A root scope opened through provider `p`, forcing a new unit or with none ambient: the new
unit's root execution ends as `Ended` says, and disposing the scope changes neither the journal
nor the database. An open external transaction stops the execution before anything runs. -/
theorem inScope_root_ended (h : Hooks Journal) (p : Nat) (option : ScopeOption) (prog : Prog)
    (wait : Wait) {s s' : Sys Journal} {r : Except Fault Reply}
    (hroot : option = .forceCreateNew ∨ s.world.ambient = none)
    (hprov : (s.world.providers[p]?.getD default).conflict = none)
    (havoid : (s.world.providers[p]?.getD default).options.avoidCommitRetries = true)
    (hs : Database.Serial s.world.db)
    (hx : exec (inScope h p option (Prog.rootWork h p prog) wait) s = (r, s')) :
    Ended s.world.db.history s.host s.world.db.tables r s' := by
  simp only [inScope, exec_bind] at hx
  by_cases hext : (s.world.flow.getD s.world.thread).external = 0
  · rw [UnitOfWork.ensureNoExternal_exec hext] at hx
    simp only [exec_world, World.provider_eq, hprov] at hx
    obtain ⟨s₁, hact, hh₁, hdb₁, hprov₁, hunits₁, hchain₁, hnodes₁⟩ := Scope.activate_root_spec
      (s.world.providers[p]?.getD default).factory (s.world.providers[p]?.getD default).options hroot
    rw [hact] at hx
    dsimp only at hx
    rw [if_pos rfl, exec_outcome] at hx
    have hnew : s₁.world.units[s.world.units.size]?.getD default =
        { factory := (s.world.providers[p]?.getD default).factory,
          options := (s.world.providers[p]?.getD default).options } := by
      rw [hunits₁]
      simp
    rcases hroot : exec (root h s.world.units.size (s.world.providers[p]?.getD default).options
      (Prog.rootWork h p prog) wait) s₁ with ⟨q, s₂⟩
    obtain ⟨hend, hsettled, hlock⟩ := root_ended h s.world.units.size p _ prog wait
      (by rw [World.unit_eq, hnew]) (by rw [World.unit_eq, hnew]) (by rw [World.unit_eq, hnew])
      (by rw [hunits₁]; simp) (by rw [World.unit_eq, hnew]; exact havoid) (by rw [hchain₁]; exact hext)
      ⟨s.world.nodes.size, by rw [hchain₁], by rw [hnodes₁]; simp, by rw [hnodes₁]; simp,
        by rw [hnodes₁]; simp⟩
      (by rw [hdb₁]; exact hs) (by rw [hprov₁]; exact hprov) hroot
    rw [hdb₁, hh₁] at hend
    -- disposing the scope disposes the settled unit; after a value its lock is free
    rw [hroot] at hx
    dsimp only at hx
    rw [exec_outcome] at hx
    rcases hdisp : exec (Scope.dispose h ⟨s.world.nodes.size, s.world.units.size, true⟩ wait) s₂ with ⟨d, s₃⟩
    obtain ⟨hh₃, hdb₃, hok⟩ := Scope.dispose_root_settled hsettled hdisp
    rw [hdisp] at hx
    dsimp only at hx
    rw [exec_ofExcept] at hx
    obtain ⟨rfl, rfl⟩ := Prod.mk.inj hx
    exact Ended.of_same hend hh₃ hdb₃ (settle_of_ok fun v hv => hok (by rw [hlock v hv]; intro h; cases h))
  · -- an external transaction is open: nothing runs
    simp [UnitOfWork.ensureNoExternal, Nat.pos_of_ne_zero hext] at hx
    obtain ⟨rfl, rfl⟩ := hx
    exact Ended.of_unchanged rfl rfl rfl

/-- A root execution through provider `p`, blocking or asynchronous, ends as `Ended` says. An
asynchronous one started outside any flow runs in a flow of the thread's chain, where the same
unit, if any, is ambient. -/
theorem execute_root_ended (h : Hooks Journal) (p : Nat) (option : ScopeOption) (prog : Prog)
    (wait : Wait) {s s' : Sys Journal} {r : Except Fault Reply}
    (hroot : option = .forceCreateNew ∨ s.world.ambient = none)
    (hprov : (s.world.providers[p]?.getD default).conflict = none)
    (havoid : (s.world.providers[p]?.getD default).options.avoidCommitRetries = true)
    (hs : Database.Serial s.world.db)
    (hx : exec (execute h p option (Prog.rootWork h p prog) wait) s = (r, s')) :
    Ended s.world.db.history s.host s.world.db.tables r s' := by
  rw [execute_eq] at hx
  cases wait with
  | blocking => exact inScope_root_ended h p option prog _ hroot hprov havoid hs hx
  | async t =>
    cases hf : s.world.flow with
    | some f =>
      rw [Ambient.inFlow_exec_some (by simp [hf])] at hx
      exact inScope_root_ended h p option prog _ hroot hprov havoid hs hx
    | none =>
      rw [Ambient.inFlow_exec_none hf] at hx
      obtain ⟨rfl, rfl⟩ := Prod.mk.inj hx
      have hroot₀ : option = .forceCreateNew ∨
          ({ s.world with flow := some s.world.thread } : World).ambient = none :=
        hroot.imp_right fun hamb => by simpa [World.ambient, World.chain, hf] using hamb
      exact Ended.of_same (inScope_root_ended (s := { s with world := { s.world with flow := some s.world.thread } })
        h p option prog _ hroot₀ hprov havoid hs rfl) rfl rfl fun _ he => he

/-- A root execution is all or nothing. Work that stays in its scope (operations on the
scope's context, aborts, and executions nested in it at any depth) runs as a root through
provider `p`, blocking or asynchronous, forcing a new unit under whatever unit is ambient or
with any option when none is, under the strategy of the provider's options, which avoid commit
retries. Whatever the work does and however many
attempts run: every operation it records ran inside the transaction of the unit's context,
which the context began itself; the attempts, started at the histories the work recorded,
each began at most one transaction and ended it; at most one transaction is committed over
the whole execution; the committed tables are as they were unless one was; and an execution
that committed one and still failed, failed with a commit failure. -/
theorem root_execution_is_all_or_nothing (h : Hooks Journal) (p : Nat) (option : ScopeOption)
    (prog : Prog) (wait : Wait) {s s' : Sys Journal} {r : Except Fault Reply}
    (hroot : option = .forceCreateNew ∨ s.world.ambient = none)
    (hprov : (s.world.providers[p]?.getD default).conflict = none)
    (havoid : (s.world.providers[p]?.getD default).options.avoidCommitRetries = true)
    (hs : Database.Serial s.world.db)
    (hx : exec (execute h p option (Prog.rootWork h p prog) wait) s = (r, s')) :
    ∃ J D, s'.host = s.host ++ J ∧ s'.world.db.history = s.world.db.history ++ D ∧
      (∀ m ∈ J, m.InTxn) ∧ Attempts s.world.db.history (J.filterMap Mark.snapshot) s'.world.db.history ∧
      (D.filterMap TxnEvent.committedTxn).length ≤ 1 ∧
      (D.filterMap TxnEvent.committedTxn = [] → s'.world.db.tables = s.world.db.tables) ∧
      (∀ e, r = .error e → D.filterMap TxnEvent.committedTxn ≠ [] → e.isCommitFailure) := by
  obtain ⟨J, D, hJ, hD, hin, hat, htab, hfail⟩ := execute_root_ended h p option prog wait hroot hprov havoid hs hx
  -- the attempts add `D` to the history, and commit at most once
  obtain ⟨D', hD', hle⟩ := hat.commits_le_one
  have hsame : D' = D := List.append_cancel_left (hD'.symm.trans hD)
  rw [hsame] at hle
  exact ⟨J, D, hJ, hD, hin, hat, hle, htab, hfail⟩

/-- One save, run as a root that forces a new unit beneath a manual unit already ambient,
through a provider with the default options: the execution is all or nothing. -/
theorem forced_root_save_is_all_or_nothing :
    ∃ r s', exec (execute Hooks.quiet 0 .forceCreateNew
        (Prog.rootWork Hooks.quiet 0 (.op .save .blocking fun _ => .done .unit)) .blocking)
        { world := { providers := #[{ factory := 0, options := {} }],
                     units := #[{ factory := 0, options := {} }],
                     nodes := #[{ kind := UnitState.typeName, value := 0, parent := none }],
                     thread := { head := some 0 } },
          host := [] } = (r, s') ∧
      ∃ J D, s'.host = [] ++ J ∧ s'.world.db.history = [] ++ D ∧ (∀ m ∈ J, m.InTxn) ∧
        Attempts [] (J.filterMap Mark.snapshot) s'.world.db.history ∧
        (D.filterMap TxnEvent.committedTxn).length ≤ 1 ∧
        (D.filterMap TxnEvent.committedTxn = [] → s'.world.db.tables = []) ∧
        (∀ e, r = .error e → D.filterMap TxnEvent.committedTxn ≠ [] → e.isCommitFailure) :=
  ⟨_, _, (Prod.eta _).symm, root_execution_is_all_or_nothing Hooks.quiet 0 _ _ .blocking (.inl rfl)
    rfl rfl (Database.Serial.new true) (Prod.eta _).symm⟩

end Execution

end ScopedWork
