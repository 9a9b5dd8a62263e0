import ScopedWork.Strategy
import ScopedWork.Proofs.Act

/-!
# Attempts of a root execution

A strategy runs the attempt of a root execution again after a failure it retries. Its loop
rule is stated once for any attempt: if from a state `P` the attempt returns its outcome
without failing, with `Q` of it, and is back in `P` whenever the outcome is a failure the
strategy may retry, then the whole run ends with `Q`, whatever the strategy, its counts and
the cancellation. `Reaches` names the states at which a run starts the attempt; an attempt
started there that fails with a fault no strategy retries is the last one.
-/

namespace ScopedWork

open Act

variable {σ : Type}

/-! ### The loop rule of strategies -/

namespace Strategy

variable {α β : Type} {P : Sys σ → Prop} {Q : Except Fault α → Sys σ → Prop}

/-- Looking at the cancellation token and pausing never fail and keep `P`. -/
def Waits (P : Sys σ → Prop) (wait : Option (Waiting (Act σ))) : Prop :=
  ∀ w, wait = some w →
    (∀ ⦃s s' r⦄, P s → exec w.cancelled s = (r, s') → (∃ b, r = .ok b) ∧ P s') ∧
    (∀ ⦃s s' r⦄, P s → exec w.pause s = (r, s') → r = .ok () ∧ P s')

/-- How a run may end: with an outcome of which `Q` holds, and back in `P` if a strategy
could run again after it. -/
def Ends (P : Sys σ → Prop) (Q : Except Fault α → Sys σ → Prop) (x : Except Fault α)
    (s : Sys σ) : Prop :=
  Q x s ∧ ∀ e, x = .error e → e.isTransient ∨ e.isConflict → P s

/-- From `P`, the operation returns without failing, and the outcome it carries ends as
`Ends` says. -/
def Tries (P : Sys σ → Prop) (Q : Except Fault α → Sys σ → Prop) (x : Act σ β)
    (outcome : β → Except Fault α) : Prop :=
  ∀ ⦃s s' r⦄, P s → exec x s = (r, s') → ∃ b, r = .ok b ∧ Ends P Q (outcome b) s'

/-- A failure a strategy gives up with, from `P`: no strategy retries it. -/
theorem ends_of_final (hPQ : ∀ s e, P s → Q (.error e) s) {s : Sys σ} {e : Fault} (hp : P s)
    (he : e.isTransient = false) (hc : e.isConflict = false) : Ends P Q (.error e) s :=
  ⟨hPQ s e hp, fun _ h hr => by cases h; simp [he, hc] at hr⟩

/-- The conflict decorator keeps the contract of its inner strategy: it goes again only
after a conflict, from which the inner run came back to `P`. -/
theorem retryConflicts_tries {runInner : List Nat → Act σ (Except Fault α × List Nat)}
    (hinner : ∀ inner, Tries P Q (runInner inner) Prod.fst) (hPQ : ∀ s e, P s → Q (.error e) s) :
    ∀ budget retries inner, Tries P Q (retryConflicts runInner budget retries inner) Prod.fst
  | 0, retries, inner => by
    intro s s' r hp hx
    simp only [retryConflicts, exec_bind] at hx
    rcases hr : exec (runInner inner) s with ⟨q, s₁⟩
    obtain ⟨⟨x, inner'⟩, rfl, hq, hback⟩ := hinner inner hp hr
    simp only [hr] at hx
    cases x with
    | ok a =>
      obtain ⟨rfl, rfl⟩ := Prod.mk.inj hx
      exact ⟨_, rfl, hq, hback⟩
    | error e =>
      by_cases hc : e.isConflict = true
      · simp only [hc, if_true] at hx
        obtain ⟨rfl, rfl⟩ := Prod.mk.inj hx
        exact ⟨_, rfl, ends_of_final hPQ (hback e rfl (.inr hc)) rfl rfl⟩
      · simp only [hc, Bool.false_eq_true, if_false] at hx
        obtain ⟨rfl, rfl⟩ := Prod.mk.inj hx
        exact ⟨_, rfl, hq, hback⟩
  | budget + 1, retries, inner => by
    intro s s' r hp hx
    simp only [retryConflicts, exec_bind] at hx
    rcases hr : exec (runInner inner) s with ⟨q, s₁⟩
    obtain ⟨⟨x, inner'⟩, rfl, hq, hback⟩ := hinner inner hp hr
    simp only [hr] at hx
    cases x with
    | ok a =>
      obtain ⟨rfl, rfl⟩ := Prod.mk.inj hx
      exact ⟨_, rfl, hq, hback⟩
    | error e =>
      by_cases hc : e.isConflict = true
      · simp only [hc, if_true] at hx
        exact retryConflicts_tries hinner hPQ budget (retries + 1) inner' (hback e rfl (.inr hc)) hx
      · simp only [hc, Bool.false_eq_true, if_false] at hx
        obtain ⟨rfl, rfl⟩ := Prod.mk.inj hx
        exact ⟨_, rfl, hq, hback⟩

section Loop

variable {wait : Option (Waiting (Act σ))} {attempt : Act σ (Except Fault α)}
  (hw : Waits P wait) (ht : Tries P Q attempt id) (hPQ : ∀ s e, P s → Q (.error e) s)
include hw

theorem cancelledNow_spec {s s' : Sys σ} {r : Except Fault Bool} (hp : P s)
    (hx : exec (cancelledNow wait) s = (r, s')) : (∃ b, r = .ok b) ∧ P s' := by
  cases wait with
  | none =>
    obtain ⟨rfl, rfl⟩ := Prod.mk.inj hx
    exact ⟨⟨false, rfl⟩, hp⟩
  | some w => exact (hw w rfl).1 hp hx

include hPQ

/-- Stopping as cancelled after the token was looked at. -/
theorem cancelled_ends {s s' : Sys σ} (hp : P s) {b : Bool}
    (hx : exec (cancelledNow wait) s = (.ok b, s')) : P s' ∧ Ends P Q (.error .cancelled) s' := by
  have hp' := (cancelledNow_spec hw hp hx).2
  exact ⟨hp', ends_of_final hPQ hp' rfl rfl⟩

include ht

/-- Retrying transient failures keeps the attempt's contract. -/
theorem retryTransient_tries : ∀ budget, Tries P Q (retryTransient wait attempt budget) id
  | 0 => by
    intro s s' r hp hx
    simp only [retryTransient, exec_bind] at hx
    rcases hc : exec (cancelledNow wait) s with ⟨q, s₁⟩
    obtain ⟨⟨b, rfl⟩, hp₁⟩ := cancelledNow_spec hw hp hc
    simp only [hc] at hx
    cases b with
    | true =>
      obtain ⟨rfl, rfl⟩ := Prod.mk.inj hx
      exact ⟨_, rfl, (cancelled_ends hw hPQ hp hc).2⟩
    | false => exact ht hp₁ hx
  | budget + 1 => by
    intro s s' r hp hx
    simp only [retryTransient, exec_bind] at hx
    rcases hc : exec (cancelledNow wait) s with ⟨q, s₁⟩
    obtain ⟨⟨b, rfl⟩, hp₁⟩ := cancelledNow_spec hw hp hc
    simp only [hc] at hx
    cases b with
    | true =>
      obtain ⟨rfl, rfl⟩ := Prod.mk.inj hx
      exact ⟨_, rfl, (cancelled_ends hw hPQ hp hc).2⟩
    | false =>
    simp only [Bool.false_eq_true, if_false, exec_bind] at hx
    rcases ha : exec attempt s₁ with ⟨q, s₂⟩
    obtain ⟨x, rfl, hq, hback⟩ := ht hp₁ ha
    simp only [ha] at hx
    cases x with
    | ok a =>
      obtain ⟨rfl, rfl⟩ := Prod.mk.inj hx
      exact ⟨_, rfl, hq, fun _ h => nomatch h⟩
    | error e =>
    by_cases htr : e.isTransient = true
    · -- a transient failure: back in `P`, look at the token, pause and go again
      have hp₂ := hback e rfl (.inl htr)
      simp only [htr, Bool.not_true, Bool.false_eq_true, if_false, exec_bind] at hx
      rcases hc₂ : exec (cancelledNow wait) s₂ with ⟨q, s₃⟩
      obtain ⟨⟨b₂, rfl⟩, hp₃⟩ := cancelledNow_spec hw hp₂ hc₂
      simp only [hc₂] at hx
      cases b₂ with
      | true =>
        obtain ⟨rfl, rfl⟩ := Prod.mk.inj hx
        exact ⟨_, rfl, (cancelled_ends hw hPQ hp₂ hc₂).2⟩
      | false =>
      simp only [Bool.false_eq_true, if_false] at hx
      cases hwait : wait with
      | none => exact retryTransient_tries budget hp₃ (hwait ▸ hx)
      | some w =>
        simp only [hwait, exec_bind] at hx
        rcases hpz : exec w.pause s₃ with ⟨q, s₄⟩
        obtain ⟨rfl, hp₄⟩ := (hw w hwait).2 hp₃ hpz
        simp only [hpz] at hx
        exact retryTransient_tries budget hp₄ (hwait ▸ hx)
    · simp only [htr, Bool.not_false, if_true] at hx
      obtain ⟨rfl, rfl⟩ := Prod.mk.inj hx
      exact ⟨_, rfl, hq, hback⟩

/-- The loop rule: under every strategy, with any counts, the run keeps the attempt's
contract. -/
theorem run_tries : ∀ (strategy : Strategy) (counts : List Nat),
    Tries P Q (strategy.run wait attempt counts) Prod.fst
  | .once, counts => by
    intro s s' r hp hx
    simp only [run, exec_bind] at hx
    rcases hc : exec (cancelledNow wait) s with ⟨q, s₁⟩
    obtain ⟨⟨b, rfl⟩, hp₁⟩ := cancelledNow_spec hw hp hc
    simp only [hc] at hx
    cases b with
    | true =>
      obtain ⟨rfl, rfl⟩ := Prod.mk.inj hx
      exact ⟨_, rfl, (cancelled_ends hw hPQ hp hc).2⟩
    | false =>
      simp only [Bool.false_eq_true, if_false, exec_bind] at hx
      rcases ha : exec attempt s₁ with ⟨q, s₂⟩
      obtain ⟨x, rfl, hends⟩ := ht hp₁ ha
      simp only [ha, exec_pure] at hx
      obtain ⟨rfl, rfl⟩ := Prod.mk.inj hx
      exact ⟨_, rfl, hends⟩
  | .transient p, counts => by
    intro s s' r hp hx
    simp only [run, exec_bind] at hx
    rcases ha : exec (retryTransient wait attempt p.maxRetries) s with ⟨q, s₁⟩
    obtain ⟨x, rfl, hends⟩ := retryTransient_tries hw ht hPQ _ hp ha
    simp only [ha, exec_pure] at hx
    obtain ⟨rfl, rfl⟩ := Prod.mk.inj hx
    exact ⟨_, rfl, hends⟩
  | .onConflict inner, counts =>
    retryConflicts_tries (fun cs => run_tries inner cs) hPQ _ _ _

end Loop

/-! ### Runs of two attempts that run alike from `P` -/

/-- The conflict decorator over two inner runs that run alike from `P` runs alike. -/
theorem retryConflicts_congr {runInner runInner' : List Nat → Act σ (Except Fault α × List Nat)}
    (hinner : ∀ inner, Tries P (fun _ _ => True) (runInner inner) Prod.fst)
    (hsame : ∀ inner s, P s → exec (runInner inner) s = exec (runInner' inner) s) :
    ∀ budget retries inner s, P s → exec (retryConflicts runInner budget retries inner) s =
      exec (retryConflicts runInner' budget retries inner) s
  | 0, retries, inner, s, hp => by
    simp only [retryConflicts, exec_bind, hsame inner s hp]
  | budget + 1, retries, inner, s, hp => by
    simp only [retryConflicts, exec_bind]
    rw [← hsame inner s hp]
    rcases hr : exec (runInner inner) s with ⟨q, s₁⟩
    obtain ⟨⟨x, inner'⟩, rfl, -, hback⟩ := hinner inner hp hr
    cases x with
    | ok a => rfl
    | error e =>
      by_cases hc : e.isConflict = true
      · simp only [hc, if_true]
        exact retryConflicts_congr hinner hsame budget (retries + 1) inner' s₁ (hback e rfl (.inr hc))
      · simp only [hc, Bool.false_eq_true, if_false]

section Congr

variable {wait : Option (Waiting (Act σ))} {attempt attempt' : Act σ (Except Fault α)}
  (hw : Waits P wait) (ht : Tries P (fun _ _ => True) attempt id)
  (hsame : ∀ s, P s → exec attempt s = exec attempt' s)
include hw ht hsame

theorem retryTransient_congr : ∀ budget s, P s →
    exec (retryTransient wait attempt budget) s = exec (retryTransient wait attempt' budget) s
  | 0, s, hp => by
    simp only [retryTransient, exec_bind]
    rcases hc : exec (cancelledNow wait) s with ⟨q, s₁⟩
    obtain ⟨⟨b, rfl⟩, hp₁⟩ := cancelledNow_spec hw hp hc
    cases b with
    | true => rfl
    | false => exact hsame s₁ hp₁
  | budget + 1, s, hp => by
    simp only [retryTransient, exec_bind]
    rcases hc : exec (cancelledNow wait) s with ⟨q, s₁⟩
    obtain ⟨⟨b, rfl⟩, hp₁⟩ := cancelledNow_spec hw hp hc
    cases b with
    | true => rfl
    | false =>
    simp only [Bool.false_eq_true, if_false, exec_bind]
    rw [← hsame s₁ hp₁]
    rcases ha : exec attempt s₁ with ⟨q, s₂⟩
    obtain ⟨x, rfl, -, hback⟩ := ht hp₁ ha
    cases x with
    | ok a => rfl
    | error e =>
    by_cases htr : e.isTransient = true
    · -- back in `P` after a transient failure: both go on alike
      have hp₂ := hback e rfl (.inl htr)
      simp only [htr, Bool.not_true, Bool.false_eq_true, if_false, exec_bind]
      rcases hc₂ : exec (cancelledNow wait) s₂ with ⟨q, s₃⟩
      obtain ⟨⟨b₂, rfl⟩, hp₃⟩ := cancelledNow_spec hw hp₂ hc₂
      cases b₂ with
      | true => rfl
      | false =>
      simp only [Bool.false_eq_true, if_false]
      have step := retryTransient_congr budget
      cases hwait : wait with
      | none =>
        simp only [hwait] at step ⊢
        exact step s₃ hp₃
      | some w =>
        simp only [hwait, exec_bind] at step ⊢
        rcases hpz : exec w.pause s₃ with ⟨q, s₄⟩
        obtain ⟨rfl, hp₄⟩ := (hw w hwait).2 hp₃ hpz
        exact step s₄ hp₄
    · simp only [htr, Bool.not_false, if_true]

/-- Two attempts that run alike from `P` give runs that run alike from `P`, under every
strategy and with any counts: a strategy starts every attempt from `P`. -/
theorem run_congr : ∀ (strategy : Strategy) (counts : List Nat) s, P s →
    exec (strategy.run wait attempt counts) s = exec (strategy.run wait attempt' counts) s
  | .once, counts, s, hp => by
    simp only [run, exec_bind]
    rcases hc : exec (cancelledNow wait) s with ⟨q, s₁⟩
    obtain ⟨⟨b, rfl⟩, hp₁⟩ := cancelledNow_spec hw hp hc
    cases b with
    | true => rfl
    | false => simp only [Bool.false_eq_true, if_false, exec_bind, hsame s₁ hp₁]
  | .transient p, counts, s, hp => by
    simp only [run, exec_bind, retryTransient_congr hw ht hsame p.maxRetries s hp]
  | .onConflict inner, counts, s, hp =>
    retryConflicts_congr (fun cs => run_tries hw ht (fun _ _ _ => trivial) inner cs)
      (fun cs s hp => run_congr inner cs s hp) _ _ _ s hp

end Congr

/-! ### Where a run ends

`Reaches` says at which states a run of a strategy starts the attempt: right after looking at
the token, and again after every failure the strategy retries. An attempt that fails with a
fault no strategy retries is the last one: the run ends with that fault, in the state the
attempt left. -/

section Final

variable {α : Type} (wait : Option (Waiting (Act σ))) (attempt : Act σ (Except Fault α))

/-- Letting other tasks run before a transient retry, if the run waits asynchronously. -/
def pauseOf : Option (Waiting (Act σ)) → Act σ Unit
  | some w => w.pause
  | none => pure ()

/-- The transient loop with `n` retries left, started at `s`, starts the attempt at `s₁`:
right after looking at the token, or after a transient failure, a look at the token and a
pause. -/
inductive TransientReaches : Nat → Sys σ → Sys σ → Prop
  | now {n : Nat} {s s₁ : Sys σ} :
      exec (cancelledNow wait) s = (.ok false, s₁) → TransientReaches n s s₁
  | retry {n : Nat} {s s₁ s₂ s₃ s₄ s₅ : Sys σ} {e : Fault} :
      exec (cancelledNow wait) s = (.ok false, s₁) → exec attempt s₁ = (.ok (.error e), s₂) →
      e.isTransient = true → exec (cancelledNow wait) s₂ = (.ok false, s₃) →
      exec (pauseOf wait) s₃ = (.ok (), s₄) → TransientReaches n s₄ s₅ →
      TransientReaches (n + 1) s s₅

variable {wait attempt}

theorem TransientReaches.final {n : Nat} {s s₁ s₂ : Sys σ} {f : Fault}
    (hr : TransientReaches wait attempt n s s₁) (ha : exec attempt s₁ = (.ok (.error f), s₂))
    (hf : f.isTransient = false) :
    exec (retryTransient wait attempt n) s = (.ok (.error f), s₂) := by
  induction hr with
  | @now n s s₁ hc =>
    cases n with
    | zero => simp only [retryTransient, exec_bind, hc, Bool.false_eq_true, if_false, ha]
    | succ n =>
      simp only [retryTransient, exec_bind, hc, Bool.false_eq_true, if_false, ha, hf, Bool.not_false,
        if_true, exec_pure]
  | retry hc ha' he hc' hp _ ih =>
    simp only [retryTransient, exec_bind, hc, Bool.false_eq_true, if_false, ha', he, Bool.not_true, hc']
    cases wait with
    | none =>
      obtain ⟨-, rfl⟩ := Prod.mk.inj hp
      exact ih ha
    | some w =>
      simp only [exec_bind, show exec w.pause _ = _ from hp]
      exact ih ha

/-- The conflict decorator with `n` retries left and count `r`, over inner runs that start
the attempt where `R` says, started at `s`, starts the attempt at `s₁`: in the current inner
run, or in a later one after a conflict. -/
inductive ConflictReaches (R : List Nat → Sys σ → Sys σ → Prop)
    (runInner : List Nat → Act σ (Except Fault α × List Nat)) :
    Nat → Nat → List Nat → Sys σ → Sys σ → Prop
  | now {n r : Nat} {inner : List Nat} {s s₁ : Sys σ} :
      R inner s s₁ → ConflictReaches R runInner n r inner s s₁
  | retry {n r : Nat} {inner inner' : List Nat} {s s₁ s₂ : Sys σ} {e : Fault} :
      exec (runInner inner) s = (.ok (.error e, inner'), s₂) → e.isConflict = true →
      ConflictReaches R runInner n (r + 1) inner' s₂ s₁ → ConflictReaches R runInner (n + 1) r inner s s₁

theorem ConflictReaches.final {R : List Nat → Sys σ → Sys σ → Prop}
    {runInner : List Nat → Act σ (Except Fault α × List Nat)} {f : Fault} {s₂ : Sys σ}
    (hR : ∀ inner s s₁, R inner s s₁ → exec attempt s₁ = (.ok (.error f), s₂) →
      ∃ inner', exec (runInner inner) s = (.ok (.error f, inner'), s₂))
    {n r : Nat} {inner : List Nat} {s s₁ : Sys σ} (hr : ConflictReaches R runInner n r inner s s₁)
    (ha : exec attempt s₁ = (.ok (.error f), s₂)) (hc : f.isConflict = false) :
    ∃ counts, exec (retryConflicts runInner n r inner) s = (.ok (.error f, counts), s₂) := by
  induction hr with
  | @now n r inner s s₁ h =>
    obtain ⟨inner', hi⟩ := hR inner s s₁ h ha
    cases n with
    | zero => exact ⟨r :: inner', by simp only [retryConflicts, exec_bind, hi, hc, Bool.false_eq_true, if_false, exec_pure]⟩
    | succ n => exact ⟨r :: inner', by simp only [retryConflicts, exec_bind, hi, hc, Bool.false_eq_true, if_false, exec_pure]⟩
  | retry hi he _ ih =>
    obtain ⟨counts, h⟩ := ih ha
    exact ⟨counts, by simp only [retryConflicts, exec_bind, hi, he, if_true, h]⟩

variable (wait attempt) in
/-- The run of `strategy` with `counts`, started at `s`, starts the attempt at `s₁`. -/
def Reaches : Strategy → List Nat → Sys σ → Sys σ → Prop
  | .once, _ => fun s s₁ => exec (cancelledNow wait) s = (.ok false, s₁)
  | .transient p, _ => TransientReaches wait attempt p.maxRetries
  | .onConflict inner, counts => ConflictReaches (Reaches inner) (run wait attempt inner)
      (conflictRetries - counts.headD 0) (counts.headD 0) counts.tail

/-- An attempt that fails with a fault no strategy retries is the last: the run ends with
that fault, in the state the attempt left. -/
theorem Reaches.final {f : Fault} {s₂ : Sys σ} (ht : f.isTransient = false) (hc : f.isConflict = false) :
    ∀ {strategy : Strategy} {counts : List Nat} {s s₁ : Sys σ}, Reaches wait attempt strategy counts s s₁ →
      exec attempt s₁ = (.ok (.error f), s₂) →
      ∃ counts', exec (strategy.run wait attempt counts) s = (.ok (.error f, counts'), s₂)
  | .once, counts, s, s₁, hr, ha => ⟨counts, by
      simp only [run, exec_bind, show exec (cancelledNow wait) s = _ from hr, Bool.false_eq_true, if_false,
        ha, exec_pure]⟩
  | .transient p, counts, s, s₁, hr, ha => ⟨counts, by
      simp only [run, exec_bind, TransientReaches.final hr ha ht, exec_pure]⟩
  | .onConflict inner, counts, s, s₁, hr, ha =>
    ConflictReaches.final (fun _ _ _ h ha => Reaches.final ht hc h ha) hr ha hc

end Final

end Strategy

end ScopedWork
