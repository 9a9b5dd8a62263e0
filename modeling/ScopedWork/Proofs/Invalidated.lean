import ScopedWork.Proofs.Held

/-!
# An invalidated unit of work reaches no database

Rolling back a unit of work and invalidating it empties its context's connection and makes
its observer refuse. From then on, until the invalidation is lifted, no call on the context
reaches the database. Beginning a transaction and creating a command first ask every
interceptor, and the observer refuses before any of its listeners runs. A save asks the
observer to start the unit's transaction, which asks again. Finding, counting and raw commands
create a command before anything else. Committing and rolling back find no transaction, and
closing has none to roll back. Operations on the tracker alone go on as before.

`Sealed J u c o` says so of a world: unit `u` uses context `c`, whose only observer is the
unit's observer `o`; `o` refuses; the connection holds no transaction; and the database
satisfies `J`. Every call on `c` keeps it, whatever comes of the call, as long as the host's
interceptors keep it: whatever they do to the database, the call adds nothing of its own.

The observer refuses only calls that begin after the invalidation. A start listener that
invalidates the unit runs after the check of the transaction start that called it, so that
start goes on: it began in a world that was not sealed.
-/

namespace ScopedWork

open Act

variable {σ : Type}

/-! ## Operations that refuse

`Keeps` follows what an operation does to the world. `Admits P I x` adds that every failure of
`x` from a world with `I` is one that `P` allows, and `Refuses P I x` that `x` fails so every
time. A bind refuses when its first operation refuses, or admits and is followed by a refusal;
a loop refuses when one of its rounds refuses and every round admits. -/

namespace Act

variable {α β γ : Type} {P Q : Fault → Prop} {I : World → Prop}

/-- `x` keeps `I`, and from a world with `I` it fails only with faults that `P` allows. -/
structure Admits (P : Fault → Prop) (I : World → Prop) (x : Act σ α) : Prop where
  keeps : Keeps I x
  fails : ∀ ⦃s s' : Sys σ⦄ ⦃e : Fault⦄, I s.world → exec x s = (.error e, s') → P e

/-- From a world with `I`, `x` fails with a fault that `P` allows, in a world with `I`. -/
def Refuses (P : Fault → Prop) (I : World → Prop) (x : Act σ α) : Prop :=
  ∀ s : Sys σ, I s.world → ∃ e s', exec x s = (.error e, s') ∧ P e ∧ I s'.world

theorem Admits.mono {x : Act σ α} (hx : Admits P I x) (hPQ : ∀ e, P e → Q e) : Admits Q I x :=
  ⟨hx.keeps, fun _ _ e hi h => hPQ e (hx.fails hi h)⟩

/-- An operation that never fails admits any fault. -/
theorem Admits.of_ok {x : Act σ α} (hx : Keeps I x) (hok : ∀ s : Sys σ, ∃ a s', exec x s = (.ok a, s')) :
    Admits P I x := by
  refine ⟨hx, fun s _ _ _ h => ?_⟩
  obtain ⟨a, s', h'⟩ := hok s
  rw [h'] at h
  cases h

namespace Refuses

theorem admits {x : Act σ α} (hx : Refuses P I x) : Admits P I x := by
  refine ⟨fun s s' r hi h => ?_, fun s s' e hi h => ?_⟩
  · obtain ⟨e, s₁, h₁, -, hi₁⟩ := hx s hi
    rw [h₁, Prod.mk.injEq] at h
    exact h.2 ▸ hi₁
  · obtain ⟨e₁, s₁, h₁, he₁, -⟩ := hx s hi
    rw [h₁, Prod.mk.injEq, Except.error.injEq] at h
    exact h.1 ▸ he₁

theorem mono {x : Act σ α} (hx : Refuses P I x) (hPQ : ∀ e, P e → Q e) : Refuses Q I x := by
  intro s hi
  obtain ⟨e, s', h, he, hi'⟩ := hx s hi
  exact ⟨e, s', h, hPQ e he, hi'⟩

theorem bind {x : Act σ α} {f : α → Act σ β} (hx : Refuses P I x) : Refuses P I (x >>= f) := by
  intro s hi
  obtain ⟨e, s', h, he, hi'⟩ := hx s hi
  exact ⟨e, s', by rw [exec_bind, h], he, hi'⟩

/-- Reading the world, then refusing whatever was read. -/
theorem world_bind {f : World → Act σ β} (hf : ∀ w, I w → Refuses P I (f w)) :
    Refuses P I (Act.world >>= f) := by
  intro s hi
  obtain ⟨e, s', h, he, hi'⟩ := hf s.world hi s hi
  exact ⟨e, s', by rw [exec_bind, exec_world]; exact h, he, hi'⟩

/-- Reading the interceptors of a context, then refusing whatever they are. -/
theorem interceptorsNow_bind {c : Nat} {f : List Interceptor → Act σ β}
    (hf : ∀ w, I w → Refuses P I (f (w.contexts[c]?.getD default).interceptors)) :
    Refuses P I (Context.interceptorsNow c >>= f) := by
  intro s hi
  obtain ⟨e, s', h, he, hi'⟩ := hf s.world hi s hi
  refine ⟨e, s', ?_, he, hi'⟩
  simp only [Context.interceptorsNow, exec_bind, exec_world, exec_pure, World.context_eq]
  exact h

/-- A refusal caught as an outcome, followed by what refuses on that failure. -/
theorem outcome_bind {x : Act σ α} {k : Except Fault α → Act σ β} (hx : Refuses P I x)
    (hk : ∀ e, P e → Refuses Q I (k (.error e))) : Refuses Q I (Act.outcome x >>= k) := by
  intro s hi
  obtain ⟨e, s₁, h₁, he, hi₁⟩ := hx s hi
  obtain ⟨e', s', h, he', hi'⟩ := hk e he s₁ hi₁
  exact ⟨e', s', by rw [exec_bind, exec_outcome, h₁]; exact h, he', hi'⟩

/-- A loop refuses when one of its rounds refuses and every round admits: the first round
that fails fails with a fault that `P` allows. -/
theorem forM {l : List γ} {f : γ → Act σ PUnit} {a : γ} (ha : a ∈ l) (hl : ∀ b ∈ l, Admits P I (f b))
    (hr : Refuses P I (f a)) : Refuses P I (l.forM f) := by
  induction l with
  | nil => cases ha
  | cons b l ih =>
    show Refuses P I (f b >>= fun _ => l.forM f)
    by_cases hb : b = a
    · subst hb
      exact hr.bind
    · have ha' : a ∈ l := by
        rcases List.mem_cons.mp ha with h | h
        · exact absurd h.symm hb
        · exact h
      intro s hi
      rcases h₁ : exec (f b) s with ⟨r, s₁⟩
      have hi₁ := (hl b (.head _)).keeps hi h₁
      cases r with
      | error e => exact ⟨e, s₁, by rw [exec_bind, h₁], (hl b (.head _)).fails hi h₁, hi₁⟩
      | ok _ =>
        obtain ⟨e, s', h, he, hi'⟩ := ih ha' (fun b' hb' => hl b' (.tail _ hb')) s₁ hi₁
        exact ⟨e, s', by rw [exec_bind, h₁]; exact h, he, hi'⟩

end Refuses

/-- A bind refuses when its first operation admits and the rest refuses. -/
theorem Admits.bind_refuses {x : Act σ α} {f : α → Act σ β} (hx : Admits P I x) (hf : ∀ a, Refuses P I (f a)) :
    Refuses P I (x >>= f) := by
  intro s hi
  rcases h₁ : exec x s with ⟨r, s₁⟩
  have hi₁ := hx.keeps hi h₁
  cases r with
  | error e => exact ⟨e, s₁, by rw [exec_bind, h₁], hx.fails hi h₁, hi₁⟩
  | ok a =>
    obtain ⟨e, s', h, he, hi'⟩ := hf a s₁ hi₁
    exact ⟨e, s', by rw [exec_bind, h₁]; exact h, he, hi'⟩

end Act

/-! ## The context of an invalidated unit of work -/

/-- Unit of work `u` uses context `c` and observer `o`, and `o` is the context's only
observer. -/
structure Attached (u c o : Nat) (w : World) : Prop where
  context : (w.units[u]?.getD default).context = some c
  observer : (w.units[u]?.getD default).observer = some o
  serves : (w.observers[o]?.getD default).unit = u
  observer_lt : o < w.observers.size
  mem : Interceptor.observer o ∈ (w.contexts[c]?.getD default).interceptors
  alone : ∀ o', Interceptor.observer o' ∈ (w.contexts[c]?.getD default).interceptors → o' = o

/-- Unit `u`, attached to context `c` through observer `o`, is invalidated: the observer
refuses and the connection holds no transaction. The database satisfies `J`. -/
structure Sealed (J : Database → Prop) (u c o : Nat) (w : World) : Prop extends Attached u c o w where
  refuses : (w.observers[o]?.getD default).aborted = true
  idle : (w.contexts[c]?.getD default).txn = none
  db : J w.db

namespace Attached

variable {u c o : Nat} {w w' : World}

/-- A change that keeps the shapes of `u` and `o` and the interceptors of `c` keeps the unit
attached. -/
theorem of_frame (ha : Attached u c o w)
    (hu : (w'.units[u]?.getD default).shape = (w.units[u]?.getD default).shape)
    (ho : (w'.observers[o]?.getD default).shape = (w.observers[o]?.getD default).shape)
    (hsize : w'.observers.size = w.observers.size)
    (hi : (w'.contexts[c]?.getD default).interceptors = (w.contexts[c]?.getD default).interceptors) :
    Attached u c o w' where
  context := by rw [← ha.context]; exact congrArg (·.1) hu
  observer := by rw [← ha.observer]; exact congrArg (·.2.1) hu
  serves := by rw [← ha.serves]; exact congrArg (·.1) ho
  observer_lt := by rw [hsize]; exact ha.observer_lt
  mem := by rw [hi]; exact ha.mem
  alone := by rw [hi]; exact ha.alone

end Attached

namespace Sealed

variable {J : Database → Prop} {u c o : Nat} {w w' : World}

/-- A change that keeps the shapes of `u` and `o`, the refusal of `o`, the interceptors and
the transaction of `c`, and the database keeps the context sealed. -/
theorem of_frame (hs : Sealed J u c o w)
    (hu : (w'.units[u]?.getD default).shape = (w.units[u]?.getD default).shape)
    (ho : (w'.observers[o]?.getD default).shape = (w.observers[o]?.getD default).shape)
    (hab : (w'.observers[o]?.getD default).aborted = (w.observers[o]?.getD default).aborted)
    (hsize : w'.observers.size = w.observers.size)
    (hi : (w'.contexts[c]?.getD default).interceptors = (w.contexts[c]?.getD default).interceptors)
    (ht : (w'.contexts[c]?.getD default).txn = (w.contexts[c]?.getD default).txn)
    (hdb : w'.db = w.db) : Sealed J u c o w' where
  toAttached := hs.toAttached.of_frame hu ho hsize hi
  refuses := by rw [hab]; exact hs.refuses
  idle := by rw [ht]; exact hs.idle
  db := by rw [hdb]; exact hs.db

/-- A change of what no part of `Sealed` reads. -/
theorem of_eq (hs : Sealed J u c o w) (hu : w'.units = w.units) (ho : w'.observers = w.observers)
    (hc : w'.contexts = w.contexts) (hdb : w'.db = w.db) : Sealed J u c o w' :=
  hs.of_frame (by rw [hu]) (by rw [ho]) (by rw [ho]) (by rw [ho]) (by rw [hc]) (by rw [hc]) hdb

theorem setUnit (hs : Sealed J u c o w) (u' : Nat) (x : UnitState)
    (hx : x.shape = (w.units[u']?.getD default).shape) :
    Sealed J u c o { w with units := w.units.modify u' fun _ => x } :=
  hs.of_frame (World.getD_modify_view _ _ _ _ _ UnitState.shape hx) rfl rfl rfl rfl rfl rfl

theorem setObserver (hs : Sealed J u c o w) (o' : Nat) (x : ObserverState)
    (hx : x.shape = (w.observers[o']?.getD default).shape)
    (ha : x.aborted = (w.observers[o']?.getD default).aborted) :
    Sealed J u c o { w with observers := w.observers.modify o' fun _ => x } :=
  hs.of_frame rfl (World.getD_modify_view _ _ _ _ _ ObserverState.shape hx)
    (World.getD_modify_view _ _ _ _ _ ObserverState.aborted ha) Array.size_modify rfl rfl rfl

theorem setContext (hs : Sealed J u c o w) (c' : Nat) (x : ContextState)
    (hi : x.interceptors = (w.contexts[c']?.getD default).interceptors)
    (ht : x.txn = (w.contexts[c']?.getD default).txn) :
    Sealed J u c o { w with contexts := w.contexts.modify c' fun _ => x } :=
  hs.of_frame rfl rfl rfl rfl (World.getD_modify_view _ _ _ _ _ ContextState.interceptors hi)
    (World.getD_modify_view _ _ _ _ _ ContextState.txn ht) rfl

end Sealed

/-- What a unit of work may answer of its own before its transaction starts: the wait was
cancelled, the lock is taken or disposed, or an external transaction is open. -/
def UnitOfWork.Declines (e : Fault) : Prop :=
  e = .cancelled ∨ e = contendedFault ∨ e = disposedFault ∨
    e = .invalid "An ambient transaction has been detected. Scoped execution does not support ambient transactions."

/-- The host's interceptors keep `I`, and their guards refuse only with faults that `P`
allows. Listeners, enlistments and the reports of failed transaction operations play no part:
no call on a sealed context reaches them. -/
structure Hooks.Admit (P : Fault → Prop) (I : World → Prop) (h : Hooks σ) : Prop where
  guard : ∀ k g, Admits P I (h.guard k g)
  notice : ∀ k n, Run.Keeps I (h.notice k n)

theorem Hooks.Admit.mono {P Q : Fault → Prop} {I : World → Prop} {h : Hooks σ} (hh : Hooks.Admit P I h)
    (hPQ : ∀ e, P e → Q e) : Hooks.Admit Q I h :=
  ⟨fun k g => (hh.guard k g).mono hPQ, hh.notice⟩

/-- Hooks that do nothing never refuse. -/
theorem Hooks.quiet_admit (P : Fault → Prop) (I : World → Prop) : Hooks.Admit P I (Hooks.quiet (σ := σ)) :=
  ⟨fun _ _ => Admits.of_ok (.pure _) fun s => ⟨(), s, rfl⟩, fun _ _ => Run.Keeps.pure _⟩

/-! ## What a sealed context keeps -/

section Keeping

variable {J : Database → Prop} {u c o : Nat}

theorem UnitOfWork.modify_sealed (u' : Nat) {f : UnitState → UnitState} (hf : ∀ x, (f x).shape = x.shape) :
    Keeps (σ := σ) (Sealed J u c o) (UnitOfWork.modify u' f) :=
  .modifyWorld fun w hs => hs.setUnit u' _ (by rw [hf, World.unit_eq])

theorem UnitOfWork.modifyObserver_sealed (o' : Nat) {f : ObserverState → ObserverState}
    (hf : ∀ x, (f x).shape = x.shape ∧ (f x).aborted = x.aborted) :
    Keeps (σ := σ) (Sealed J u c o) (UnitOfWork.modifyObserver o' f) :=
  .modifyWorld fun w hs => hs.setObserver o' _ (by rw [(hf _).1, World.observer_eq])
    (by rw [(hf _).2, World.observer_eq])

theorem Context.modify_sealed (c' : Nat) {f : ContextState → ContextState}
    (hf : ∀ x, (f x).interceptors = x.interceptors ∧ (f x).txn = x.txn) :
    Keeps (σ := σ) (Sealed J u c o) (Context.modify c' f) :=
  .modifyWorld fun w hs => hs.setContext c' _ (by rw [(hf _).1, World.context_eq])
    (by rw [(hf _).2, World.context_eq])

/-- A round trip changes the tokens only, and fails only as cancelled. -/
theorem Wait.roundTrip_sealed (wait : Wait) :
    Admits (σ := σ) (· = .cancelled) (Sealed J u c o) wait.roundTrip := by
  refine ⟨fun s s' r hs hx => ?_, fun s s' e _ hx => ?_⟩
  · obtain ⟨-, hs'⟩ := Wait.roundTrip_spec hx
    rw [hs']
    exact hs.of_eq rfl rfl rfl rfl
  · obtain ⟨hr | hr, -⟩ := Wait.roundTrip_spec hx
    · cases hr
    · exact Except.error.inj hr

/-- Letting other tasks run changes the tokens only, and never fails. -/
theorem Wait.pause_sealed (wait : Wait) : Admits (σ := σ) P (Sealed J u c o) wait.pause := by
  refine ⟨fun s s' r hs hx => ?_, fun s s' e _ hx => ?_⟩
  · obtain ⟨-, hs'⟩ := Wait.pause_spec hx
    rw [hs']
    exact hs.of_eq rfl rfl rfl rfl
  · cases (Wait.pause_spec hx).1

theorem Context.onTracker_sealed {α : Type} (c' : Nat) (f : Tracker → Except Fault (Tracker × α)) :
    Keeps (σ := σ) (Sealed J u c o) (Context.onTracker c' f) :=
  .bind .world fun _ => .bind (.ofExcept _) fun _ =>
    .bind (Context.modify_sealed c' fun _ => ⟨rfl, rfl⟩) fun _ => .pure _

/-- Notifications change how observers take note of changes, never what they serve or whether
they refuse; the host hears them through hooks that keep the context sealed. -/
theorem Context.notifyEach_sealed {h : Hooks σ} (hn : ∀ k n, Run.Keeps (Sealed J u c o) (h.notice k n))
    (c' : Nat) (ns : List Notice) : Keeps (Sealed J u c o) (Context.notifyEach h c' ns) :=
  .bind (Context.interceptorsNow_framed c') fun is => .ofRun (Run.Keeps.forM fun i _ =>
    Run.Keeps.forM fun nt _ => by
      cases i with
      | observer o' =>
        exact Run.Keeps.modifyWorld fun w hs => hs.setObserver o' _ (by simp) (by simp)
      | host k => exact hn k nt)

/-- Notifying never fails. -/
theorem Context.notifyEach_ok (h : Hooks σ) (c' : Nat) (ns : List Notice) (s : Sys σ) :
    (exec (Context.notifyEach h c' ns) s).1 = .ok () := by
  simp [Context.notifyEach, Context.interceptorsNow]

theorem Context.hasTxn_exec (c' : Nat) (s : Sys σ) :
    exec (Context.hasTxn c') s = (.ok (s.world.contexts[c']?.getD default).txn.isSome, s) := by
  simp [Context.hasTxn]

/-- A sealed connection has no transaction to take out of its slot. -/
theorem Context.takeTxn_refuses : Refuses (σ := σ) (fun _ => True) (Sealed J u c o) (Context.takeTxn c) := by
  intro s hs
  refine ⟨.invalid "No transaction is active", s, ?_, trivial, hs⟩
  simp [Context.takeTxn, Context.currentTxn, hs.idle]

/-- Closing a sealed connection counts the close and rolls nothing back. -/
theorem Context.close_sealed : Keeps (σ := σ) (Sealed J u c o) (Context.close c) := by
  intro s s' r hs hx
  simp only [Context.close, Context.modify, exec_bind, exec_world, exec_modifyWorld, World.context_eq,
    hs.idle, exec_pure, Prod.mk.injEq] at hx
  rw [← hx.2]
  exact hs.setContext c _ rfl (by rw [hs.idle])

/-- Under the lock: a taken or disposed lock declines, and a refusal of the body comes out
once the lock is free again. -/
theorem UnitOfWork.locked_refuses {α : Type} {Q : Fault → Prop} {body : Act σ α}
    (hb : Refuses Q (Sealed J u c o) body) (hQ : ∀ e, UnitOfWork.Declines e → Q e) (u' : Nat) :
    Refuses Q (Sealed J u c o) (UnitOfWork.locked u' body) := by
  intro s hs
  cases hl : (s.world.units[u']?.getD default).lock with
  | free =>
    obtain ⟨e, s₁, hx, he, hs₁⟩ := hb (s.withLock u' .held) (hs.setUnit u' _ rfl)
    refine ⟨e, s₁.withLock u' .free, ?_, he, hs₁.setUnit u' _ rfl⟩
    rw [UnitOfWork.locked_exec_free _ hl, hx]
  | held =>
    refine ⟨contendedFault, s, ?_, hQ _ (.inr (.inl rfl)), hs⟩
    simp [UnitOfWork.locked, UnitOfWork.acquire, UnitOfWork.get, hl]
  | disposed =>
    refine ⟨disposedFault, s, ?_, hQ _ (.inr (.inr (.inl rfl))), hs⟩
    simp [UnitOfWork.locked, UnitOfWork.acquire, UnitOfWork.get, hl]

/-- Committing a sealed connection fails: there is no transaction to commit. -/
theorem Context.commit_refuses (h : Hooks σ) (wait : Wait) :
    Refuses (fun _ => True) (Sealed J u c o) (Context.commit h c wait) :=
  Admits.bind_refuses ((Wait.roundTrip_sealed wait).mono fun _ _ => trivial) fun _ =>
    Context.takeTxn_refuses.bind

theorem Context.rollback_refuses (h : Hooks σ) (wait : Wait) :
    Refuses (fun _ => True) (Sealed J u c o) (Context.rollback h c wait) :=
  Admits.bind_refuses (Wait.pause_sealed wait) fun _ => Context.takeTxn_refuses.bind

end Keeping

/-! ## What a sealed context refuses -/

section Refusing

variable {J : Database → Prop} {u c o : Nat} {P : Fault → Prop} {h : Hooks σ}
  (hh : Hooks.Admit P (Sealed J u c o) h) (hP : P .aborted)
include hP

/-- The refusing observer answers before any of its listeners runs. -/
theorem Observer.guard_refuses (ls : ObserverState → List Nat) :
    Refuses P (Sealed J u c o) (Observer.guard h o ls) := by
  intro s hs
  refine ⟨.aborted, s, ?_, hP, hs⟩
  simp [Observer.guard, hs.refuses]

include hh

/-- A round of questions to the interceptors meets the refusing observer, unless a host
interceptor before it refuses first. -/
theorem Context.guardEach_refuses (g : Guard) (ls : ObserverState → List Nat) :
    Refuses P (Sealed J u c o) (Context.guardEach h c g fun o' => Observer.guard h o' ls) := by
  refine Refuses.interceptorsNow_bind fun w hw =>
    Refuses.forM hw.mem (fun i hi => ?_) (Observer.guard_refuses hP ls)
  cases i with
  | observer o' =>
    rw [hw.alone o' hi]
    exact (Observer.guard_refuses hP ls).admits
  | host k => exact hh.guard k g

theorem Context.beforeCommand_refuses : Refuses P (Sealed J u c o) (Context.beforeCommand h c) :=
  Context.guardEach_refuses hh hP .commandCreating _

theorem Context.find_refuses (k : Key) (wait : Wait) : Refuses P (Sealed J u c o) (Context.find h c k wait) :=
  (Context.beforeCommand_refuses hh hP).bind

theorem Context.count_refuses (table : String) (wait : Wait) :
    Refuses P (Sealed J u c o) (Context.count h c table wait) :=
  (Context.beforeCommand_refuses hh hP).bind

theorem Context.executeRaw_refuses (change : Change) (wait : Wait) :
    Refuses P (Sealed J u c o) (Context.executeRaw h c change wait) :=
  (Context.beforeCommand_refuses hh hP).bind

/-- Beginning waits for the database, which only a cancellation interrupts, then asks the
interceptors. -/
theorem Context.begin_refuses (iso : Option Isolation) (wait : Wait) :
    Refuses (fun e => P e ∨ UnitOfWork.Declines e) (Sealed J u c o) (Context.begin h c iso wait) :=
  Admits.bind_refuses ((Wait.roundTrip_sealed wait).mono fun _ he => .inr (.inl he)) fun _ =>
    ((Context.guardEach_refuses hh hP .transactionStarting _).mono fun _ he => .inl he).bind

/-- The unit's context has no transaction, so the unit tries to start one under its lock,
checks for an external transaction and begins: something refuses on the way. -/
theorem UnitOfWork.tryStart_refuses (wait : Wait) :
    Refuses (fun e => P e ∨ UnitOfWork.Declines e) (Sealed J u c o) (UnitOfWork.tryStart h u wait) := by
  have hbody : Refuses (fun e => P e ∨ UnitOfWork.Declines e) (Sealed J u c o) (do
      if (← Context.hasTxn c) then return false
      UnitOfWork.ensureNoExternal
      let _ ← Context.begin h c (← UnitOfWork.isolation u) wait
      return true) := by
    intro s hs
    by_cases hx : 0 < (s.world.flow.getD s.world.thread).external
    · refine ⟨_, s, ?_, .inr (.inr (.inr (.inr rfl))), hs⟩
      simp [Context.hasTxn, hs.idle, UnitOfWork.ensureNoExternal, hx]
    · obtain ⟨e, s', hb, he, hs'⟩ := Context.begin_refuses hh hP ((s.world.units[u]?.getD default).isolation) wait s hs
      refine ⟨e, s', ?_, he, hs'⟩
      simp [Context.hasTxn, hs.idle, UnitOfWork.ensureNoExternal, hx, UnitOfWork.isolation, UnitOfWork.get, hb]
  intro s hs
  obtain ⟨e, s', hx, he, hs'⟩ := UnitOfWork.locked_refuses hbody (fun _ hd => .inr hd) u s hs
  refine ⟨e, s', ?_, he, hs'⟩
  rw [UnitOfWork.tryStart, exec_bind, UnitOfWork.context_exec hs.context]
  dsimp only
  rw [exec_bind, Context.hasTxn_exec, hs.idle]
  exact hx

/-- Before a save the observer marks itself as saving and asks its unit to start a
transaction, which refuses. -/
theorem Observer.beforeSave_refuses (wait : Wait) :
    Refuses (fun e => P e ∨ UnitOfWork.Declines e) (Sealed J u c o) (Observer.beforeSave h o wait) := by
  refine Admits.bind_refuses (Admits.of_ok (UnitOfWork.modifyObserver_sealed o fun _ => ⟨rfl, rfl⟩)
    fun s => ⟨(), _, rfl⟩) fun _ => Refuses.world_bind fun w hs => ?_
  rw [World.observer_eq, hs.serves]
  exact (UnitOfWork.tryStart_refuses hh hP wait).bind

/-- A save stops at the first interceptor that refuses, which is the observer if no host
interceptor before it refuses; the interceptors then hear that the save failed. -/
theorem Context.save_refuses (wait : Wait) :
    Refuses (fun e => P e ∨ UnitOfWork.Declines e) (Sealed J u c o) (Context.save h c wait) := by
  refine Refuses.interceptorsNow_bind fun w hw =>
    Refuses.outcome_bind (P := fun e => P e ∨ UnitOfWork.Declines e) ?round fun e he => ?_
  case round =>
    refine Refuses.forM hw.mem (fun i hi => ?_) (Observer.beforeSave_refuses hh hP wait)
    cases i with
    | observer o' =>
      rw [hw.alone o' hi]
      exact (Observer.beforeSave_refuses hh hP wait).admits
    | host k => exact (hh.guard k .savingChanges).mono fun _ he => .inl he
  intro s hs
  rcases hx₂ : exec (Context.notifyEach h c [.saveFailed]) s with ⟨r, s₂⟩
  have hr : r = .ok () := by rw [← Context.notifyEach_ok h c [.saveFailed] s, hx₂]
  subst hr
  refine ⟨e, s₂, ?_, he, Context.notifyEach_sealed hh.notice c _ hs hx₂⟩
  simp only [exec_bind, exec_outcome, exec_ofExcept, hx₂]

end Refusing

/-! ## Calls on a sealed context -/

/-- Calls on context `c`, one after the other, each waiting in its own way; a failed call does
not stop the next. -/
def ContextCall.runEach (h : Hooks σ) (c : Nat) (calls : List (ContextCall × Wait)) : Act σ Unit :=
  calls.forM fun (call, wait) => do let _ ← Act.outcome (call.run h c wait)

section Calls

variable {J : Database → Prop} {u c o : Nat} {P : Fault → Prop} {h : Hooks σ}

/-- Every call on a sealed context keeps it sealed, whatever comes of the call: the calls on
the tracker change the tracker and what observers note, and every other call is refused. -/
theorem ContextCall.run_sealed (hh : Hooks.Admit P (Sealed J u c o) h) (wait : Wait) :
    ∀ call : ContextCall, Keeps (Sealed J u c o) (call.run h c wait) := by
  -- for keeping the context sealed any refusal will do
  have hk : Hooks.Admit (fun _ => True) (Sealed J u c o) h := hh.mono fun _ _ => trivial
  intro call
  cases call with
  | work op =>
    refine .bind ?_ fun _ => .pure _
    cases op with
    | add k v =>
      exact .bind (.bind (Context.onTracker_sealed c _) fun _ => Context.notifyEach_sealed hh.notice c _)
        fun _ => .pure _
    | update k v =>
      exact .bind (.bind (Context.onTracker_sealed c _) fun _ => Context.notifyEach_sealed hh.notice c _)
        fun _ => .pure _
    | remove k =>
      exact .bind (.bind (Context.onTracker_sealed c _) fun _ => Context.notifyEach_sealed hh.notice c _)
        fun _ => .pure _
    | modifyUntracked k v => exact .bind (Context.onTracker_sealed c _) fun _ => .pure _
    | find k => exact .bind (Context.find_refuses hk trivial k wait).admits.keeps fun _ => .pure _
    | count table => exact .bind (Context.count_refuses hk trivial table wait).admits.keeps fun _ => .pure _
    | raw change => exact .bind (Context.executeRaw_refuses hk trivial change wait).admits.keeps fun _ => .pure _
    | save => exact .bind (Context.save_refuses hk trivial wait).admits.keeps fun _ => .pure _
  | begin iso => exact .bind (Context.begin_refuses hk trivial iso wait).admits.keeps fun _ => .pure _
  | commit => exact (Context.commit_refuses h wait).admits.keeps
  | rollback => exact (Context.rollback_refuses h wait).admits.keeps
  | close => exact Context.close_sealed
  | clearTracked =>
    exact Context.modify_sealed (f := fun x => { x with tracker := x.tracker.clear }) c fun _ => ⟨rfl, rfl⟩

/-- Any sequence of calls on a sealed context keeps it sealed. -/
theorem ContextCall.runEach_sealed (hh : Hooks.Admit P (Sealed J u c o) h) (calls : List (ContextCall × Wait)) :
    Keeps (Sealed J u c o) (ContextCall.runEach h c calls) :=
  .forM fun (call, wait) _ => .bind (.outcome (ContextCall.run_sealed hh wait call)) fun _ => .pure _

end Calls

/-! ## Operations on the tracker alone -/

/-- What the tracker answers to an operation on it alone; nothing for the other operations. -/
def Op.onTracker : Op → Option (Tracker → Except Fault Unit)
  | .add k v => some fun t => (t.trackAdded k v).map fun _ => ()
  | .update k v => some fun t => (t.modify k v).map fun _ => ()
  | .remove k => some fun t => (t.remove k).map fun _ => ()
  | .modifyUntracked k v => some fun t => (t.modifyUntracked k v).map fun _ => ()
  | _ => none

/-- A tracker operation followed by what cannot fail: the whole fails exactly when the tracker
refuses. -/
theorem Context.onTracker_then {α β : Type} (c : Nat) (f : Tracker → Except Fault (Tracker × α))
    {g : α → Act σ β} (hg : ∀ a s, (exec (g a) s).1.map (fun _ => ()) = .ok ()) (s : Sys σ) :
    (exec (Context.onTracker c f >>= g) s).1.map (fun _ => ()) =
      (f (s.world.contexts[c]?.getD default).tracker).map fun _ => () := by
  simp only [Context.onTracker, exec_bind, exec_world, World.context_eq, exec_ofExcept]
  cases hf : f (s.world.contexts[c]?.getD default).tracker with
  | error e => rfl
  | ok p =>
    show _ = Except.ok ()
    simpa [Context.modify] using hg _ _

/-- An operation on the tracker alone fails exactly when the tracker refuses it, whatever the
state of the unit of work. -/
theorem Op.run_onTracker (h : Hooks σ) (c : Nat) (wait : Wait) {op : Op} {f : Tracker → Except Fault Unit}
    (hf : op.onTracker = some f) (s : Sys σ) :
    (exec (op.run h c wait) s).1.map (fun _ => ()) = f (s.world.contexts[c]?.getD default).tracker := by
  have hnotify : ∀ ns (s : Sys σ),
      (exec (Context.notifyEach h c ns >>= fun _ => (pure Reply.unit : Act σ Reply)) s).1.map (fun _ => ()) = .ok () :=
    fun ns s => by simp [Context.notifyEach, Context.interceptorsNow, Except.map]
  cases op <;> simp only [Op.onTracker, Option.some.injEq, reduceCtorEq] at hf <;> subst hf
  · rename_i k v
    rw [Op.run, Context.add, bind_assoc, Context.onTracker_then c _ fun _ s => hnotify _ s]
    dsimp only
    cases (s.world.contexts[c]?.getD default).tracker.trackAdded k v <;> rfl
  · rename_i k v
    rw [Op.run, Context.update, bind_assoc, Context.onTracker_then c _ fun _ s => hnotify _ s]
  · rename_i k
    rw [Op.run, Context.remove, bind_assoc, Context.onTracker_then c _ fun _ s => hnotify _ s]
  · rename_i k v
    rw [Op.run, Context.modifyUntracked, Context.onTracker_then c _ fun _ s => by simp [Except.map]]
    dsimp only
    cases (s.world.contexts[c]?.getD default).tracker.modifyUntracked k v <;> rfl

/-! ## Invalidating -/

/-- A rollback that the database accepts ends the transaction in the history and leaves the
committed tables alone. -/
theorem Database.rollback_ok {t : Nat} {db db' : Database}
    (hx : ((Database.rollback t).run).run db = (.ok (), db')) :
    db'.tables = db.tables ∧ db'.history = db.history ++ [.rolledBack t] := by
  rw [Database.rollback, Database.get_bind_run] at hx
  change ((Database.lift (db.txns.rollback t) >>= _ : Database.Step Unit).run).run db = _ at hx
  cases hr : db.txns.rollback t with
  | error e =>
    rw [hr, Database.lift_error_bind_run] at hx
    cases hx
  | ok p =>
    obtain ⟨m, tx⟩ := p
    rw [hr, Database.lift_ok_bind_run, Database.set_run, Prod.mk.injEq] at hx
    rw [← hx.2]
    exact ⟨rfl, rfl⟩

/-- Rolling back the connection's transaction `t`, when it succeeds, empties the slot, ends
`t` in the history and changes nothing else that a sealed context reads. -/
theorem Context.rollback_ok {h : Hooks σ} {c t : Nat} {wait : Wait} {s s' : Sys σ}
    (hslot : (s.world.contexts[c]?.getD default).txn = some t)
    (hx : exec (Context.rollback h c wait) s = (.ok (), s')) :
    s'.world.units = s.world.units ∧ s'.world.observers = s.world.observers ∧
      s'.world.contexts = s.world.contexts.modify c (fun _ => { s.world.contexts[c]?.getD default with txn := none }) ∧
      s'.world.db.tables = s.world.db.tables ∧ s'.world.db.history = s.world.db.history ++ [.rolledBack t] := by
  simp only [Context.rollback, exec_bind] at hx
  rcases hp : exec wait.pause s with ⟨q, s₁⟩
  obtain ⟨rfl, hs₁⟩ := Wait.pause_spec hp
  have hslot₁ : (s₁.world.contexts[c]?.getD default).txn = some t := by rw [hs₁]; exact hslot
  simp only [hp, Context.takeTxn_exec hslot₁, exec_outcome, exec_database] at hx
  rcases hdb : ((Database.rollback t).run).run s₁.world.db with ⟨_ | _, db⟩
  · simp only [hdb, exec_bind] at hx
    split at hx <;> cases hx
  · simp only [hdb, exec_pure, Prod.mk.injEq] at hx
    obtain ⟨htables, hhistory⟩ := Database.rollback_ok hdb
    rw [← hx.2]
    refine ⟨by rw [hs₁], by rw [hs₁], by rw [hs₁], by rw [htables, hs₁], by rw [hhistory, hs₁]⟩

/-- Invalidating an attached unit marks its observer as refusing and changes nothing else that
a sealed context reads. -/
theorem UnitOfWork.invalidate_attached {u c o : Nat} {s : Sys σ} (ha : Attached u c o s.world) :
    ∃ s₁, exec (UnitOfWork.invalidate u) s = (.ok (), s₁) ∧ Attached u c o s₁.world ∧
      (s₁.world.observers[o]?.getD default).aborted = true ∧ s₁.world.contexts = s.world.contexts ∧
      s₁.world.db = s.world.db := by
  refine ⟨{ s with world := { s.world with observers := s.world.observers.modify o fun _ =>
    { s.world.observers[o]?.getD default with aborted := true } } }, ?_,
    ha.of_frame rfl (World.getD_modify_view _ _ _ _ _ ObserverState.shape rfl) Array.size_modify rfl, ?_, rfl, rfl⟩
  · simp [UnitOfWork.invalidate, UnitOfWork.observer_exec ha.observer, UnitOfWork.modifyObserver]
  · show ((s.world.observers.modify o _)[o]?.getD default).aborted = true
    rw [World.getD_modify_self, if_pos ha.observer_lt]

/-- A successful rollback-and-invalidate of an attached unit seals its context over the
database it leaves: the observer refuses, the connection is empty, the committed tables are as
they were, and the history has gained only the rollback of the transaction that was open. -/
theorem UnitOfWork.tryRollbackInvalidate_seals {h : Hooks σ} {u c o : Nat} {wait : Wait} {s s' : Sys σ}
    {b : Bool} (ha : Attached u c o s.world) (hx : exec (UnitOfWork.tryRollbackInvalidate h u wait) s = (.ok b, s')) :
    Sealed (· = s'.world.db) u c o s'.world ∧ s'.world.db.tables = s.world.db.tables ∧
      s'.world.db.history = s.world.db.history ++ (s.world.contexts[c]?.getD default).txn.toList.map .rolledBack := by
  obtain ⟨s₁, hinv, ha₁, hab₁, hc₁, hdb₁⟩ := UnitOfWork.invalidate_attached ha
  rw [UnitOfWork.tryRollbackInvalidate, exec_bind, hinv] at hx
  dsimp only at hx
  simp only [UnitOfWork.tryRollback, UnitOfWork.tryFinish, exec_bind, UnitOfWork.context_exec ha₁.context,
    Context.hasTxn_exec] at hx
  cases ht : (s.world.contexts[c]?.getD default).txn with
  | none =>
    simp only [hc₁, ht, Option.isSome_none, Bool.not_false, if_true, exec_pure, Prod.mk.injEq] at hx
    obtain ⟨-, rfl⟩ := hx
    exact ⟨{ ha₁ with refuses := hab₁, idle := by rw [hc₁]; exact ht, db := rfl }, by rw [hdb₁],
      by simp [hdb₁]⟩
  | some t =>
    simp only [hc₁, ht, Option.isSome_some, Bool.not_true, Bool.false_eq_true, if_false] at hx
    obtain ⟨s₂, hb, rfl⟩ := UnitOfWork.locked_ok_inv hx
    have ht₁ : ((s₁.withLock u .held).world.contexts[c]?.getD default).txn = some t := by
      rw [Sys.withLock_contexts, hc₁]
      exact ht
    simp only [exec_bind, Context.hasTxn_exec, ht₁, Option.isSome_some, Bool.not_true, Bool.false_eq_true,
      if_false] at hb
    rcases hr : exec (Context.rollback h c wait) (s₁.withLock u .held) with ⟨_ | _, s₃⟩
    · rw [hr] at hb
      cases hb
    · rw [hr] at hb
      simp only [exec_pure, Prod.mk.injEq] at hb
      obtain ⟨-, rfl⟩ := hb
      obtain ⟨hu₃, ho₃, hc₃, htab₃, hhis₃⟩ := Context.rollback_ok ht₁ hr
      have hunit : ((s₃.withLock u .free).world.units[u]?.getD default).shape =
          (s₁.world.units[u]?.getD default).shape := by
        show ((s₃.world.units.modify u _)[u]?.getD default).shape = _
        rw [World.getD_modify_view _ _ _ _ _ UnitState.shape rfl, hu₃]
        exact World.getD_modify_view _ _ _ _ _ UnitState.shape rfl
      have hctx : (s₃.withLock u .free).world.contexts =
          s₁.world.contexts.modify c (fun _ => { s₁.world.contexts[c]?.getD default with txn := none }) := hc₃
      refine ⟨⟨ha₁.of_frame hunit (by simp [ho₃]) (by simp [ho₃])
        (by rw [hctx]; exact World.getD_modify_view _ _ _ _ _ ContextState.interceptors rfl),
        by simp [ho₃, hab₁], ?_, rfl⟩, by simp [htab₃, hdb₁], by simp [hhis₃, hdb₁]⟩
      rw [hctx, World.getD_modify_self]
      split <;> rfl

/-! ## Nothing reaches the database -/

/-- Once unit of work `u` is invalidated, nothing reaches the database through its context `c`
until the invalidation is lifted. A rollback-and-invalidate of the attached unit that succeeds
seals the context over the database it leaves, with the transaction that was open rolled back
and the committed tables untouched. From a sealed context, any sequence of calls keeps it
sealed, so the database keeps every property `J` that the host's interceptors keep. Finding,
counting and raw commands fail with `aborted` or the fault of an interceptor that refused
first (`P`); saves and transaction starts may also stop at one of the unit's own checks. An
operation on the tracker alone fails exactly when the tracker refuses it. -/
theorem invalidated_unit_reaches_no_database (h : Hooks σ) (J : Database → Prop) (u c o : Nat)
    (P : Fault → Prop) (hP : P .aborted) (hh : Hooks.Admit P (Sealed J u c o) h) :
    (∀ (wait : Wait) (s s' : Sys σ) (b : Bool), Attached u c o s.world →
      exec (UnitOfWork.tryRollbackInvalidate h u wait) s = (.ok b, s') →
        Sealed (· = s'.world.db) u c o s'.world ∧ s'.world.db.tables = s.world.db.tables ∧
          s'.world.db.history =
            s.world.db.history ++ (s.world.contexts[c]?.getD default).txn.toList.map .rolledBack) ∧
    (∀ calls, Keeps (Sealed J u c o) (ContextCall.runEach h c calls)) ∧
    (∀ k wait, Refuses P (Sealed J u c o) (Context.find h c k wait)) ∧
    (∀ table wait, Refuses P (Sealed J u c o) (Context.count h c table wait)) ∧
    (∀ change wait, Refuses P (Sealed J u c o) (Context.executeRaw h c change wait)) ∧
    (∀ wait, Refuses (fun e => P e ∨ UnitOfWork.Declines e) (Sealed J u c o) (Context.save h c wait)) ∧
    (∀ iso wait,
      Refuses (fun e => P e ∨ UnitOfWork.Declines e) (Sealed J u c o) (Context.begin h c iso wait)) ∧
    (∀ (op : Op) f wait (s : Sys σ), op.onTracker = some f →
      (exec (op.run h c wait) s).1.map (fun _ => ()) = f (s.world.contexts[c]?.getD default).tracker) :=
  ⟨fun _ _ _ _ ha hx => UnitOfWork.tryRollbackInvalidate_seals ha hx, ContextCall.runEach_sealed hh,
    Context.find_refuses hh hP, Context.count_refuses hh hP, Context.executeRaw_refuses hh hP,
    Context.save_refuses hh hP, Context.begin_refuses hh hP, fun _ _ wait s hf => Op.run_onTracker h c wait hf s⟩

/-- A world where unit of work `0` uses context `0` through observer `0`, and is invalidated. -/
def sealedWorld : World where
  contexts := #[{ interceptors := [.observer 0] }]
  units := #[{ factory := 0, options := {}, context := some 0, observer := some 0 }]
  observers := #[{ unit := 0, autoFlush := .off, avoidCommitRetries := false, aborted := true }]

theorem sealed_context_refuses_find :
    Fault.aborted = Fault.aborted ∧
      Hooks.Admit (· = Fault.aborted) (Sealed (· = ({} : Database)) 0 0 0) (Hooks.quiet (σ := Unit)) ∧
      Sealed (· = ({} : Database)) 0 0 0 sealedWorld ∧
      (exec (Context.find Hooks.quiet 0 ("items", 1) .blocking) (⟨sealedWorld, ()⟩ : Sys Unit)).1 =
        .error .aborted := by
  have hs : Sealed (· = ({} : Database)) 0 0 0 sealedWorld :=
    ⟨⟨rfl, rfl, rfl, by decide, by simp [sealedWorld], by simp [sealedWorld]⟩, rfl, rfl, rfl⟩
  have law := invalidated_unit_reaches_no_database (σ := Unit) Hooks.quiet (· = {}) 0 0 0 (· = .aborted) rfl
    (Hooks.quiet_admit _ _)
  obtain ⟨e, s', hx, rfl, -⟩ := law.2.2.1 ("items", 1) .blocking ⟨sealedWorld, ()⟩ hs
  exact ⟨rfl, Hooks.quiet_admit _ _, hs, by rw [hx]⟩

/-! ## An invalidation from inside a start listener -/

/-- Host hooks whose listeners roll back and invalidate unit of work `0`, noting in the host's
state how long the database's history was at that moment. -/
def invalidatingListener : Hooks (Option Nat) :=
  { Hooks.quiet with
    listen := fun _ => do
      let _ ← UnitOfWork.tryRollbackInvalidate Hooks.quiet 0 .blocking
      let n := (← Act.world).db.history.length
      Act.modifyHost fun _ => some n }

/-- Work that registers listener `0` before every transaction start of its unit, tracks a new
entity and saves it. -/
def listenTrackSave : Work (Option Nat) Unit := fun e => do
  let x ← Exec.get e
  let o ← UnitOfWork.observer x.unit
  UnitOfWork.modifyObserver o fun ob => { ob with startListeners := ob.startListeners ++ [0] }
  Context.add invalidatingListener x.context ("items", 1) (.text "a")
  let _ ← Context.save invalidatingListener x.context .blocking
  return pure ()

/-- One provider with default options over one factory, and a host that has noted nothing. -/
def listenerWorld : Sys (Option Nat) where
  world := { providers := #[{ factory := 0, options := {} }], factories := #[{}] }
  host := none

/-- The listener invalidates the unit while the save's transaction starts, with the history
still empty. The start goes on all the same: the save writes in the transaction, the execution
commits it, and the unit ends invalidated with the row committed. -/
theorem start_listener_invalidation_commits :
    (exec (Execution.execute invalidatingListener 0 .joinExisting listenTrackSave .blocking)
        listenerWorld).1.toBool = true ∧
      (exec (Execution.execute invalidatingListener 0 .joinExisting listenTrackSave .blocking)
        listenerWorld).2.host = some 0 ∧
      ((exec (Execution.execute invalidatingListener 0 .joinExisting listenTrackSave .blocking)
        listenerWorld).2.world.observers[0]?.getD default).aborted = true ∧
      (exec (Execution.execute invalidatingListener 0 .joinExisting listenTrackSave .blocking)
        listenerWorld).2.world.db.history.length = 3 ∧
      (exec (Execution.execute invalidatingListener 0 .joinExisting listenTrackSave .blocking)
        listenerWorld).2.world.db.rowCount "items" = 1 := by
  decide +kernel

end ScopedWork
