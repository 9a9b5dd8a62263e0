import ScopedWork.Proofs.World
import ScopedWork.Proofs.Serial
import ScopedWork.Proofs.Work

/-!
# What a root execution keeps

A root execution drives one unit of work `u`, with its context `c` and observer `o`. From
the moment the unit is prepared until its scope is disposed, the unit keeps its context,
its observer and its mode, the observer keeps its unit, its setting to avoid commit retries
and its (empty) listener lists, and the context keeps the observer as its only interceptor.
`Live` says so, with the database's `Serial` invariant and a context transaction that the
database still keeps.

`Frame` is what every step of the execution leaves alone: the parts `Live` reads, the
providers, and the unit and context of every execution scope that existed before. `Stays`
is what a step leaves alone of the ambient chain: the thread's and the flow's chains and
the entries that existed before. Entering a nested scope changes the chain, and leaving it
puts the chain back. Steps compose: both relations are reflexive and transitive.

Inside an attempt the history grows in one pattern. An operation of work only begins the
context's transaction (when none is open and the unit is not invalidated) and writes in it:
`Grows`. Over an attempt, the events since it started are those of `Phase`: nothing, or one
transaction begun and written to, which an invalidation has rolled back.
-/

namespace ScopedWork

namespace UnitState

/-- What scoped execution never changes about the unit of work it drives. -/
def shape (x : UnitState) : Option Nat × Option Nat × UnitMode := (x.context, x.observer, x.mode)

end UnitState

namespace ObserverState

/-- What never changes about an observer once it is attached. -/
def shape (x : ObserverState) : Nat × Bool × List Nat × List Nat :=
  (x.unit, x.avoidCommitRetries, x.startListeners, x.commandListeners)

@[simp] theorem shape_noticed (x : ObserverState) (n : Notice) : (x.noticed n).shape = x.shape := by
  cases n with
  | savedChanges _ => rfl
  | saveFailed => rfl
  | entityTracked _ => simp only [noticed]; split <;> rfl
  | stateChanged _ => simp only [noticed]; split <;> rfl

@[simp] theorem aborted_noticed (x : ObserverState) (n : Notice) : (x.noticed n).aborted = x.aborted := by
  cases n with
  | savedChanges _ => rfl
  | saveFailed => rfl
  | entityTracked _ => simp only [noticed]; split <;> rfl
  | stateChanged _ => simp only [noticed]; split <;> rfl

@[simp] theorem shape_foldl_noticed (x : ObserverState) (ns : List Notice) :
    (ns.foldl noticed x).shape = x.shape := by
  induction ns generalizing x with
  | nil => rfl
  | cons n ns ih => simp [List.foldl, ih]

@[simp] theorem aborted_foldl_noticed (x : ObserverState) (ns : List Notice) :
    (ns.foldl noticed x).aborted = x.aborted := by
  induction ns generalizing x with
  | nil => rfl
  | cons n ns ih => simp [List.foldl, ih]

end ObserverState

namespace ExecState

/-- What never changes about an execution scope: its unit and its context. -/
def shape (x : ExecState) : Nat × Nat := (x.unit, x.context)

end ExecState

namespace Execution

/-! ### The events of work -/

/-- Events that write in transaction `slot` and do nothing else; none without a transaction. -/
def Writes : Option Nat → List TxnEvent → Prop
  | none, d => d = []
  | some t, d => ∀ ev ∈ d, ∃ cs, ev = .wrote t cs

theorem Writes.nil (slot : Option Nat) : Writes slot [] := by
  cases slot with
  | none => rfl
  | some _ => intro _ h; cases h

theorem Writes.append {slot : Option Nat} {d₁ d₂ : List TxnEvent} (h₁ : Writes slot d₁)
    (h₂ : Writes slot d₂) : Writes slot (d₁ ++ d₂) := by
  cases slot with
  | none => simp only [Writes] at h₁ h₂ ⊢; simp [h₁, h₂]
  | some t =>
    intro ev hev
    rcases List.mem_append.mp hev with hev | hev
    · exact h₁ ev hev
    · exact h₂ ev hev

/-- What a step of work adds to history `H`, from the context's transaction `slot` to
`slot'`: writes in the open transaction, or, when none is open and the unit is not
invalidated, the start of a fresh one and writes in it. -/
def Grows (aborted : Bool) (slot slot' : Option Nat) (H d : List TxnEvent) : Prop :=
  (slot' = slot ∧ Writes slot d) ∨
  (aborted = false ∧ slot = none ∧ ∃ t ws, slot' = some t ∧ d = .began t :: ws ∧
    Writes (some t) ws ∧ ∀ ev ∈ H, ev.txn < t)

namespace Grows

variable {aborted : Bool} {slot slot' slot'' : Option Nat} {H d₁ d₂ : List TxnEvent}

theorem refl (aborted : Bool) (slot : Option Nat) (H : List TxnEvent) :
    Grows aborted slot slot H [] :=
  .inl ⟨rfl, Writes.nil slot⟩

theorem trans (h₁ : Grows aborted slot slot' H d₁) (h₂ : Grows aborted slot' slot'' (H ++ d₁) d₂) :
    Grows aborted slot slot'' H (d₁ ++ d₂) := by
  rcases h₁ with ⟨rfl, hw₁⟩ | ⟨hab, rfl, t, ws, rfl, rfl, hws, hfresh⟩
  · rcases h₂ with ⟨rfl, hw₂⟩ | ⟨hab, rfl, t, ws, rfl, rfl, hws, hfresh⟩
    · exact .inl ⟨rfl, hw₁.append hw₂⟩
    · -- nothing happened before the transaction began
      simp only [Writes] at hw₁
      subst hw₁
      exact .inr ⟨hab, rfl, t, ws, rfl, rfl, hws, by simpa using hfresh⟩
  · -- once begun, the transaction is only written to
    rcases h₂ with ⟨rfl, hw₂⟩ | ⟨-, h, -⟩
    · exact .inr ⟨hab, rfl, t, ws ++ d₂, rfl, by simp, hws.append hw₂, hfresh⟩
    · cases h

end Grows

/-! ### The invariant and the frame -/

/-- Unit of work `u` is driven by scoped execution with context `c` and observer `o`. -/
structure Live (u c o : Nat) (w : World) : Prop where
  unit : (w.units[u]?.getD default).shape = (some c, some o, .scopedExecution)
  observer : (w.observers[o]?.getD default).shape = (u, true, [], [])
  interceptors : (w.contexts[c]?.getD default).interceptors = [.observer o]
  unit_lt : u < w.units.size
  context_lt : c < w.contexts.size
  observer_lt : o < w.observers.size
  no_external : (w.flow.getD w.thread).external = 0
  ambient : ∃ r, (w.flow.getD w.thread).head = some r ∧ r < w.nodes.size ∧
    ((w.nodes[r]?.getD default).kind, (w.nodes[r]?.getD default).value) = (UnitState.typeName, u) ∧
    (w.nodes[r]?.getD default).disposed = false
  serial : Database.Serial w.db
  slot_live : ∀ t, (w.contexts[c]?.getD default).txn = some t → (w.db.txns.find? t).isSome

namespace Live

variable {u c o : Nat} {w : World} (hl : Live u c o w)
include hl

theorem unit_context : (w.units[u]?.getD default).context = some c :=
  (Prod.mk.inj hl.unit).1

theorem unit_observer : (w.units[u]?.getD default).observer = some o :=
  (Prod.mk.inj (Prod.mk.inj hl.unit).2).1

theorem unit_mode : (w.units[u]?.getD default).mode = .scopedExecution :=
  (Prod.mk.inj (Prod.mk.inj hl.unit).2).2

theorem observer_unit : (w.observers[o]?.getD default).unit = u :=
  (Prod.mk.inj hl.observer).1

theorem avoids : (w.observers[o]?.getD default).avoidCommitRetries = true :=
  (Prod.mk.inj (Prod.mk.inj hl.observer).2).1

theorem start_listeners : (w.observers[o]?.getD default).startListeners = [] :=
  (Prod.mk.inj (Prod.mk.inj (Prod.mk.inj hl.observer).2).2).1

theorem command_listeners : (w.observers[o]?.getD default).commandListeners = [] :=
  (Prod.mk.inj (Prod.mk.inj (Prod.mk.inj hl.observer).2).2).2

end Live

/-- What a step of a root execution leaves alone. -/
structure Frame (u c o : Nat) (w w' : World) : Prop where
  unit : (w'.units[u]?.getD default).shape = (w.units[u]?.getD default).shape
  observer : (w'.observers[o]?.getD default).shape = (w.observers[o]?.getD default).shape
  interceptors :
    (w'.contexts[c]?.getD default).interceptors = (w.contexts[c]?.getD default).interceptors
  units_size : w'.units.size = w.units.size
  contexts_size : w'.contexts.size = w.contexts.size
  observers_size : w'.observers.size = w.observers.size
  providers : w'.providers = w.providers
  execs_size : w.execs.size ≤ w'.execs.size
  execs : ∀ i < w.execs.size, (w'.execs[i]?.getD default).shape = (w.execs[i]?.getD default).shape

namespace Frame

variable {u c o : Nat} {w w₁ w₂ : World}

theorem refl (w : World) : Frame u c o w w where
  unit := rfl
  observer := rfl
  interceptors := rfl
  units_size := rfl
  contexts_size := rfl
  observers_size := rfl
  providers := rfl
  execs_size := Nat.le_refl _
  execs _ _ := rfl

theorem trans (h₁ : Frame u c o w w₁) (h₂ : Frame u c o w₁ w₂) : Frame u c o w w₂ where
  unit := h₂.unit.trans h₁.unit
  observer := h₂.observer.trans h₁.observer
  interceptors := h₂.interceptors.trans h₁.interceptors
  units_size := h₂.units_size.trans h₁.units_size
  contexts_size := h₂.contexts_size.trans h₁.contexts_size
  observers_size := h₂.observers_size.trans h₁.observers_size
  providers := h₂.providers.trans h₁.providers
  execs_size := Nat.le_trans h₁.execs_size h₂.execs_size
  execs i hi := (h₂.execs i (Nat.lt_of_lt_of_le hi h₁.execs_size)).trans (h₁.execs i hi)

end Frame

/-- What a step leaves alone of the ambient chain. -/
structure Stays (w w' : World) : Prop where
  thread : w'.thread = w.thread
  flow : w'.flow = w.flow
  nodes_size : w.nodes.size ≤ w'.nodes.size
  nodes : ∀ i < w.nodes.size, w'.nodes[i]? = w.nodes[i]?

namespace Stays

variable {w w₁ w₂ : World}

theorem refl (w : World) : Stays w w := ⟨rfl, rfl, Nat.le_refl _, fun _ _ => rfl⟩

/-- A step that touches neither the chains nor the entries. -/
theorem of_eq (ht : w'.thread = w.thread) (hf : w'.flow = w.flow) (hn : w'.nodes = w.nodes) :
    Stays w w' :=
  ⟨ht, hf, hn ▸ Nat.le_refl _, fun _ _ => by rw [hn]⟩

theorem trans (h₁ : Stays w w₁) (h₂ : Stays w₁ w₂) : Stays w w₂ where
  thread := h₂.thread.trans h₁.thread
  flow := h₂.flow.trans h₁.flow
  nodes_size := Nat.le_trans h₁.nodes_size h₂.nodes_size
  nodes i hi := (h₂.nodes i (Nat.lt_of_lt_of_le hi h₁.nodes_size)).trans (h₁.nodes i hi)

/-- The chain is that of the thread or of the running flow, and both are left alone. -/
theorem chain (h : Stays w w') : w'.flow.getD w'.thread = w.flow.getD w.thread := by
  rw [h.thread, h.flow]

theorem node (h : Stays w w') {i : Nat} (hi : i < w.nodes.size) :
    w'.nodes[i]?.getD default = w.nodes[i]?.getD default := by
  rw [h.nodes i hi]

end Stays

/-- What is live stays live across a step that keeps the frame and the chain, given the
database's invariant and a live transaction after it. -/
theorem Live.of_frame {u c o : Nat} {w w' : World} (hl : Live u c o w) (hf : Frame u c o w w')
    (hc : Stays w w') (hs : Database.Serial w'.db)
    (hslot : ∀ t, (w'.contexts[c]?.getD default).txn = some t → (w'.db.txns.find? t).isSome) :
    Live u c o w' where
  unit := hf.unit.trans hl.unit
  observer := hf.observer.trans hl.observer
  interceptors := hf.interceptors.trans hl.interceptors
  unit_lt := hf.units_size ▸ hl.unit_lt
  context_lt := hf.contexts_size ▸ hl.context_lt
  observer_lt := hf.observers_size ▸ hl.observer_lt
  no_external := hc.chain ▸ hl.no_external
  ambient := by
    obtain ⟨r, hr, hlt, hv, hd⟩ := hl.ambient
    exact ⟨r, hc.chain ▸ hr, Nat.lt_of_lt_of_le hlt hc.nodes_size, hc.node hlt ▸ hv, hc.node hlt ▸ hd⟩
  serial := hs
  slot_live := hslot

/-- A step of work inside an attempt: it keeps the frame and the unit's invalidation,
changes no committed table, and adds to the history only what `Grows` allows. -/
structure Advance (u c o : Nat) (w w' : World) : Prop where
  frame : Frame u c o w w'
  stays : Stays w w'
  aborted : (w'.observers[o]?.getD default).aborted = (w.observers[o]?.getD default).aborted
  tables : w'.db.tables = w.db.tables
  grows : ∃ d, w'.db.history = w.db.history ++ d ∧
    Grows (w.observers[o]?.getD default).aborted (w.contexts[c]?.getD default).txn
      (w'.contexts[c]?.getD default).txn w.db.history d

namespace Advance

variable {u c o : Nat} {w w₁ w₂ : World}

theorem refl (w : World) : Advance u c o w w :=
  ⟨Frame.refl w, Stays.refl w, rfl, rfl, [], by simp, Grows.refl _ _ _⟩

theorem trans (h₁ : Advance u c o w w₁) (h₂ : Advance u c o w₁ w₂) : Advance u c o w w₂ := by
  obtain ⟨d₁, hd₁, hg₁⟩ := h₁.grows
  obtain ⟨d₂, hd₂, hg₂⟩ := h₂.grows
  refine ⟨h₁.frame.trans h₂.frame, h₁.stays.trans h₂.stays, h₂.aborted.trans h₁.aborted, h₂.tables.trans h₁.tables,
    d₁ ++ d₂, by rw [hd₂, hd₁, List.append_assoc], hg₁.trans ?_⟩
  rw [← hd₁, ← h₁.aborted]
  exact hg₂

end Advance

/-! ### Attempts -/

/-- Where an attempt stands, from history `A` when it started: the events `d` since then,
given whether the unit is invalidated and its context's transaction. Until the unit is
invalidated, nothing happened or one fresh transaction was begun and written to; once it
is invalidated, that transaction (if any) was rolled back and none is open. -/
def Phase (A : List TxnEvent) : Bool → Option Nat → List TxnEvent → Prop
  | false, none, d => d = []
  | false, some t, d => (∀ ev ∈ A, ev.txn < t) ∧ ∃ ws, d = .began t :: ws ∧ Writes (some t) ws
  | true, none, d => d = [] ∨ ∃ t ws, d = .began t :: ws ++ [.rolledBack t] ∧ Writes (some t) ws
  | true, some _, _ => False

/-- A step of work keeps the attempt in its phase. -/
theorem Phase.grow {A d δ : List TxnEvent} {aborted : Bool} {slot slot' : Option Nat}
    (hp : Phase A aborted slot d) (hg : Grows aborted slot slot' (A ++ d) δ) :
    Phase A aborted slot' (d ++ δ) := by
  rcases hg with ⟨rfl, hw⟩ | ⟨rfl, rfl, t, ws, rfl, rfl, hws, hfresh⟩
  · cases aborted with
    | false =>
      cases slot' with
      | none => simp only [Phase, Writes] at hp hw ⊢; simp [hp, hw]
      | some t =>
        obtain ⟨hA, ws, rfl, hws⟩ := hp
        exact ⟨hA, ws ++ δ, by simp, hws.append hw⟩
    | true =>
      cases slot' with
      | none => simp only [Writes] at hw; simpa [hw] using hp
      | some _ => exact absurd hp id
  · simp only [Phase] at hp
    subst hp
    exact ⟨fun ev hev => hfresh ev (by simpa using hev), ws, rfl, hws⟩

/-- The events of one attempt: nothing, or one transaction begun, written to, and then
committed or rolled back. -/
def AttemptEvents (d : List TxnEvent) : Prop :=
  d = [] ∨ ∃ t ws, Writes (some t) ws ∧
    (d = .began t :: ws ++ [.committed t] ∨ d = .began t :: ws ++ [.rolledBack t])

end Execution

/-! ### What work records -/

namespace Mark

open Execution

/-- An operation of work ran inside its context's transaction `txn` (as it was after the
operation): it wrote in it, after beginning it or not, and did nothing else. -/
def InTxn : Mark → Prop
  | .entered _ => True
  | .touched before after txn => ∃ d, after = before ++ d ∧
    (Writes txn d ∨ ∃ t ws, txn = some t ∧ d = .began t :: ws ∧ Writes (some t) ws)

/-- The record of an operation whose step grows the history is sound. -/
theorem inTxn_of_grows {aborted : Bool} {slot slot' : Option Nat} {H d : List TxnEvent}
    (hg : Grows aborted slot slot' H d) : (touched H (H ++ d) slot').InTxn := by
  rcases hg with ⟨rfl, hw⟩ | ⟨-, -, t, ws, rfl, rfl, hws, -⟩
  · exact ⟨d, rfl, .inl hw⟩
  · exact ⟨_, rfl, .inr ⟨t, ws, rfl, rfl, hws⟩⟩

end Mark

end ScopedWork
