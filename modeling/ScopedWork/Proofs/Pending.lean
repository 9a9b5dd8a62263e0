import ScopedWork.Proofs.AutoFlush
import Mathlib.Data.String.Basic
import Mathlib.Data.Prod.Lex

/-!
# The tracker's pending test agrees with what a save writes

A tracker answers two questions about its entities, each by its own classification: whether
anything is pending (`hasPending`: an entity is pending when it is added, modified or deleted,
or implicitly modified) and what a save writes (`detectChanges`, a match on the state). They
agree on every tracker: something is pending exactly when the detected log is not empty, and
the log has one change for each pending entity, in the entities' order, of the kind its state
asks for (`Tracked.Writes`). After a save nothing is pending, because the store's equality is
reflexive, a NaN included.

The log is in the entries' order, and the entries of a tracker reached from an empty one by
any calls (`Call`) are in strictly ascending key order (`Ascending`): a call that succeeds
inserts an untracked key at its place, or keeps or drops keys (`Call.keys_of_apply`), and a
refused call leaves the tracker as it was.
-/

namespace ScopedWork

namespace Key

/-- `Key.lt` is the lexicographic order on table names, then ids. -/
theorem lt_iff_lex {a b : Key} : Key.lt a b = true ↔ toLex a < toLex b := by
  simp [Key.lt, Prod.Lex.lt_iff]

theorem lt_trans {a b c : Key} (hab : Key.lt a b = true) (hbc : Key.lt b c = true) :
    Key.lt a c = true :=
  lt_iff_lex.mpr ((lt_iff_lex.mp hab).trans (lt_iff_lex.mp hbc))

/-- Of two distinct keys, the one not below the other is above it. -/
theorem lt_of_not_lt {a b : Key} (hne : a ≠ b) (h : Key.lt a b = false) : Key.lt b a = true := by
  rw [lt_iff_lex]
  rcases lt_trichotomy (toLex a) (toLex b) with hlt | heq | hgt
  · rw [← lt_iff_lex, h] at hlt
    cases hlt
  · exact absurd (toLex.injective heq) hne
  · exact hgt

end Key

namespace Tracked

/-- The change a save writes for a pending entity under key `k`: an insert of an added
entity's value, an update of a modified or implicitly modified one's value and a delete of a
deleted one, the update and the delete expecting the entity's version. -/
inductive Writes (k : Key) (e : Tracked) : Change → Prop
  | insert : e.state = .added → Writes k e (.insert k.1 k.2 e.current)
  | update : e.state = .modified ∨ e.implicitlyModified = true →
      Writes k e (.update k.1 k.2 e.current (some e.version))
  | delete : e.state = .deleted → Writes k e (.delete k.1 k.2 (some e.version))

variable {e : Tracked} {k : Key} {ch : Change}

theorem Writes.key (h : e.Writes k ch) : ch.key = k := by
  cases h <;> rfl

/-- The change an entity has to write is the one its state asks for. -/
theorem writes_of_change (h : e.change k = some ch) : e.Writes k ch := by
  unfold change at h
  cases hs : e.state with
  | added =>
    simp only [hs, Option.some.injEq] at h
    exact h ▸ .insert hs
  | modified =>
    simp only [hs, Option.some.injEq] at h
    exact h ▸ .update (.inl hs)
  | deleted =>
    simp only [hs, Option.some.injEq] at h
    exact h ▸ .delete hs
  | unchanged =>
    -- an unchanged entity writes only when it is implicitly modified
    simp only [hs] at h
    split at h
    · rename_i himp
      rw [Option.some.injEq] at h
      exact h ▸ .update (.inr himp)
    · cases h
  | detached => simp [hs] at h

end Tracked

namespace Tracker

variable {t t' : Tracker}

/-! ### Detection against the pending test, on any tracker -/

/-- Something is pending exactly when a save has something to write. -/
theorem hasPending_iff_detectChanges_ne_nil (t : Tracker) :
    t.hasPending = true ↔ t.detectChanges ≠ [] := by
  constructor
  · intro hp hnil
    rw [hasPending_of_detectChanges hnil] at hp
    cases hp
  · intro hne
    obtain ⟨ch, hch⟩ := List.exists_mem_of_ne_nil _ hne
    rw [detectChanges_eq, List.mem_filterMap] at hch
    obtain ⟨p, hp, hpch⟩ := hch
    refine List.any_eq_true.mpr ⟨p, hp, ?_⟩
    rw [← Tracked.change_isSome, hpch]
    rfl

/-- The changes of a list of entries: one for each pending entry, in order, the one its state
asks for. -/
theorem forall₂_writes : ∀ l : List (Key × Tracked),
    List.Forall₂ (fun p ch => p.2.Writes p.1 ch) (l.filter (·.2.pending))
      (l.filterMap fun p => p.2.change p.1)
  | [] => .nil
  | p :: l => by
    cases hch : p.2.change p.1 with
    | none =>
      have hp : p.2.pending = false := by rw [← Tracked.change_isSome, hch]; rfl
      simp only [List.filter_cons, hp, List.filterMap_cons, hch]
      exact forall₂_writes l
    | some ch =>
      have hp : p.2.pending = true := by rw [← Tracked.change_isSome, hch]; rfl
      simp only [List.filter_cons, hp, List.filterMap_cons, hch, if_true]
      exact .cons (Tracked.writes_of_change hch) (forall₂_writes l)

/-- The keys of the changes written for entries are the entries' keys. -/
theorem keys_of_forall₂_writes {l : List (Key × Tracked)} {cs : List Change}
    (h : List.Forall₂ (fun p ch => p.2.Writes p.1 ch) l cs) : cs.map Change.key = l.map (·.1) := by
  induction h with
  | nil => rfl
  | cons hw _ ih => rw [List.map_cons, List.map_cons, hw.key, ih]

/-! ### Key order -/

/-- The tracked keys are strictly ascending: the entries are in key order, one per key. -/
def Ascending (t : Tracker) : Prop := (t.entries.map (·.1)).Pairwise fun a b => Key.lt a b

/-- Inserting an untracked key at its place keeps keys strictly ascending. -/
theorem ascending_insertSorted (k : Key) (e : Tracked) :
    ∀ l : List (Key × Tracked), (l.map (·.1)).Pairwise (fun a b => Key.lt a b) →
      k ∉ l.map (·.1) → ((insertSorted k e l).map (·.1)).Pairwise fun a b => Key.lt a b
  | [], _, _ => List.pairwise_singleton _ _
  | (j, f) :: rest, hasc, hk => by
    rw [List.map_cons, List.pairwise_cons] at hasc
    have hkj : k ≠ j := fun h => hk (h ▸ List.mem_cons_self ..)
    have hrest : k ∉ rest.map (·.1) := fun h => hk (List.mem_cons_of_mem _ h)
    unfold insertSorted
    split
    · -- `k` goes first: below `j`, and so below every key after it
      rename_i hlt
      refine List.pairwise_cons.mpr ⟨fun x hx => ?_, List.pairwise_cons.mpr hasc⟩
      rcases List.mem_cons.mp hx with rfl | hx
      · exact hlt
      · exact Key.lt_trans hlt (hasc.1 x hx)
    · -- `j` stays first: below `k` and below the keys of the rest
      rename_i hnlt
      refine List.pairwise_cons.mpr ⟨fun x hx => ?_, ascending_insertSorted k e rest hasc.2 hrest⟩
      rcases List.mem_cons.mp (((insertSorted_perm k e rest).map (·.1)).mem_iff.mp hx) with rfl | hx
      · exact Key.lt_of_not_lt hkj (Bool.eq_false_iff.mpr hnlt)
      · exact hasc.1 x hx

theorem keys_put_sublist (t : Tracker) (k : Key) (e : Tracked) :
    ((t.put k e).entries.map (·.1)).Sublist (t.entries.map (·.1)) :=
  (keys_put t k e) ▸ List.Sublist.refl _

/-- Tracking a new entity succeeds only on an untracked key, and inserts the entity at its
place. -/
theorem track_ok {k : Key} {e : Tracked}
    (h : (if t.isTracked k then .error (alreadyTracked k) else .ok ⟨insertSorted k e t.entries⟩) =
      (.ok t' : Except Fault Tracker)) :
    t.find? k = none ∧ t'.entries = insertSorted k e t.entries := by
  cases hf : t.find? k with
  | some _ => simp [isTracked, hf] at h
  | none =>
    simp only [isTracked, hf, Option.isSome_none, Bool.false_eq_true, if_false, Except.ok.injEq] at h
    exact ⟨rfl, by rw [← h]⟩

/-! ### Calls -/

/-- A call on a change tracker. -/
inductive Call where
  | trackAdded (k : Key) (v : Value)
  | trackLoaded (k : Key) (v : Value) (version : Nat)
  | modify (k : Key) (v : Value)
  | modifyUntracked (k : Key) (v : Value)
  | remove (k : Key)
  | acceptChanges
  | clear
  deriving Repr

/-- The tracker a call leaves, or the fault that refuses it. -/
def Call.apply : Call → Tracker → Except Fault Tracker
  | .trackAdded k v, t => t.trackAdded k v
  | .trackLoaded k v version, t => t.trackLoaded k v version
  | .modify k v, t => (t.modify k v).map (·.1)
  | .modifyUntracked k v, t => t.modifyUntracked k v
  | .remove k, t => (t.remove k).map (·.1)
  | .acceptChanges, t => .ok t.acceptChanges
  | .clear, t => .ok t.clear

/-- The tracker after a call. Every operation checks before it writes, so a refused call
leaves the tracker as it was. -/
def call (t : Tracker) (c : Call) : Tracker :=
  match c.apply t with
  | .ok t' => t'
  | .error _ => t

/-- The tracker after calls made one after another, refused ones included. -/
def callAll : Tracker → List Call → Tracker
  | t, [] => t
  | t, c :: cs => (t.call c).callAll cs

theorem call_of_ok {c : Call} (h : c.apply t = .ok t') : t.call c = t' := by
  rw [call, h]

theorem call_of_error {c : Call} {f : Fault} (h : c.apply t = .error f) : t.call c = t := by
  rw [call, h]

/-- What a call that succeeds does to the keys: it inserts an untracked key at its place, or
leaves some of the keys, in order (all of them, for an edit). -/
theorem Call.keys_of_apply {c : Call} (h : c.apply t = .ok t') :
    (∃ k e, t.find? k = none ∧ t'.entries = insertSorted k e t.entries) ∨
      (t'.entries.map (·.1)).Sublist (t.entries.map (·.1)) := by
  cases c with
  | trackAdded k v =>
    obtain ⟨hf, he⟩ := track_ok h
    exact .inl ⟨k, _, hf, he⟩
  | trackLoaded k v version =>
    obtain ⟨hf, he⟩ := track_ok h
    exact .inl ⟨k, _, hf, he⟩
  | modify k v =>
    unfold apply Tracker.modify at h
    cases hf : t.find? k with
    | none => simp [hf, Except.map] at h
    | some e =>
      simp only [hf] at h
      split at h
      · cases h
      · simp only [Except.map, Except.ok.injEq] at h
        exact .inr (h ▸ keys_put_sublist t k _)
  | modifyUntracked k v =>
    unfold apply Tracker.modifyUntracked at h
    cases hf : t.find? k with
    | none => simp [hf] at h
    | some e =>
      simp only [hf, Except.ok.injEq] at h
      exact .inr (h ▸ keys_put_sublist t k _)
  | remove k =>
    unfold apply Tracker.remove at h
    cases hf : t.find? k with
    | none => simp [hf, Except.map] at h
    | some e =>
      simp only [hf] at h
      split at h
      · -- an added entity is forgotten
        simp only [Except.map, Except.ok.injEq] at h
        exact .inr (h ▸ List.filter_sublist.map _)
      · simp only [Except.map, Except.ok.injEq] at h
        exact .inr (h ▸ keys_put_sublist t k _)
  | acceptChanges =>
    cases h
    exact .inr (acceptChanges_keys_sublist t)
  | clear =>
    cases h
    exact .inr (List.nil_sublist _)

/-- Every call keeps keys strictly ascending. -/
theorem Ascending.call (ht : t.Ascending) (c : Call) : (t.call c).Ascending := by
  cases h : c.apply t with
  | error f => rw [call_of_error h]; exact ht
  | ok t' =>
    rw [call_of_ok h]
    rcases Call.keys_of_apply h with ⟨k, e, hk, he⟩ | hsub
    · have hnew : k ∉ t.entries.map (·.1) := fun hmem => by
        obtain ⟨p, hp, hpk⟩ := List.mem_map.mp hmem
        exact find?_eq_none_iff.mp hk p hp hpk
      unfold Ascending
      rw [he]
      exact ascending_insertSorted k e _ ht hnew
    · exact ht.sublist hsub

/-- Any calls keep keys strictly ascending. -/
theorem Ascending.callAll (ht : t.Ascending) (cs : List Call) : (t.callAll cs).Ascending := by
  induction cs generalizing t with
  | nil => exact ht
  | cons c cs ih => exact ih (ht.call c)

theorem ascending_empty : ({} : Tracker).Ascending := List.Pairwise.nil

/-- The log of a tracker with ascending keys is in ascending key order. -/
theorem Ascending.detectChanges (ht : t.Ascending) :
    (t.detectChanges.map Change.key).Pairwise fun a b => Key.lt a b := by
  rw [detectChanges_eq, keys_of_forall₂_writes (forall₂_writes t.entries)]
  exact ht.sublist (List.filter_sublist.map _)

example : (({} : Tracker).callAll [.trackAdded ("items", 2) .null,
    .trackLoaded ("items", 1) (.integer 3) 4, .modifyUntracked ("items", 1) (.integer 5)]).detectChanges.map
      Change.key = [("items", 1), ("items", 2)] := by decide

/-- The tracker's pending test agrees with what a save would write. On every tracker reached
from an empty one by any calls, refused ones included: something is pending exactly when the
detected log is not empty; the log has exactly one change for each pending entity (added,
modified, deleted or implicitly modified), in ascending key order, the one its state asks
for, every update and delete expecting the entity's version; a refused call leaves the
tracker as it was; and after the changes are accepted nothing is pending. -/
theorem pending_agrees_with_detected_changes (cs : List Call) :
    let t := ({} : Tracker).callAll cs
    (t.hasPending = true ↔ t.detectChanges ≠ []) ∧
    List.Forall₂ (fun p ch => p.2.Writes p.1 ch) (t.entries.filter (·.2.pending)) t.detectChanges ∧
    (t.detectChanges.map Change.key).Pairwise (fun a b => Key.lt a b) ∧
    (∀ c f, c.apply t = .error f → t.call c = t) ∧
    t.acceptChanges.hasPending = false :=
  ⟨hasPending_iff_detectChanges_ne_nil _, forall₂_writes _,
    (ascending_empty.callAll cs).detectChanges, fun _ _ h => call_of_error h,
    hasPending_acceptChanges _⟩

example : (({} : Tracker).callAll [.trackAdded ("items", 1) (.float Binary64.nan),
    .acceptChanges]).hasPending = false := by decide

end Tracker

end ScopedWork
