import ScopedWork.Options
import Mathlib

/-!
# Backoff is a capped doubling that never overflows

The wait before a transient retry comes from a loop over 64-bit words: the first wait is
doubled by saturating multiplication and capped after every doubling, where the first wait
is the base clamped to at least 1 and the cap the maximum clamped to at least the first
wait. For a policy whose waits are words, saturation never shows: the loop's result is the
exact product `firstMs * 2 ^ (n - 1)` capped at `capMs` (`backoff_eq_min`). So a wait never
exceeds a word, lies between the first wait and the cap, grows with the attempt, and sits at
the cap once the exact doubling reaches it.

The loop stops early at the cap; `doubleCapped_succ` says that this shortcut is one more
round of the loop, and `doubleCapped_eq_min`, by induction on the rounds, gives the closed
form.
-/

namespace ScopedWork

namespace Policy

variable {cap x : Nat}

/-- Below a cap that is a word, a saturated doubling capped is the exact doubling capped. -/
theorem min_saturatingDouble (hcap : cap ≤ wordMax) (x : Nat) :
    min (saturatingDouble x) cap = min (2 * x) cap := by
  unfold saturatingDouble
  omega

/-- Capping before a doubling changes nothing once the result is capped again. -/
theorem min_min_mul {y m : Nat} (hm : 0 < m) (cap : Nat) :
    min cap (min y cap * m) = min cap (y * m) := by
  rcases le_total y cap with h | h
  · rw [Nat.min_eq_left h]
  · have hcap : cap ≤ cap * m := Nat.le_mul_of_pos_right cap hm
    have hy : cap ≤ y * m := le_trans h (Nat.le_mul_of_pos_right y hm)
    rw [Nat.min_eq_right h, Nat.min_eq_left hcap, Nat.min_eq_left hy]

/-- A value at the cap stays there, however many rounds are left. -/
@[simp] theorem doubleCapped_cap (cap : Nat) : ∀ k, doubleCapped cap k cap = cap
  | 0 => rfl
  | _ + 1 => by simp [doubleCapped]

/-- One round of the loop: from a value at most a cap that is a word, the loop goes on from
the value doubled and capped. At the cap this is the loop's early exit. -/
theorem doubleCapped_succ (hcap : cap ≤ wordMax) (hx : x ≤ cap) (k : Nat) :
    doubleCapped cap (k + 1) x = doubleCapped cap k (min (2 * x) cap) := by
  rw [doubleCapped, min_saturatingDouble hcap]
  split
  · -- the value is the cap, and doubling the cap and capping gives the cap back
    rename_i hle
    have hxc : x = cap := Nat.le_antisymm hx hle
    subst hxc
    rw [Nat.min_eq_right (by omega), doubleCapped_cap]
  · rfl

/-- The loop's result: the exact doubling of the start, capped. The induction is on the
rounds left, each round starting from a value at most the cap. -/
theorem doubleCapped_eq_min (hcap : cap ≤ wordMax) :
    ∀ (k : Nat) {x : Nat}, x ≤ cap → doubleCapped cap k x = min cap (x * 2 ^ k)
  | 0, x, hx => by simp [doubleCapped, Nat.min_eq_right hx]
  | k + 1, x, hx => by
    have hexact : x * 2 ^ (k + 1) = 2 * x * 2 ^ k := by
      rw [Nat.pow_succ, Nat.mul_comm (2 ^ k) 2, ← Nat.mul_assoc, Nat.mul_comm x 2]
    rw [doubleCapped_succ hcap hx, doubleCapped_eq_min hcap k (Nat.min_le_right _ _), hexact,
      min_min_mul (Nat.two_pow_pos k)]

/-! ### The waits of a policy -/

variable (p : Policy)

theorem firstMs_le_capMs : p.firstMs ≤ p.capMs := Nat.le_max_right _ _

/-- The cap of a policy whose waits are words is a word. -/
theorem capMs_le_wordMax (hbase : p.baseMs ≤ wordMax) (hmax : p.maxMs ≤ wordMax) :
    p.capMs ≤ wordMax := by
  have hone : 1 ≤ wordMax := by decide
  unfold capMs firstMs
  omega

/-- The wait before retry `n` is the first wait doubled `n - 1` times, exactly, then capped. -/
theorem backoff_eq_min (hbase : p.baseMs ≤ wordMax) (hmax : p.maxMs ≤ wordMax) (n : Nat) :
    p.backoff n = min p.capMs (p.firstMs * 2 ^ (n - 1)) :=
  doubleCapped_eq_min (p.capMs_le_wordMax hbase hmax) (n - 1) p.firstMs_le_capMs

example : ({ baseMs := 5, maxMs := 30 } : Policy).backoff 4 = 30 := by decide

/-- Backoff is a capped doubling that never overflows. For a policy whose base and maximum
are 64-bit words, the wait before retry `n` (attempt 0 waits as attempt 1) is the first wait
`b = max base 1` doubled `n - 1` times over the naturals and capped at `c = max maximum b`.
So it is a word, lies in `[b, c]`, never shrinks as `n` grows, and is `c` once `b * 2 ^ (n - 1)`
reaches `c`. -/
theorem backoff_is_capped_doubling (hbase : p.baseMs ≤ wordMax) (hmax : p.maxMs ≤ wordMax) :
    (∀ n, p.backoff n = min p.capMs (p.firstMs * 2 ^ (n - 1))) ∧
    (∀ n, p.firstMs ≤ p.backoff n ∧ p.backoff n ≤ p.capMs ∧ p.backoff n ≤ wordMax) ∧
    Monotone p.backoff ∧
    (∀ n, p.capMs ≤ p.firstMs * 2 ^ (n - 1) → p.backoff n = p.capMs) := by
  have hclosed := p.backoff_eq_min hbase hmax
  refine ⟨hclosed, fun n => ⟨?_, ?_, ?_⟩, fun m n hmn => ?_, fun n hn => ?_⟩
  · -- the first wait is at most the cap and at most its own doublings
    rw [hclosed]
    exact le_min p.firstMs_le_capMs (Nat.le_mul_of_pos_right _ (Nat.two_pow_pos _))
  · rw [hclosed]
    exact Nat.min_le_left _ _
  · rw [hclosed]
    exact le_trans (Nat.min_le_left _ _) (p.capMs_le_wordMax hbase hmax)
  · rw [hclosed, hclosed]
    have hpow : 2 ^ (m - 1) ≤ 2 ^ (n - 1) := Nat.pow_le_pow_right (by decide) (by omega)
    exact le_min (Nat.min_le_left _ _) (le_trans (Nat.min_le_right _ _) (Nat.mul_le_mul_left _ hpow))
  · rw [hclosed, Nat.min_eq_left hn]

/-- The extreme policy that starts at half the word range: its second wait saturates the
doubling, which the cap of the largest word hides. -/
theorem half_word_policy_backoff_is_capped_doubling :
    let p : Policy := { baseMs := 2 ^ 63, maxMs := wordMax }
    (p.baseMs ≤ wordMax ∧ p.maxMs ≤ wordMax) ∧
    (∀ n, p.backoff n = min p.capMs (p.firstMs * 2 ^ (n - 1))) ∧
    (∀ n, p.firstMs ≤ p.backoff n ∧ p.backoff n ≤ p.capMs ∧ p.backoff n ≤ wordMax) ∧
    Monotone p.backoff ∧
    (∀ n, p.capMs ≤ p.firstMs * 2 ^ (n - 1) → p.backoff n = p.capMs) :=
  have hbase : (2 ^ 63 : Nat) ≤ wordMax := by decide
  have hmax : wordMax ≤ wordMax := Nat.le_refl _
  ⟨⟨hbase, hmax⟩, backoff_is_capped_doubling { baseMs := 2 ^ 63, maxMs := wordMax } hbase hmax⟩

end Policy

end ScopedWork
