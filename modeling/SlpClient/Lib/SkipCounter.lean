import Mathlib.Data.Nat.Basic

/-!
# Wrapping counters that skip zero

A sender numbers its messages without end and stamps each with a counter
below `modulus` that skips zero on wrap, so the stamps have period
`modulus - 1`.  A receiver compares two stamps by their distance modulo
`modulus`.  The two moduli differ by one, so the distance of the stamps is
that of the numbers, or one more for each wrap between them.
-/

namespace SlpClient.Lib

/-- The stamp at a position of a counter that skips zero. -/
def skipStamp (modulus position : Nat) : Nat :=
  1 + position % (modulus - 1)

/-- How far a stamp lies behind another, modulo `modulus`. -/
def stampsBehind (modulus newest other : Nat) : Nat :=
  (modulus - other + newest) % modulus

/-- Adding less than a period wraps at most once. -/
theorem add_mod_cases {period offset : Nat} (position : Nat)
    (short : offset < period) :
    ((position + offset) % period = position % period + offset ∧
        position % period + offset < period) ∨
      ((position + offset) % period + period =
          position % period + offset) := by
  have bound : position % period < period := Nat.mod_lt _ (by omega)
  rw [Nat.add_mod, Nat.mod_eq_of_lt short]
  by_cases fits : position % period + offset < period
  · exact .inl ⟨Nat.mod_eq_of_lt fits, fits⟩
  · right
    rw [Nat.mod_eq_sub_mod (by omega), Nat.mod_eq_of_lt (by omega)]
    omega

/-- A stamp up to `window - 2` positions back lies inside the window. -/
theorem stampsBehind_lt_of_older {modulus window offset : Nat}
    (position : Nat) (wide : 2 ≤ window) (room : window < modulus)
    (near : offset ≤ window - 2) :
    stampsBehind modulus (skipStamp modulus (position + offset))
      (skipStamp modulus position) < window := by
  have bound : position % (modulus - 1) < modulus - 1 :=
    Nat.mod_lt _ (by omega)
  unfold stampsBehind skipStamp
  rcases add_mod_cases position
    (show offset < modulus - 1 by omega) with
    ⟨plain, fits⟩ | wrapped
  · have total :
        modulus - (1 + position % (modulus - 1)) +
            (1 + (position + offset) % (modulus - 1)) =
          offset + modulus := by
      omega
    rw [total, Nat.add_mod_right, Nat.mod_eq_of_lt (by omega)]
    omega
  · have total :
        modulus - (1 + position % (modulus - 1)) +
            (1 + (position + offset) % (modulus - 1)) =
          offset + 1 := by
      omega
    rw [total, Nat.mod_eq_of_lt (by omega)]
    omega

/-- A stamp ahead by no more than a period less the window lies outside. -/
theorem le_stampsBehind_of_newer {modulus window offset : Nat}
    (position : Nat) (wide : 2 ≤ window) (room : window < modulus)
    (ahead : 0 < offset) (near : offset ≤ modulus - 1 - window) :
    window ≤
      stampsBehind modulus (skipStamp modulus position)
        (skipStamp modulus (position + offset)) := by
  have bound : position % (modulus - 1) < modulus - 1 :=
    Nat.mod_lt _ (by omega)
  unfold stampsBehind skipStamp
  rcases add_mod_cases position
    (show offset < modulus - 1 by omega) with
    ⟨plain, fits⟩ | wrapped
  · have total :
        modulus - (1 + (position + offset) % (modulus - 1)) +
            (1 + position % (modulus - 1)) =
          modulus - offset := by
      omega
    rw [total, Nat.mod_eq_of_lt (by omega)]
    omega
  · have total :
        modulus - (1 + (position + offset) % (modulus - 1)) +
            (1 + position % (modulus - 1)) =
          modulus - 1 - offset + modulus := by
      omega
    rw [total, Nat.add_mod_right, Nat.mod_eq_of_lt (by omega)]
    omega

/--
Within `window - 2` positions back and a period less the window ahead, the
distance of the stamps tells exactly which of the two positions is newer.
-/
theorem stampsBehind_lt_iff {modulus window newest other : Nat}
    (wide : 2 ≤ window) (room : window < modulus)
    (back : newest ≤ other + (window - 2))
    (ahead : other ≤ newest + (modulus - 1 - window)) :
    stampsBehind modulus (skipStamp modulus newest)
        (skipStamp modulus other) < window ↔
      other ≤ newest := by
  constructor
  · intro inside
    by_contra newer
    have positive : 0 < other - newest := by omega
    have reach : other - newest ≤ modulus - 1 - window := by omega
    have outside :=
      le_stampsBehind_of_newer newest wide room positive reach
    rw [show newest + (other - newest) = other by omega] at outside
    omega
  · intro older
    have reach : newest - other ≤ window - 2 := by omega
    have inside :=
      stampsBehind_lt_of_older other wide room reach
    rwa [show other + (newest - other) = newest by omega] at inside

end SlpClient.Lib
