import GroupScope.Number.Power
/-!
# Group and user ids

Ids are unsigned 64-bit words. An id is *usable* when it is positive and fits a signed 64-bit
column: only such ids come out of a number in an expression. Ids from a directory or from a native
list may lie outside that range, and each place that reads them says which ones it keeps.
-/

namespace GroupScope

/-- Identifies a group. Zero stands for "no group". -/
abbrev GroupId := UInt64

/-- Identifies a user. -/
abbrev UserId := UInt64

namespace GroupId

/-- The greatest id that a signed 64-bit column holds. -/
def maxStored : Nat := pow2 63 - 1

/-- The id fits a signed 64-bit column. -/
def isStorable (id : GroupId) : Bool := id.toNat ≤ maxStored

/-- The number as an id, if it is usable. -/
def ofNat? (n : Nat) : Option GroupId :=
  if 0 < n ∧ n ≤ maxStored then some (UInt64.ofNat n) else none

/-- A usable id is the number it was made from. -/
theorem toNat_of_ofNat? {n : Nat} {id : GroupId} (h : ofNat? n = some id) :
    id.toNat = n ∧ 0 < n ∧ n ≤ maxStored := by
  unfold ofNat? at h
  split at h
  · next bounds =>
    cases h
    have upper : n < 18446744073709551616 := by
      have := bounds.2
      rw [maxStored, pow2_63] at this
      omega
    exact ⟨UInt64.toNat_ofNat_of_lt' upper, bounds⟩
  · cases h

end GroupId

end GroupScope
