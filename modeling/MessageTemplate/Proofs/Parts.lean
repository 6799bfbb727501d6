/-
# Least numbers of parts

The number of parts of a message is the least one that holds its units, although
one part alone holds more than each of several (`isLeast_smsParts`); for a
broadcast, whose capacities are all alike, see `isLeast_broadcastParts`.

The numbers can be counted in words of 64 bits.  There a step can fail: a divisor
may be zero, and a sum may be too large.  `ceilDiv?`, `smsParts?` and
`broadcastParts?` count with steps that fail where a word does, and no step does,
whatever the units are (`smsParts?_eq`, `broadcastParts?_eq`).
`parts_least_sufficient` has all of this together.
-/
import Mathlib
import MessageTemplate.Proofs.Length

namespace MessageTemplate.Gsm

/-! ## Sufficient parts -/

/-- The units that a text message holds in a number of parts. -/
def Encoding.unitsIn (e : Encoding) (parts : Nat) : Nat :=
  if parts = 1 then e.partCapacity.single else parts * e.partCapacity.concatenated

/-- A message in one part has room for the units of a concatenated one. -/
theorem Encoding.concatenated_le_single (e : Encoding) :
    e.partCapacity.concatenated ≤ e.partCapacity.single := by
  cases e <;> decide

/-- What does not fit into one part needs at least two. -/
theorem one_lt_ceilDiv {units : Nat} {e : Encoding} (h : e.partCapacity.single < units) :
    1 < ceilDiv units e.partCapacity.concatenated := by
  have hle := e.concatenated_le_single
  rw [← not_le, ceilDiv_le_iff e.concatenated_pos, Nat.one_mul]
  omega

/-- **Text messages.**  The number of parts is the least one whose parts hold the units. -/
theorem isLeast_smsParts (units : Nat) (e : Encoding) :
    IsLeast {k | 1 ≤ k ∧ units ≤ e.unitsIn k} (smsParts units e) := by
  by_cases hone : units ≤ e.partCapacity.single
  · rw [smsParts, if_pos hone]
    exact ⟨⟨Nat.le_refl 1, by rwa [Encoding.unitsIn, if_pos rfl]⟩, fun k hk => hk.1⟩
  · have htwo := one_lt_ceilDiv (not_le.1 hone)
    rw [smsParts, if_neg hone]
    constructor
    · refine ⟨htwo.le, ?_⟩
      rw [Encoding.unitsIn, if_neg htwo.ne']
      exact le_ceilDiv_mul units e.concatenated_pos
    · rintro k ⟨-, hk⟩
      rw [Encoding.unitsIn] at hk
      split at hk
      · exact absurd hk hone
      · exact (ceilDiv_le_iff e.concatenated_pos).2 hk

/-- **Broadcasts.**  The number of capacities is the least one that holds the units. -/
theorem isLeast_broadcastParts (units : Nat) (e : Encoding) :
    IsLeast {k | 1 ≤ k ∧ units ≤ k * e.broadcastCapacity} (broadcastParts units e) := by
  have hiff : ∀ k, ceilDiv units e.broadcastCapacity ≤ k ↔ units ≤ k * e.broadcastCapacity :=
    fun k => ceilDiv_le_iff e.broadcastCapacity_pos
  constructor
  · exact ⟨le_max_right _ 1, (hiff _).1 (le_max_left _ 1)⟩
  · rintro k ⟨hpos, hk⟩
    exact max_le ((hiff k).2 hk) hpos

/-- More units need no fewer parts. -/
theorem monotone_smsParts (e : Encoding) : Monotone fun units => smsParts units e :=
  fun _ _ hle => smsParts_le_smsParts hle.trans fun _ => hle.trans

/-- More units need no fewer capacities. -/
theorem monotone_broadcastParts (e : Encoding) : Monotone fun units => broadcastParts units e :=
  fun _ _ hle => broadcastParts_le_broadcastParts fun _ => hle.trans

/-! ## Words -/

/-- The quotient and the remainder of two words, unless the divisor is zero. -/
def divMod? (n d : UInt64) : Option (UInt64 × UInt64) :=
  if d = 0 then none else some (n / d, n % d)

/-- The sum of two words, unless it is too large for a word. -/
def add? (m n : UInt64) : Option UInt64 :=
  if m.toNat + n.toNat < UInt64.size then some (m + n) else none

/-- The least number of pieces of a given size that hold a number of units, in words. -/
def ceilDiv? (units size : UInt64) : Option UInt64 :=
  (divMod? units size).bind fun parts =>
    if 0 < parts.2 then add? parts.1 1 else some parts.1

/-- The number of parts that a text message needs, in words. -/
def smsParts? (units : UInt64) (e : Encoding) : Option UInt64 :=
  if units ≤ .ofNat e.partCapacity.single then some 1
  else ceilDiv? units (.ofNat e.partCapacity.concatenated)

/-- The number of whole capacities that a broadcast needs, in words. -/
def broadcastParts? (units : UInt64) (e : Encoding) : Option UInt64 :=
  (ceilDiv? units (.ofNat e.broadcastCapacity)).map fun n => max n 1

/-- A sum that is not too large is the sum of the numbers. -/
theorem add?_eq {m n : UInt64} (h : m.toNat + n.toNat < UInt64.size) :
    (add? m n).map UInt64.toNat = some (m.toNat + n.toNat) := by
  rw [add?, if_pos h, Option.map_some, UInt64.toNat_add, Nat.mod_eq_of_lt h]

/-- Where something is left over, there is room for another piece. -/
theorem div_add_one_le {units size : Nat} (h : units % size ≠ 0) :
    units / size + 1 ≤ units := by
  have hsplit := Nat.div_add_mod units size
  rcases Nat.eq_zero_or_pos size with rfl | hpos
  · rw [Nat.mod_zero] at h
    rw [Nat.div_zero]
    omega
  · have hle := Nat.le_mul_of_pos_left (units / size) hpos
    omega

/-- Pieces that are not empty can be counted in words. -/
theorem ceilDiv?_eq (units : UInt64) {size : UInt64} (h : 0 < size.toNat) :
    (ceilDiv? units size).map UInt64.toNat = some (ceilDiv units.toNat size.toNat) := by
  have hne : size ≠ 0 := by
    rintro rfl
    exact absurd h (by decide)
  have hrem : 0 < units % size ↔ units.toNat % size.toNat ≠ 0 := by
    rw [UInt64.lt_iff_toNat_lt, UInt64.toNat_mod, UInt64.toNat_zero, Nat.pos_iff_ne_zero]
  rw [ceilDiv?, divMod?, if_neg hne, Option.bind_some, ceilDiv]
  by_cases hzero : units.toNat % size.toNat = 0
  · rw [if_neg fun hpos => hrem.1 hpos hzero, if_pos hzero, Option.map_some, UInt64.toNat_div,
      Nat.add_zero]
  · -- the quotient and one more is at most the units, so it is a word as they are
    have hroom : (units / size).toNat + (1 : UInt64).toNat < UInt64.size := by
      rw [UInt64.toNat_div, UInt64.toNat_one]
      exact Nat.lt_of_le_of_lt (div_add_one_le hzero) units.toNat_lt_size
    rw [if_pos (hrem.2 hzero), if_neg hzero, add?_eq hroom, UInt64.toNat_div, UInt64.toNat_one]

/-- The capacities of the parts are words. -/
theorem toNat_partCapacity (e : Encoding) :
    (UInt64.ofNat e.partCapacity.single).toNat = e.partCapacity.single
      ∧ (UInt64.ofNat e.partCapacity.concatenated).toNat = e.partCapacity.concatenated := by
  cases e <;> decide

/-- The capacities of broadcasts are words. -/
theorem toNat_broadcastCapacity (e : Encoding) :
    (UInt64.ofNat e.broadcastCapacity).toNat = e.broadcastCapacity := by
  cases e <;> decide

/-- The parts of a text message can be counted in words. -/
theorem smsParts?_eq (units : UInt64) (e : Encoding) :
    (smsParts? units e).map UInt64.toNat = some (smsParts units.toNat e) := by
  obtain ⟨hsingle, hconcatenated⟩ := toNat_partCapacity e
  have hfits : units ≤ .ofNat e.partCapacity.single ↔ units.toNat ≤ e.partCapacity.single := by
    rw [UInt64.le_iff_toNat_le, hsingle]
  rw [smsParts?, smsParts]
  by_cases hone : units.toNat ≤ e.partCapacity.single
  · rw [if_pos (hfits.2 hone), if_pos hone]
    rfl
  · rw [if_neg (mt hfits.1 hone), if_neg hone,
      ceilDiv?_eq units (by rw [hconcatenated]; exact e.concatenated_pos), hconcatenated]

/-- The capacities that a broadcast needs can be counted in words. -/
theorem broadcastParts?_eq (units : UInt64) (e : Encoding) :
    (broadcastParts? units e).map UInt64.toNat = some (broadcastParts units.toNat e) := by
  have hcapacity := toNat_broadcastCapacity e
  have hpos : 0 < (UInt64.ofNat e.broadcastCapacity).toNat := by
    rw [hcapacity]
    exact e.broadcastCapacity_pos
  have hceil := ceilDiv?_eq units hpos
  rw [hcapacity] at hceil
  obtain ⟨n, hn, hvalue⟩ := Option.map_eq_some_iff.1 hceil
  rw [broadcastParts?, hn, Option.map_some, Option.map_some, UInt64.toNat_max, UInt64.toNat_one,
    hvalue, broadcastParts]

/-- **Parts.**  The parts of a text message and the capacities of a broadcast are
the least number, of at least one, that holds the units.  In words of 64 bits no
step of counting them fails, and the words are these numbers.  More units need no
fewer. -/
theorem parts_least_sufficient (e : Encoding) :
    (∀ units, IsLeast {k | 1 ≤ k ∧ units ≤ e.unitsIn k} (smsParts units e))
      ∧ (∀ units, IsLeast {k | 1 ≤ k ∧ units ≤ k * e.broadcastCapacity} (broadcastParts units e))
      ∧ (∀ units : UInt64, (smsParts? units e).map UInt64.toNat = some (smsParts units.toNat e))
      ∧ (∀ units : UInt64,
        (broadcastParts? units e).map UInt64.toNat = some (broadcastParts units.toNat e))
      ∧ Monotone (fun units => smsParts units e)
      ∧ Monotone (fun units => broadcastParts units e) :=
  ⟨fun units => isLeast_smsParts units e, fun units => isLeast_broadcastParts units e,
    fun units => smsParts?_eq units e, fun units => broadcastParts?_eq units e,
    monotone_smsParts e, monotone_broadcastParts e⟩

end MessageTemplate.Gsm
