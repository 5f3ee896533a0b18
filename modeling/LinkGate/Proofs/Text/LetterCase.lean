import LinkGate.Text.Ascii

/-!
# What lower case changes

Verdicts are reached on the text in lower case, while a reader downstream sees the text as it was.
So each class of characters that a verdict looks at has to be known on both sides of `Text.lower`.
The classes are told by the numbers of their characters here, and the rest follows from
`toNat_toLower`: only the numbers of `A` to `Z` move, and they move by 32.
-/

namespace LinkGate.Text

theorem isUpper_iff {c : Char} : c.isUpper = true ↔ 65 ≤ c.toNat ∧ c.toNat ≤ 90 := by
  show decide ('A'.val ≤ c.val ∧ c.val ≤ 'Z'.val) = true ↔ _
  rw [decide_eq_true_eq, UInt32.le_iff_toNat_le, UInt32.le_iff_toNat_le, Char.toNat_val]
  rfl

theorem isLower_iff {c : Char} : c.isLower = true ↔ 97 ≤ c.toNat ∧ c.toNat ≤ 122 := by
  show (decide ('a'.val ≤ c.val) && decide (c.val ≤ 'z'.val)) = true ↔ _
  rw [Bool.and_eq_true, decide_eq_true_eq, decide_eq_true_eq, UInt32.le_iff_toNat_le,
    UInt32.le_iff_toNat_le, Char.toNat_val]
  rfl

theorem isDigit_iff {c : Char} : c.isDigit = true ↔ 48 ≤ c.toNat ∧ c.toNat ≤ 57 := by
  show (decide ('0'.val ≤ c.val) && decide (c.val ≤ '9'.val)) = true ↔ _
  rw [Bool.and_eq_true, decide_eq_true_eq, decide_eq_true_eq, UInt32.le_iff_toNat_le,
    UInt32.le_iff_toNat_le, Char.toNat_val]
  rfl

theorem isAlphanum_iff {c : Char} : c.isAlphanum = true ↔
    ((65 ≤ c.toNat ∧ c.toNat ≤ 90) ∨ 97 ≤ c.toNat ∧ c.toNat ≤ 122) ∨
      48 ≤ c.toNat ∧ c.toNat ≤ 57 := by
  show ((c.isUpper || c.isLower) || c.isDigit) = true ↔ _
  rw [Bool.or_eq_true, Bool.or_eq_true, isUpper_iff, isLower_iff, isDigit_iff]

/-- Only the capital letters of ASCII move. -/
theorem toNat_toLower (c : Char) :
    c.toLower.toNat = if 65 ≤ c.toNat ∧ c.toNat ≤ 90 then c.toNat + 32 else c.toNat := by
  have hcapital : ('A'.val ≤ c.val ∧ c.val ≤ 'Z'.val) ↔ 65 ≤ c.toNat ∧ c.toNat ≤ 90 := by
    rw [← isUpper_iff]
    exact (decide_eq_true_iff).symm
  unfold Char.toLower
  split
  · next h =>
    have hc := hcapital.mp h
    rw [if_pos hc, Char.toNat_mk, UInt32.toNat_add, Char.toNat_val]
    -- the distance from `A` to `a`
    rw [show ('a'.val - 'A'.val).toNat = 32 from rfl]
    omega
  · next h =>
    rw [if_neg (mt hcapital.mpr h)]

/-- Lower case moves the capital letters of ASCII by 32, and no other character. -/
theorem toLower_eq_ite (c : Char) :
    c.toLower = if 'A' ≤ c ∧ c ≤ 'Z' then Char.ofNat (c.toNat + 32) else c := by
  have hcap : ('A' ≤ c ∧ c ≤ 'Z') ↔ 65 ≤ c.toNat ∧ c.toNat ≤ 90 := by
    rw [Char.le_def, Char.le_def, UInt32.le_iff_toNat_le, UInt32.le_iff_toNat_le, Char.toNat_val]
    rfl
  rw [← Char.toNat_inj, toNat_toLower]
  split
  · next h =>
    have hvalid : (c.toNat + 32).isValidChar := .inl (by omega)
    rw [if_pos (hcap.mpr h), Char.ofNat, dif_pos hvalid]
    rfl
  · next h => rw [if_neg (mt hcap.mp h)]

/-- A character that is no letter is the lower case of itself only. -/
theorem toLower_eq_iff {c d : Char} (hd : d.isAlpha = false) : c.toLower = d ↔ c = d := by
  have hd' : ¬ (65 ≤ d.toNat ∧ d.toNat ≤ 90) ∧ ¬ (97 ≤ d.toNat ∧ d.toNat ≤ 122) := by
    have hor : (d.isUpper || d.isLower) = false := hd
    rw [Bool.or_eq_false_iff, ← Bool.not_eq_true, ← Bool.not_eq_true, isUpper_iff,
      isLower_iff] at hor
    exact hor
  rw [← Char.toNat_inj, ← Char.toNat_inj, toNat_toLower]
  split <;> omega

end LinkGate.Text
