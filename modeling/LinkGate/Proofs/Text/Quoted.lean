import LinkGate.Proofs.Text.Printable
import LinkGate.Text.Quoted

/-!
# Quoted text reads back

A character that is written as an escape comes back from the reader in one of three ways: by the
letter of its escape, by the digits between the braces, or as itself. From that a quoted text reads
back whatever follows it (`decode?_encode_append`), so no two texts share a quoted form. A quoted
text is printable (`printable_encode`), so it is on one line.
-/

namespace LinkGate.Text.Quoted

variable {c d : Char} {s t r : List Char} {n : Nat}

/-! ## Digits -/

theorem hexValue?_digitChar (h : n < 16) : hexValue? n.digitChar = some n := by
  have hall : ∀ n < 16, hexValue? n.digitChar = some n := by decide
  exact hall n h

theorem digitChar_ne_closeBrace (h : n < 16) : n.digitChar ≠ closeBrace := by
  have hall : ∀ n < 16, n.digitChar ≠ closeBrace := by decide
  exact hall n h

theorem decodeFrom_digitChar_cons {value : Nat} (h : n < 16) :
    decodeFrom (.digits value) (n.digitChar :: r) = decodeFrom (.digits (16 * value + n)) r := by
  rw [decodeFrom, if_neg (digitChar_ne_closeBrace h), hexValue?_digitChar h]

/-- The digits of a number are read as the number, by strong induction on it. -/
theorem decodeFrom_toDigits_append (n : Nat) (r : List Char) :
    decodeFrom (.digits 0) (Nat.toDigits 16 n ++ r) = decodeFrom (.digits n) r := by
  induction n using Nat.strongRecOn generalizing r with
  | ind n ih =>
    rw [Nat.toDigits_eq_if (by decide)]
    split
    · next hn =>
      rw [List.singleton_append, decodeFrom_digitChar_cons hn, Nat.mul_zero, Nat.zero_add]
    · next hn =>
      -- all digits but the last make up `n / 16`
      have hlast : n % 16 < 16 := Nat.mod_lt n (by decide)
      have hless : n / 16 < n := Nat.div_lt_self (by omega) (by decide)
      rw [List.append_assoc, ih (n / 16) hless, List.singleton_append,
        decodeFrom_digitChar_cons hlast, Nat.div_add_mod]

/-! ## Characters -/

/-- A letter after a backslash is read as the character that it was written for. -/
theorem ofLetter?_of_letter? (h : letter? c = some d) :
    ofLetter? d = some c ∧ d ≠ 'u' ∧ isUnprintable d = false := by
  unfold letter? at h
  repeat' split at h
  all_goals cases h
  all_goals
    next hc =>
      subst hc
      decide

theorem ne_of_letter?_eq_none (h : letter? c = none) : c ≠ '"' ∧ c ≠ '\\' := by
  refine ⟨?_, ?_⟩ <;>
    · rintro rfl
      revert h
      decide

/-- A character is read back, whatever follows. The cases are the three ways in which it is written.
-/
theorem decodeFrom_encodeChar_append (c : Char) (r : List Char) :
    decodeFrom .plain (encodeChar c ++ r)
      = (decodeFrom .plain r).map fun (s, t) => (c :: s, t) := by
  unfold encodeChar
  cases hletter : letter? c with
  | some d =>
    obtain ⟨hd, hu, -⟩ := ofLetter?_of_letter? hletter
    simp [decodeFrom, hd, hu]
  | none =>
    obtain ⟨hquote, hbackslash⟩ := ne_of_letter?_eq_none hletter
    simp only
    split
    · simp [decodeFrom, decodeFrom_toDigits_append, Char.ofNat_toNat]
    · simp [decodeFrom, hquote, hbackslash]

/-! ## Texts -/

theorem decodeFrom_flatMap_append (s r : List Char) :
    decodeFrom .plain (s.flatMap encodeChar ++ '"' :: r) = some (s, r) := by
  induction s with
  | nil => rfl
  | cons c s ih =>
    rw [List.flatMap_cons, List.append_assoc, decodeFrom_encodeChar_append, ih]
    rfl

/-- A quoted text is read back up to its closing mark, and what follows is left. -/
theorem decode?_encode_append (s r : List Char) : decode? (encode s ++ r) = some (s, r) := by
  rw [encode, List.cons_append, List.append_assoc, List.singleton_append, decode?, if_pos rfl,
    decodeFrom_flatMap_append]

/-! ## Quoted text is printable -/

/-- A character is written with characters that are shown as they are. -/
theorem printable_encodeChar (c : Char) : Printable (encodeChar c) := by
  unfold encodeChar
  cases hletter : letter? c with
  | some d =>
    have hd := (ofLetter?_of_letter? hletter).2.2
    exact printable_cons.mpr ⟨by decide, printable_singleton.mpr hd⟩
  | none =>
    simp only
    split
    · -- a number is written with hexadecimal digits
      have hdigits : Printable (Nat.toDigits 16 c.toNat) :=
        printable_toDigits (by decide) (by decide) c.toNat
      rw [printable_cons, printable_cons, printable_cons, printable_append]
      exact ⟨by decide, by decide, by decide, hdigits, by decide⟩
    · next h =>
      rw [printable_singleton]
      exact Bool.not_eq_true _ ▸ h

/-- So a quoted text stands on one line. -/
theorem printable_encode (s : List Char) : Printable (encode s) := by
  rw [encode, printable_cons, printable_append]
  refine ⟨by decide, fun c hc => ?_, by decide⟩
  obtain ⟨d, -, hd⟩ := List.mem_flatMap.mp hc
  exact printable_encodeChar d c hd

end LinkGate.Text.Quoted
