import LinkGate.Text.Unprintable

/-!
# Printable text

A text is printable if no character in it has to be written by its number. Controls have to be, and
the line feed is one, so a printable text is on one line.
-/

namespace LinkGate.Text

variable {c : Char} {s t : List Char} {base n : Nat}

def Printable (s : List Char) : Prop :=
  ∀ c ∈ s, isUnprintable c = false

theorem all_not_isUnprintable_iff : s.all (fun c => !isUnprintable c) = true ↔ Printable s := by
  simp [Printable]

instance (s : List Char) : Decidable (Printable s) :=
  decidable_of_iff _ all_not_isUnprintable_iff

theorem printable_append : Printable (s ++ t) ↔ Printable s ∧ Printable t :=
  List.forall_mem_append

theorem printable_cons : Printable (c :: s) ↔ isUnprintable c = false ∧ Printable s :=
  List.forall_mem_cons

theorem printable_singleton : Printable [c] ↔ isUnprintable c = false :=
  List.forall_mem_singleton

/-- The controls of ASCII are not shown as they are. -/
theorem of_not_isUnprintable (h : isUnprintable c = false) : 0x20 ≤ c.toNat ∧ c.toNat ≠ 0x7F := by
  unfold isUnprintable at h
  simp only at h
  split at h
  · -- of the ASCII characters the controls are the unprintable ones
    rw [Bool.or_eq_false_iff, decide_eq_false_iff_not, beq_eq_false_iff_ne] at h
    omega
  · omega

/-- A text that is shown as it is stands on one line. -/
theorem Printable.newline_not_mem (h : Printable s) : '\n' ∉ s := by
  intro hmem
  have hleast := (of_not_isUnprintable (h _ hmem)).1
  revert hleast
  decide

/-! ## Numbers -/

/-- The digits of a number are digits of its base. By strong induction on the number, since all but
the last digit are those of its quotient. -/
theorem exists_digitChar_of_mem_toDigits (hbase : 1 < base) (h : c ∈ base.toDigits n) :
    ∃ d < base, c = d.digitChar := by
  induction n using Nat.strongRecOn with
  | ind n ih =>
    rw [Nat.toDigits_eq_if hbase] at h
    split at h
    · next hn => exact ⟨n, hn, List.mem_singleton.mp h⟩
    · next hn =>
      rcases List.mem_append.mp h with hfront | hlast
      · exact ih (n / base) (Nat.div_lt_self (by omega) hbase) hfront
      · exact ⟨n % base, Nat.mod_lt n (by omega), List.mem_singleton.mp hlast⟩

/-- Digits are shown as they are. -/
theorem printable_toDigits (hbase : 1 < base) (hlimit : base ≤ 16) (n : Nat) :
    Printable (base.toDigits n) := by
  intro c hc
  obtain ⟨d, hd, rfl⟩ := exists_digitChar_of_mem_toDigits hbase hc
  have hall : ∀ d < 16, isUnprintable d.digitChar = false := by decide
  exact hall d (by omega)

theorem printable_toString (n : Nat) : Printable (toString n).toList := by
  rw [Nat.toString_eq_ofList_toDigits, String.toList_ofList]
  exact printable_toDigits (by decide) (by decide) n

end LinkGate.Text
