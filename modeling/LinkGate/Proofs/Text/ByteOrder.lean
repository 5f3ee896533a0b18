import LinkGate.Proofs.Text.Utf8
import Mathlib.Data.List.Lex

/-!
# The order of bytes is the order of characters

Two texts are compared byte by byte, or character by character, and either way it is the first
difference that decides. In UTF-8 both ways come to the same.

* **`KeepsOrder.concat_tailByte`**: a continuation byte adds six bits. Two sequences that keep the
  order of the higher bits still do so when it is added.
* **`before_encodeChar`**: so the sequences of two characters differ in a byte, and the first such
  byte tells which character is the lesser, whatever comes after them. Sequences of different
  length already differ in the first byte.
* **`bytesPrecede_encode_iff`**: from this, by induction on where the texts differ.
-/

namespace LinkGate.Text

def BytesPrecede (a b : List UInt8) : Prop :=
  List.Lex (fun x y => x.toNat < y.toNat) a b

/-- Lists of characters in the order of a dictionary, by code points. -/
def CharsPrecede (s t : List Char) : Prop :=
  List.Lex (fun c d => c.toNat < d.toNat) s t

namespace Utf8

variable {c d : Char} {s t : List Char} {p q : List UInt8} {n m : Nat}

/-! ## Sequences -/

/-- The two sequences differ, and the first has the lesser byte where they do. -/
def Before (p q : List UInt8) : Prop :=
  ∀ r r', BytesPrecede (p ++ r) (q ++ r')

/-- Sequences whose first bytes differ are told apart by these. -/
theorem before_ofNat_cons (hn : n < m) (hm : m < 256) (p q : List UInt8) :
    Before (UInt8.ofNat n :: p) (UInt8.ofNat m :: q) := by
  intro r r'
  apply List.Lex.rel
  rw [toNat_ofNat_of_lt (by omega), toNat_ofNat_of_lt hm]
  exact hn

theorem Before.append (h : Before p q) (r r' : List UInt8) : Before (p ++ r) (q ++ r') := by
  intro x y
  rw [List.append_assoc, List.append_assoc]
  exact h _ _

theorem Before.append_left (h : Before p q) (r : List UInt8) : Before (r ++ p) (r ++ q) := by
  intro x y
  rw [List.append_assoc, List.append_assoc]
  exact List.Lex.append_left _ (h x y) r

def KeepsOrder (p q : List UInt8) (n m : Nat) : Prop :=
  (n < m → Before p q) ∧ (n = m → p = q)

theorem keepsOrder_first {base : Nat} (h : base + m < 256) :
    KeepsOrder [UInt8.ofNat (base + n)] [UInt8.ofNat (base + m)] n m := by
  refine ⟨fun hless => ?_, fun hsame => by rw [hsame]⟩
  exact before_ofNat_cons (by omega) h [] []

/-- A further tail byte keeps the order: it has the lowest six bits of the number, and what is
before it has the others. -/
theorem KeepsOrder.concat_tailByte (h : KeepsOrder p q (n / 64) (m / 64)) :
    KeepsOrder (p ++ [tailByte n]) (q ++ [tailByte m]) n m := by
  refine ⟨fun hless => ?_, fun hsame => by rw [hsame, h.2 (by rw [hsame])]⟩
  rcases Nat.lt_or_ge (n / 64) (m / 64) with hhigh | hhigh
  · exact (h.1 hhigh).append _ _
  · -- the higher bits are the same, so the lower ones decide
    rw [h.2 (by omega)]
    apply Before.append_left
    exact before_ofNat_cons (by omega) (by omega) [] []

/-! ## Characters -/

/-- The number of the first byte of a character. It tells how many bytes follow. -/
def lead (n : Nat) : Nat :=
  if n < 0x80 then n
  else if n < 0x800 then 0xC0 + n / 64
  else if n < 0x10000 then 0xE0 + n / 4096
  else 0xF0 + n / 262144

theorem lead_lt (h : n < 0x110000) : lead n < 256 := by
  unfold lead
  repeat' split
  all_goals omega

/-- The first byte never decreases as the number grows. -/
theorem lead_le_lead (h : n ≤ m) (hm : m < 0x110000) : lead n ≤ lead m := by
  unfold lead
  repeat' split
  all_goals omega

/-- Two numbers with one first byte have sequences of one length. -/
theorem of_lead_eq (h : n < m) (hlead : lead n = lead m) (hm : m < 0x110000) :
    (0x80 ≤ n ∧ m < 0x800) ∨ (0x800 ≤ n ∧ m < 0x10000) ∨ 0x10000 ≤ n := by
  unfold lead at hlead
  repeat' split at hlead
  all_goals omega

/-- The sequence of a character begins with its first byte. -/
theorem encodeChar_eq_cons (c : Char) :
    ∃ tails, encodeChar c = UInt8.ofNat (lead c.toNat) :: tails := by
  unfold encodeChar lead
  simp only
  repeat' split
  all_goals exact ⟨_, rfl⟩

/-- Characters are written in the order of their numbers. Where the first bytes are the same, the
cases are the lengths of the sequences. -/
theorem before_encodeChar (h : c.toNat < d.toNat) : Before (encodeChar c) (encodeChar d) := by
  have hd := toNat_lt d
  rcases Nat.lt_or_eq_of_le (lead_le_lead (Nat.le_of_lt h) hd) with hlead | hlead
  · obtain ⟨p, hp⟩ := encodeChar_eq_cons c
    obtain ⟨q, hq⟩ := encodeChar_eq_cons d
    rw [hp, hq]
    exact before_ofNat_cons hlead (lead_lt hd) p q
  -- the first bytes are the same, so as many bytes follow
  rcases of_lead_eq h hlead hd with ⟨hleast, hlimit⟩ | ⟨hleast, hlimit⟩ | hleast
  · rw [encodeChar_two hleast (by omega), encodeChar_two (by omega) hlimit]
    exact (keepsOrder_first (by omega)).concat_tailByte.1 h
  · rw [encodeChar_three hleast (by omega), encodeChar_three (by omega) hlimit,
      ← Nat.div_div_eq_div_mul _ 64 64, ← Nat.div_div_eq_div_mul _ 64 64]
    exact (keepsOrder_first (by omega)).concat_tailByte.concat_tailByte.1 h
  · rw [encodeChar_four hleast, encodeChar_four (by omega),
      ← Nat.div_div_eq_div_mul _ 4096 64, ← Nat.div_div_eq_div_mul _ 4096 64,
      ← Nat.div_div_eq_div_mul _ 64 64, ← Nat.div_div_eq_div_mul _ 64 64]
    exact (keepsOrder_first (by omega)).concat_tailByte.concat_tailByte.concat_tailByte.1 h

/-! ## Texts -/

/-- Texts are written in the order of their characters. -/
theorem bytesPrecede_of_charsPrecede (h : CharsPrecede s t) :
    BytesPrecede (encode s) (encode t) := by
  induction h with
  | @nil d t =>
    obtain ⟨tails, htails⟩ := encodeChar_eq_cons d
    rw [encode_nil, encode_cons, htails]
    exact .nil
  | @rel c s d t h =>
    rw [encode_cons, encode_cons]
    exact before_encodeChar h _ _
  | @cons c s t _ ih =>
    rw [encode_cons, encode_cons]
    exact List.Lex.append_left _ ih _

/-- The library compares lists of bytes in the order of a dictionary. -/
theorem compare_eq_lt_iff {a b : List UInt8} : compare a b = .lt ↔ BytesPrecede a b := by
  induction a generalizing b with
  | nil =>
    cases b with
    | nil => exact ⟨nofun, nofun⟩
    | cons y b => exact ⟨fun _ => .nil, fun _ => List.compare_nil_cons⟩
  | cons x a ih =>
    cases b with
    | nil =>
      rw [List.compare_cons_nil]
      exact ⟨nofun, nofun⟩
    | cons y b =>
      have hbytes : compare x y = .lt ↔ x.toNat < y.toNat :=
        Std.compare_eq_lt.trans UInt8.lt_iff_toNat_lt
      rw [List.compare_cons_cons, Ordering.then_eq_lt, hbytes, Std.compare_eq_iff_eq, ih]
      constructor
      · rintro (hless | ⟨rfl, hrest⟩)
        · exact .rel hless
        · exact .cons hrest
      · intro h
        cases h with
        | rel hless => exact .inl hless
        | cons hrest => exact .inr ⟨rfl, hrest⟩

/-- Two texts that differ stand in order, one way or the other. -/
theorem charsPrecede_trichotomous (s t : List Char) :
    CharsPrecede s t ∨ s = t ∨ CharsPrecede t s := by
  induction s generalizing t with
  | nil =>
    cases t with
    | nil => exact .inr (.inl rfl)
    | cons d t => exact .inl .nil
  | cons c s ih =>
    cases t with
    | nil => exact .inr (.inr .nil)
    | cons d t =>
      rcases Nat.lt_trichotomy c.toNat d.toNat with hless | hsame | hgreater
      · exact .inl (.rel hless)
      · cases Char.toNat_inj.mp hsame
        rcases ih t with hrest | rfl | hrest
        · exact .inl (.cons hrest)
        · exact .inr (.inl rfl)
        · exact .inr (.inr (.cons hrest))
      · exact .inr (.inr (.rel hgreater))

/-- The order of the bytes is that of the characters. -/
theorem bytesPrecede_encode_iff : BytesPrecede (encode s) (encode t) ↔ CharsPrecede s t := by
  refine ⟨fun h => ?_, bytesPrecede_of_charsPrecede⟩
  have hless := compare_eq_lt_iff.mpr h
  -- in the two other cases the comparison has another outcome
  rcases charsPrecede_trichotomous s t with hchars | rfl | hchars
  · exact hchars
  · rw [Std.ReflOrd.compare_self] at hless
    cases hless
  · have hgreater := compare_eq_lt_iff.mpr (bytesPrecede_of_charsPrecede hchars)
    rw [Std.OrientedOrd.eq_swap, hgreater] at hless
    cases hless

end Utf8

/-- So is the order of strings. -/
theorem string_lt_iff {s t : String} : s < t ↔ CharsPrecede s.toList t.toList := by
  show List.Lex (fun c d : Char => c < d) s.toList t.toList ↔ _
  have hchars : (fun c d : Char => c < d) = fun c d => c.toNat < d.toNat := by
    funext c d
    rw [Char.lt_def, UInt32.lt_iff_toNat_lt]
    rfl
  rw [hchars]
  rfl

end LinkGate.Text
