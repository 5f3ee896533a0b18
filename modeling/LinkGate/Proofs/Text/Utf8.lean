import LinkGate.Text.Utf8

/-!
# UTF-8 reads back

A character is written as a first byte and the continuation bytes that this byte owes. The reader
gets six bits from each continuation byte (`decodeFrom_tailByte`), and with the last one it has the
number of the character again (`decodeFrom_last_tailByte`). So a character comes back whatever
follows it (`decodeFrom_encodeChar_append`), and with it every text (`decode?_encode`).

Nothing else is read. What the reader accepts in the middle of a character is a continuation byte
that the writer would have written there (`of_decodeFrom_tailByte`, `of_decodeFrom_last_tailByte`),
so the bytes that are read as a text are those that it is written as (`decode?_eq_some_iff`).

A byte below 0x80 is a character by itself and part of no other (`toNat_of_mem_encodeChar`). So a
stream can be cut at line feeds before it is decoded.
-/

namespace LinkGate.Text.Utf8

variable {c : Char} {s : List Char} {b : UInt8} {r bytes : List UInt8} {n owed bits least : Nat}

/-! ## Bytes -/

theorem toNat_ofNat_of_lt (h : n < 256) : (UInt8.ofNat n).toNat = n := by
  rw [UInt8.toNat_ofNat', Nat.mod_eq_of_lt h]

theorem toNat_tailByte (n : Nat) : (tailByte n).toNat = 0x80 + n % 64 := by
  have hbits : n % 64 < 64 := Nat.mod_lt n (by decide)
  rw [tailByte, toNat_ofNat_of_lt (by omega)]

theorem toNat_lt (c : Char) : c.toNat < 0x110000 := by
  rcases c.valid with hlow | hhigh
  · exact Nat.lt_trans hlow (by decide)
  · exact hhigh.2

/-! ## Continuation bytes -/

/-- A tail byte adds its six bits to what was read of a sequence. -/
theorem decodeFrom_tailByte : decodeFrom (some ⟨owed + 2, bits, least⟩) (tailByte n :: r)
    = decodeFrom (some ⟨owed + 1, 64 * bits + n % 64, least⟩) r := by
  have hbits : n % 64 < 64 := Nat.mod_lt n (by decide)
  have hbyte := toNat_tailByte n
  have hsix : (tailByte n).toNat - 0x80 = n % 64 := by omega
  rw [decodeFrom]
  simp only
  rw [if_pos (by omega), if_neg (by omega), hsix]
  rfl

/-- The last one completes the character, if the sequence is not longer than need be. -/
theorem decodeFrom_last_tailByte (hbits : 64 * bits + n % 64 = c.toNat) (hleast : least ≤ c.toNat) :
    decodeFrom (some ⟨1, bits, least⟩) (tailByte n :: r) = (decodeFrom none r).map (c :: ·) := by
  have hlow : n % 64 < 64 := Nat.mod_lt n (by decide)
  have hbyte := toNat_tailByte n
  have hsix : (tailByte n).toNat - 0x80 = n % 64 := by omega
  have hscalar : scalar? least c.toNat = some c := by
    rw [scalar?, if_pos ⟨hleast, c.valid⟩, Char.ofNat_toNat]
  rw [decodeFrom]
  simp only
  rw [if_pos (by omega), if_pos (Nat.le_refl 1), hsix, hbits, hscalar]

/-! ## First bytes -/

/-- Below 0x80 a byte is a character. -/
theorem lead?_of_lt (h : n < 0x80) : lead? (UInt8.ofNat n) = some (.whole (Char.ofNat n)) := by
  unfold lead?
  rw [toNat_ofNat_of_lt (by omega)]
  simp only [if_pos h]

theorem lead?_two (h : n < 0x20) :
    lead? (UInt8.ofNat (0xC0 + n)) = some (.begins ⟨1, n, 0x80⟩) := by
  have hbits : 0xC0 + n - 0xC0 = n := by omega
  unfold lead?
  rw [toNat_ofNat_of_lt (by omega)]
  simp only
  rw [if_neg (by omega), if_neg (by omega), if_pos (by omega), hbits]

theorem lead?_three (h : n < 0x10) :
    lead? (UInt8.ofNat (0xE0 + n)) = some (.begins ⟨2, n, 0x800⟩) := by
  have hbits : 0xE0 + n - 0xE0 = n := by omega
  unfold lead?
  rw [toNat_ofNat_of_lt (by omega)]
  simp only
  rw [if_neg (by omega), if_neg (by omega), if_neg (by omega), if_pos (by omega), hbits]

theorem lead?_four (h : n < 8) :
    lead? (UInt8.ofNat (0xF0 + n)) = some (.begins ⟨3, n, 0x10000⟩) := by
  have hbits : 0xF0 + n - 0xF0 = n := by omega
  unfold lead?
  rw [toNat_ofNat_of_lt (by omega)]
  simp only
  rw [if_neg (by omega), if_neg (by omega), if_neg (by omega), if_neg (by omega),
    if_pos (by omega), hbits]

/-! ## Characters and texts -/

/-- Of the longer forms, the bytes after the first are tail bytes. -/
theorem encodeChar_two (hleast : 0x80 ≤ c.toNat) (hlimit : c.toNat < 0x800) :
    encodeChar c = [UInt8.ofNat (0xC0 + c.toNat / 64), tailByte c.toNat] := by
  unfold encodeChar
  simp only
  rw [if_neg (by omega), if_pos hlimit]

theorem encodeChar_three (hleast : 0x800 ≤ c.toNat) (hlimit : c.toNat < 0x10000) : encodeChar c =
    [UInt8.ofNat (0xE0 + c.toNat / 4096), tailByte (c.toNat / 64), tailByte c.toNat] := by
  unfold encodeChar
  simp only
  rw [if_neg (by omega), if_neg (by omega), if_pos hlimit]

theorem encodeChar_four (hleast : 0x10000 ≤ c.toNat) : encodeChar c =
    [UInt8.ofNat (0xF0 + c.toNat / 262144), tailByte (c.toNat / 4096), tailByte (c.toNat / 64),
      tailByte c.toNat] := by
  unfold encodeChar
  simp only
  rw [if_neg (by omega), if_neg (by omega), if_neg (by omega)]

/-- A character is read back, whatever follows it. -/
theorem decodeFrom_encodeChar_append (c : Char) (r : List UInt8) :
    decodeFrom none (encodeChar c ++ r) = (decodeFrom none r).map (c :: ·) := by
  have hlimit := toNat_lt c
  unfold encodeChar
  simp only
  split
  · next h =>
    rw [List.singleton_append, decodeFrom, lead?_of_lt h, Char.ofNat_toNat]
  split
  · next h =>
    rw [List.cons_append, List.singleton_append, decodeFrom, lead?_two (by omega)]
    exact decodeFrom_last_tailByte (by omega) (by omega)
  split
  · next h =>
    rw [List.cons_append, List.cons_append, List.singleton_append, decodeFrom,
      lead?_three (by omega)]
    simp only
    rw [decodeFrom_tailByte]
    exact decodeFrom_last_tailByte (by omega) (by omega)
  · rw [List.cons_append, List.cons_append, List.cons_append, List.singleton_append, decodeFrom,
      lead?_four (by omega)]
    simp only
    rw [decodeFrom_tailByte, decodeFrom_tailByte]
    exact decodeFrom_last_tailByte (by omega) (by omega)

theorem encode_cons (c : Char) (s : List Char) : encode (c :: s) = encodeChar c ++ encode s :=
  List.flatMap_cons

/-- What is written is read back. -/
theorem decode?_encode (s : List Char) : decode? (encode s) = some s := by
  unfold decode?
  induction s with
  | nil => rfl
  | cons c s ih => rw [encode_cons, decodeFrom_encodeChar_append, ih, Option.map_some]

theorem encode_ne_nil (h : s ≠ []) : encode s ≠ [] := by
  intro hempty
  have hread := decode?_encode s
  rw [hempty] at hread
  exact h (Option.some.inj hread).symm

/-- The writer writes what the core library does. -/
theorem encodeChar_eq_utf8EncodeChar (c : Char) : encodeChar c = String.utf8EncodeChar c := by
  have hlimit := toNat_lt c
  have htail : ∀ m, tailByte m = UInt8.ofNat (m % 64 + 0x80) := by
    intro m
    rw [tailByte, Nat.add_comm]
  unfold encodeChar String.utf8EncodeChar
  rw [Char.toNat_val]
  simp only [htail]
  -- the core library also cuts off bits of the first byte that cannot be there
  by_cases hone : c.toNat < 0x80
  · rw [if_pos hone, if_pos (show c.toNat ≤ 0x7F by omega)]
  rw [if_neg hone, if_neg (show ¬ c.toNat ≤ 0x7F by omega)]
  by_cases htwo : c.toNat < 0x800
  · have hfirst : 0xC0 + c.toNat / 64 = c.toNat / 64 % 32 + 0xC0 := by omega
    rw [if_pos htwo, if_pos (show c.toNat ≤ 0x7FF by omega), hfirst]
  rw [if_neg htwo, if_neg (show ¬ c.toNat ≤ 0x7FF by omega)]
  by_cases hthree : c.toNat < 0x10000
  · have hfirst : 0xE0 + c.toNat / 4096 = c.toNat / 4096 % 16 + 0xE0 := by omega
    rw [if_pos hthree, if_pos (show c.toNat ≤ 0xFFFF by omega), hfirst]
  · have hfirst : 0xF0 + c.toNat / 262144 = c.toNat / 262144 % 8 + 0xF0 := by omega
    rw [if_neg hthree, if_neg (show ¬ c.toNat ≤ 0xFFFF by omega), hfirst]

theorem toByteArray_encode (s : List Char) : (encode s).toByteArray = s.utf8Encode := by
  rw [encode, funext encodeChar_eq_utf8EncodeChar, List.utf8Encode]

/-! ## What is read was written -/

theorem toNat_ofNat_of_isValidChar (h : n.isValidChar) : (Char.ofNat n).toNat = n := by
  rw [Char.ofNat, dif_pos h]
  rfl

/-- A number that is read as a character is its number, and not too low for the length of the
sequence. -/
theorem of_scalar? (h : scalar? least n = some c) : least ≤ n ∧ c.toNat = n := by
  rw [scalar?] at h
  split at h
  · next hn => exact ⟨hn.1, by rw [← Option.some.inj h, toNat_ofNat_of_isValidChar hn.2]⟩
  · cases h

/-- A byte from 0x80 up to 0xBF is the tail byte of its six bits. -/
theorem eq_tailByte (hlow : 0x80 ≤ b.toNat) (hhigh : b.toNat < 0xC0) :
    b = tailByte (64 * bits + (b.toNat - 0x80)) := by
  have hbits : (64 * bits + (b.toNat - 0x80)) % 64 = b.toNat - 0x80 := by omega
  rw [← UInt8.toNat_inj, toNat_tailByte, hbits]
  omega

/-- A continuation byte that is not the last brings six bits. -/
theorem of_decodeFrom_tailByte (h : decodeFrom (some ⟨owed + 2, bits, least⟩) bytes = some s) :
    ∃ n rest, bytes = tailByte n :: rest ∧ n / 64 = bits ∧
      decodeFrom (some ⟨owed + 1, n, least⟩) rest = some s := by
  cases bytes with
  | nil => cases h
  | cons b rest =>
    rw [decodeFrom] at h
    simp only at h
    split at h
    · next hb =>
      rw [if_neg (by omega)] at h
      exact ⟨_, rest, by rw [← eq_tailByte hb.1 hb.2], by omega, h⟩
    · cases h

/-- The last continuation byte completes the number of a character. -/
theorem of_decodeFrom_last_tailByte (h : decodeFrom (some ⟨1, bits, least⟩) bytes = some s) :
    ∃ c tail rest, s = c :: tail ∧ bytes = tailByte c.toNat :: rest ∧ c.toNat / 64 = bits ∧
      least ≤ c.toNat ∧ decodeFrom none rest = some tail := by
  cases bytes with
  | nil => cases h
  | cons b rest =>
    rw [decodeFrom] at h
    simp only at h
    split at h
    · next hb =>
      rw [if_pos (Nat.le_refl 1)] at h
      split at h
      · next c hscalar =>
        obtain ⟨tail, htail, rfl⟩ := Option.map_eq_some_iff.mp h
        obtain ⟨hleast, hc⟩ := of_scalar? hscalar
        refine ⟨c, tail, rest, rfl, ?_, by omega, by omega, htail⟩
        rw [hc, ← eq_tailByte hb.1 hb.2]
      · cases h
    · cases h

theorem encodeChar_of_lead?_whole (h : lead? b = some (.whole c)) : encodeChar c = [b] := by
  unfold lead? at h
  simp only at h
  split at h
  · next hlow =>
    cases h
    have hvalid : b.toNat.isValidChar := .inl (by omega)
    unfold encodeChar
    rw [toNat_ofNat_of_isValidChar hvalid]
    simp only [if_pos hlow, UInt8.ofNat_toNat]
  · repeat' split at h
    all_goals cases h

/-- A first byte tells how long its sequence is, and holds the highest bits. -/
theorem of_lead?_begins {p : Partial} (h : lead? b = some (.begins p)) :
    (∃ n, n < 0x20 ∧ b = UInt8.ofNat (0xC0 + n) ∧ p = ⟨1, n, 0x80⟩) ∨
      (∃ n, n < 0x10 ∧ b = UInt8.ofNat (0xE0 + n) ∧ p = ⟨2, n, 0x800⟩) ∨
      ∃ n, n < 8 ∧ b = UInt8.ofNat (0xF0 + n) ∧ p = ⟨3, n, 0x10000⟩ := by
  have hbyte : ∀ k, k ≤ b.toNat → b = UInt8.ofNat (k + (b.toNat - k)) := by
    intro k hk
    rw [Nat.add_sub_cancel' hk, UInt8.ofNat_toNat]
  unfold lead? at h
  simp only at h
  split at h
  · cases h
  split at h
  · cases h
  split at h
  · cases h
    exact .inl ⟨_, by omega, hbyte 0xC0 (by omega), rfl⟩
  split at h
  · cases h
    exact .inr (.inl ⟨_, by omega, hbyte 0xE0 (by omega), rfl⟩)
  split at h
  · cases h
    exact .inr (.inr ⟨_, by omega, hbyte 0xF0 (by omega), rfl⟩)
  · cases h

/-- A sequence that is decoded is the form of its character. The cases are the lengths that a first
byte may ask for. -/
theorem exists_encodeChar_of_begins {p : Partial} (hlead : lead? b = some (.begins p))
    (h : decodeFrom (some p) r = some s) : ∃ c tail rest, s = c :: tail ∧
      b :: r = encodeChar c ++ rest ∧ decodeFrom none rest = some tail := by
  -- the bits of the sequence are those of the character, so its bytes are written for it
  rcases of_lead?_begins hlead with ⟨n, hn, rfl, rfl⟩ | ⟨n, hn, rfl, rfl⟩ | ⟨n, hn, rfl, rfl⟩
  · obtain ⟨c, tail, rest, rfl, rfl, hbits, hleast, htail⟩ := of_decodeFrom_last_tailByte h
    refine ⟨c, tail, rest, rfl, ?_, htail⟩
    rw [encodeChar_two hleast (by omega), hbits]
    rfl
  · obtain ⟨m, r', rfl, hm, h⟩ := of_decodeFrom_tailByte h
    obtain ⟨c, tail, rest, rfl, rfl, hbits, hleast, htail⟩ := of_decodeFrom_last_tailByte h
    have hfirst : c.toNat / 4096 = n := by omega
    refine ⟨c, tail, rest, rfl, ?_, htail⟩
    rw [encodeChar_three hleast (by omega), hfirst, hbits]
    rfl
  · obtain ⟨m, r', rfl, hm, h⟩ := of_decodeFrom_tailByte h
    obtain ⟨m', r'', rfl, hm', h⟩ := of_decodeFrom_tailByte h
    obtain ⟨c, tail, rest, rfl, rfl, hbits, hleast, htail⟩ := of_decodeFrom_last_tailByte h
    have hfirst : c.toNat / 262144 = n := by omega
    have hsecond : c.toNat / 4096 = m := by omega
    refine ⟨c, tail, rest, rfl, ?_, htail⟩
    rw [encodeChar_four hleast, hfirst, hsecond, hbits]
    rfl

/-- Bytes that are read are those of the first character and of the text after it. -/
theorem exists_encodeChar_of_decodeFrom (h : decodeFrom none bytes = some s) (hne : bytes ≠ []) :
    ∃ c tail rest, s = c :: tail ∧ bytes = encodeChar c ++ rest ∧
      decodeFrom none rest = some tail := by
  cases bytes with
  | nil => exact absurd rfl hne
  | cons b rest =>
    rw [decodeFrom] at h
    split at h
    · next c hlead =>
      obtain ⟨tail, htail, rfl⟩ := Option.map_eq_some_iff.mp h
      refine ⟨c, tail, rest, rfl, ?_, htail⟩
      rw [encodeChar_of_lead?_whole hlead]
      rfl
    · next p hlead => exact exists_encodeChar_of_begins hlead h
    · cases h

/-- The reader takes exactly what the writer writes. -/
theorem decode?_eq_some_iff : decode? bytes = some s ↔ bytes = encode s := by
  refine ⟨fun h => ?_, fun h => by rw [h, decode?_encode]⟩
  unfold decode? at h
  induction s generalizing bytes with
  | nil =>
    cases bytes with
    | nil => rfl
    | cons b rest =>
      obtain ⟨c, tail, rest, hs, -, -⟩ := exists_encodeChar_of_decodeFrom h (List.cons_ne_nil _ _)
      cases hs
  | cons c s ih =>
    have hne : bytes ≠ [] := by
      rintro rfl
      cases h
    obtain ⟨c', tail, rest, hs, rfl, htail⟩ := exists_encodeChar_of_decodeFrom h hne
    cases hs
    rw [encode_cons, ih htail]

/-! ## Bytes below 0x80 -/

/-- The bytes of a sequence of several are all from 0x80 on. -/
theorem toNat_of_mem_encodeChar (h : b ∈ encodeChar c) : b.toNat = c.toNat ∨ 0x80 ≤ b.toNat := by
  have hlimit := toNat_lt c
  have htail : ∀ m, 0x80 ≤ (tailByte m).toNat := by
    intro m
    rw [toNat_tailByte]
    exact Nat.le_add_right _ _
  have hsequence : ∀ m tails, 0x80 ≤ m → m < 256 → (∀ d ∈ tails, 0x80 ≤ d.toNat) →
      b ∈ UInt8.ofNat m :: tails → 0x80 ≤ b.toNat := by
    intro m tails hleast hm htails hb
    rcases List.mem_cons.mp hb with rfl | hb
    · rw [toNat_ofNat_of_lt hm]
      exact hleast
    · exact htails b hb
  unfold encodeChar at h
  simp only at h
  split at h
  · next hlow =>
    rw [List.mem_singleton.mp h, toNat_ofNat_of_lt (by omega)]
    exact .inl rfl
  -- in the other cases there is a first byte, and all the others are continuation bytes
  right
  split at h
  · exact hsequence _ _ (by omega) (by omega) (by simp [htail]) h
  split at h
  · exact hsequence _ _ (by omega) (by omega) (by simp [htail]) h
  · exact hsequence _ _ (by omega) (by omega) (by simp [htail]) h

/-- The byte of a line feed is in no other character. -/
theorem ten_not_mem_encode (h : '\n' ∉ s) : 10 ∉ encode s := by
  intro hmem
  obtain ⟨c, hc, hten⟩ := List.mem_flatMap.mp hmem
  rcases toNat_of_mem_encodeChar hten with heq | hhigh
  · have hnewline : '\n' = c := Char.toNat_inj.mp heq
    exact h (hnewline ▸ hc)
  · exact absurd hhigh (by decide)

end LinkGate.Text.Utf8
