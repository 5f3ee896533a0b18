import LinkGate.Proofs.Text.Framing

/-!
# Bytes that are text, and where they stop being text

Bytes are well formed if the core library calls them valid UTF-8, and that is if some text is
written as them (`wellFormed_iff`). Since the reader takes nothing else, text can be left off at
their front (`wellFormed_append_iff`), and what stands before their first line feed is well formed
as they are (`WellFormed.of_append_newline`): a line feed is never inside of a longer sequence.

Bytes that are not well formed have one place where their first ill-formed sequence begins
(`exists_illFormedAt`, `IllFormedAt.unique`). Up to there they are text, and from there on no longer
piece of them is. A stream is decoded line by line, so reading it comes to that place only in the
line that the place is in: the lines before are read as they would be alone
(`readFrom_cut_of_illFormedAt`).
-/

namespace LinkGate.Text

variable {a b bytes stream : List UInt8} {p q : Nat}

/-- The bytes are valid UTF-8, as the core library has it. -/
def WellFormed (bytes : List UInt8) : Prop :=
  bytes.toByteArray.IsValidUTF8

/-- Bytes are well formed if some text is written as them. -/
theorem wellFormed_iff : WellFormed bytes ↔ ∃ text : String, toBytes text = bytes := by
  constructor
  · rintro ⟨s, hs⟩
    refine ⟨String.ofList s, ?_⟩
    rw [toBytes, String.toList_ofList, ← List.toByteArray_inj, Utf8.toByteArray_encode, hs]
  · rintro ⟨text, rfl⟩
    exact ⟨text.toList, Utf8.toByteArray_encode _⟩

theorem wellFormed_toBytes (text : String) : WellFormed (toBytes text) :=
  wellFormed_iff.mpr ⟨text, rfl⟩

theorem wellFormed_nil : WellFormed [] := wellFormed_toBytes ""

/-- Bytes are well formed if the decoder takes them. -/
theorem wellFormed_iff_decode? : WellFormed bytes ↔ ∃ s, Utf8.decode? bytes = some s := by
  rw [wellFormed_iff]
  constructor
  · rintro ⟨text, rfl⟩
    exact ⟨text.toList, Utf8.decode?_encode _⟩
  · rintro ⟨s, hs⟩
    refine ⟨String.ofList s, ?_⟩
    rw [toBytes, String.toList_ofList, Utf8.decode?_eq_some_iff.mp hs]

theorem not_wellFormed_iff : ¬ WellFormed bytes ↔ Utf8.decode? bytes = none := by
  rw [wellFormed_iff_decode?, Option.eq_none_iff_forall_ne_some, not_exists]

theorem WellFormed.append (ha : WellFormed a) (hb : WellFormed b) : WellFormed (a ++ b) := by
  obtain ⟨text, rfl⟩ := wellFormed_iff.mp ha
  obtain ⟨text', rfl⟩ := wellFormed_iff.mp hb
  refine wellFormed_iff.mpr ⟨text ++ text', ?_⟩
  rw [toBytes, String.toList_append, Utf8.encode_append]
  rfl

/-- The decoder goes on behind a text as if it had begun there. -/
theorem decode?_encode_append (s : List Char) (b : List UInt8) :
    Utf8.decode? (Utf8.encode s ++ b) = (Utf8.decode? b).map (s ++ ·) := by
  induction s with
  | nil => simp
  | cons c s ih =>
    have hchar : Utf8.decode? (Utf8.encodeChar c ++ (Utf8.encode s ++ b))
        = (Utf8.decode? (Utf8.encode s ++ b)).map (c :: ·) :=
      Utf8.decodeFrom_encodeChar_append c _
    rw [Utf8.encode_cons, List.append_assoc, hchar, ih, Option.map_map]
    rfl

/-- Text in front does not matter. -/
theorem wellFormed_append_iff (ha : WellFormed a) : WellFormed (a ++ b) ↔ WellFormed b := by
  refine ⟨fun h => ?_, ha.append⟩
  obtain ⟨text, rfl⟩ := wellFormed_iff.mp ha
  obtain ⟨s, hs⟩ := wellFormed_iff_decode?.mp h
  rw [toBytes, decode?_encode_append] at hs
  obtain ⟨s', hs', -⟩ := Option.map_eq_some_iff.mp hs
  exact wellFormed_iff_decode?.mpr ⟨s', hs'⟩

/-- The line feed in the text is the one in the bytes, so the text can be cut there as well. -/
theorem WellFormed.of_append_newline (h : WellFormed (a ++ 10 :: b)) (ha : 10 ∉ a) :
    WellFormed a := by
  obtain ⟨text, htext⟩ := wellFormed_iff.mp h
  have hmem : '\n' ∈ text.toList := by
    refine Classical.byContradiction fun hnot => ten_not_mem_toBytes hnot ?_
    rw [htext]
    exact List.mem_append_cons_self
  obtain ⟨first, rest, heq, hfirst⟩ := List.eq_append_cons_of_mem hmem
  have hbytes : Utf8.encode first ++ 10 :: Utf8.encode rest = a ++ 10 :: b := by
    rw [← htext, toBytes, heq, Utf8.encode_append, Utf8.encode_cons]
    rfl
  have hlines := congrArg RawLine.cut hbytes
  rw [RawLine.cut_append_newline (Utf8.ten_not_mem_encode hfirst),
    RawLine.cut_append_newline ha] at hlines
  obtain ⟨hline, -⟩ := List.cons.inj hlines
  refine wellFormed_iff.mpr ⟨String.ofList first, ?_⟩
  rw [toBytes, String.toList_ofList]
  exact congrArg RawLine.bytes hline

/-! ## The first ill-formed sequence -/

/-- The first ill-formed sequence of the bytes begins at `p`: what is before it is text, and nothing
that reaches into it or beyond is. -/
structure IllFormedAt (bytes : List UInt8) (p : Nat) : Prop where
  lt : p < bytes.length
  before : WellFormed (bytes.take p)
  beyond : ∀ q, p < q → q ≤ bytes.length → ¬ WellFormed (bytes.take q)

/-- Bytes with an ill-formed sequence are not well formed. -/
theorem IllFormedAt.not_wellFormed (h : IllFormedAt bytes p) : ¬ WellFormed bytes := by
  have hwhole := h.beyond bytes.length h.lt (Nat.le_refl _)
  rwa [List.take_length] at hwhole

/-- There is one place at most where the first ill-formed sequence begins. -/
theorem IllFormedAt.unique (h : IllFormedAt bytes p) (h' : IllFormedAt bytes q) : p = q := by
  rcases Nat.lt_trichotomy p q with hlt | heq | hgt
  · exact absurd h'.before (h.beyond q hlt (Nat.le_of_lt h'.lt))
  · exact heq
  · exact absurd h.before (h'.beyond p hgt (Nat.le_of_lt h.lt))

/-- There is a longest piece from the start that is text, because the empty one is. -/
theorem exists_longest_wellFormed (bytes : List UInt8) (n : Nat) :
    ∃ p ≤ n, WellFormed (bytes.take p) ∧
      ∀ q, p < q → q ≤ n → ¬ WellFormed (bytes.take q) := by
  induction n with
  | zero => exact ⟨0, Nat.le_refl 0, wellFormed_nil, fun q hlt hle => by omega⟩
  | succ n ih =>
    by_cases hlonger : WellFormed (bytes.take (n + 1))
    · exact ⟨n + 1, Nat.le_refl _, hlonger, fun q hlt hle => by omega⟩
    · obtain ⟨p, hp, hbefore, hbeyond⟩ := ih
      refine ⟨p, Nat.le_succ_of_le hp, hbefore, fun q hlt hle => ?_⟩
      rcases Nat.lt_or_eq_of_le hle with hle | rfl
      · exact hbeyond q hlt (by omega)
      · exact hlonger

/-- There is one if the bytes are not well formed: the longest beginning that is text ends there. -/
theorem exists_illFormedAt (h : ¬ WellFormed bytes) : ∃ p, IllFormedAt bytes p := by
  obtain ⟨p, hp, hbefore, hbeyond⟩ := exists_longest_wellFormed bytes bytes.length
  refine ⟨p, Nat.lt_of_le_of_ne hp ?_, hbefore, hbeyond⟩
  rintro rfl
  rw [List.take_length] at hbefore
  exact h hbefore

/-- Text in front puts the place further back. -/
theorem IllFormedAt.of_append (ha : WellFormed a) (h : IllFormedAt (a ++ b) p) :
    ∃ q, p = a.length + q ∧ IllFormedAt b q := by
  have hle : a.length ≤ p := by
    refine Nat.le_of_not_lt fun hlt => ?_
    have hlength := h.lt
    rw [List.length_append] at hlength
    have hfront := h.beyond a.length hlt (by simp)
    rw [List.take_left] at hfront
    exact hfront ha
  have htake : ∀ q, (a ++ b).take (a.length + q) = a ++ b.take q :=
    List.take_length_add_append
  obtain ⟨q, rfl⟩ := Nat.exists_eq_add_of_le hle
  refine ⟨q, rfl, ⟨?_, ?_, fun q' hlt hle' => ?_⟩⟩
  · have hlength := h.lt
    rw [List.length_append] at hlength
    omega
  · have hbefore := h.before
    rwa [htake, wellFormed_append_iff ha] at hbefore
  · have hbeyond := h.beyond (a.length + q') (by omega) (by simp; omega)
    rwa [htake, wellFormed_append_iff ha] at hbeyond

/-- The place is in the line that is not text, or at the end of that line. -/
theorem IllFormedAt.le_length (h : IllFormedAt (a ++ 10 :: b) p) (ha : ¬ WellFormed a)
    (hnewline : 10 ∉ a) : p ≤ a.length := by
  refine Nat.le_of_not_lt fun hlt => ha ?_
  obtain ⟨n, rfl⟩ := Nat.exists_eq_add_of_lt hlt
  have hbefore := h.before
  rw [Nat.add_assoc, List.take_length_add_append, List.take_succ_cons] at hbefore
  exact hbefore.of_append_newline hnewline

/-- If what is before the first line feed is not text, no line feed is before the place. -/
theorem IllFormedAt.count_newline_take (h : IllFormedAt (a ++ 10 :: b) p) (ha : ¬ WellFormed a)
    (hnewline : 10 ∉ a) : ((a ++ 10 :: b).take p).count 10 = 0 := by
  rw [List.take_append_of_le_length (h.le_length ha hnewline), List.count_eq_zero]
  exact fun hmem => hnewline (List.mem_of_mem_take hmem)

/-! ## Reading stops in that line -/

/-- The stream up to its line feed number `n`, and with it. -/
def firstLines : (n : Nat) → (stream : List UInt8) → List UInt8
  | 0, _ => []
  | _, [] => []
  | n + 1, b :: r => b :: firstLines (if b = 10 then n else n + 1) r

theorem firstLines_zero (stream : List UInt8) : firstLines 0 stream = [] := by
  cases stream <;> rfl

/-- The first line is up to the first line feed. -/
theorem firstLines_append_newline (ha : 10 ∉ a) (n : Nat) (b : List UInt8) :
    firstLines (n + 1) (a ++ 10 :: b) = a ++ 10 :: firstLines n b := by
  induction a with
  | nil => rfl
  | cons c a ih =>
    rw [List.mem_cons, not_or] at ha
    rw [List.cons_append, firstLines, if_neg (Ne.symm ha.1), ih ha.2]
    rfl

/-- A line that is not well formed has no text. -/
theorem text?_eq_none (h : ¬ WellFormed bytes) (ended : Bool) :
    RawLine.text? ⟨bytes, ended⟩ = none := by
  rw [RawLine.text?, not_wellFormed_iff.mp h]
  rfl

/-- Up to the line that holds the place, the lines are those of the stream up to there. -/
theorem readFrom_cut_of_illFormedAt (h : IllFormedAt stream p) (number : Nat) : ∃ texts,
    Lines.readFrom number (RawLine.cut stream) = ⟨texts, some (number + (stream.take p).count 10)⟩ ∧
      Lines.readFrom number (RawLine.cut (firstLines ((stream.take p).count 10) stream))
        = ⟨texts, none⟩ := by
  induction stream using lines_induction (10 : UInt8) generalizing p number with
  | nil => exact absurd h.lt (Nat.not_lt_zero p)
  | unended piece hne hpiece =>
    have hcount : (piece.take p).count 10 = 0 :=
      List.count_eq_zero.mpr fun hmem => hpiece (List.mem_of_mem_take hmem)
    rw [hcount, firstLines_zero, RawLine.cut_of_not_mem hne hpiece, Lines.readFrom,
      text?_eq_none h.not_wellFormed]
    exact ⟨[], rfl, rfl⟩
  | ended piece rest hpiece ih =>
    by_cases hwell : WellFormed piece
    · -- this line can be read, so the place is in the rest
      obtain ⟨text, rfl⟩ := wellFormed_iff.mp hwell
      have hline : WellFormed (toBytes text ++ [10]) := hwell.append (wellFormed_toBytes "\n")
      rw [List.append_cons] at h
      obtain ⟨q, rfl, hq⟩ := h.of_append hline
      obtain ⟨texts, hread, hfirst⟩ := ih hq (number + 1)
      have hcount : ((toBytes text ++ 10 :: rest).take ((toBytes text ++ [10]).length + q)).count 10
          = (rest.take q).count 10 + 1 := by
        rw [List.append_cons _ 10 rest, List.take_length_add_append, List.count_append,
          List.count_append, List.count_eq_zero.mpr hpiece]
        simp [Nat.add_comm]
      rw [hcount, firstLines_append_newline hpiece, RawLine.cut_append_newline hpiece,
        RawLine.cut_append_newline hpiece, Lines.readFrom, Lines.readFrom, toBytes, text?_encode]
      simp only [hread, hfirst]
      refine ⟨_, ?_, rfl⟩
      rw [Nat.add_assoc, Nat.add_comm 1]
    · -- this line cannot, so the place is in it
      rw [h.count_newline_take hwell hpiece, firstLines_zero,
        RawLine.cut_append_newline hpiece, Lines.readFrom, text?_eq_none hwell]
      exact ⟨[], rfl, rfl⟩

/-- A stream is read to its end if it is text, and only then. -/
theorem undecodable_read_eq_none_iff :
    (Lines.read stream).undecodable = none ↔ WellFormed stream := by
  constructor
  · intro hread
    refine Classical.byContradiction fun hnot => ?_
    obtain ⟨p, hp⟩ := exists_illFormedAt hnot
    obtain ⟨texts, hstopped, -⟩ := readFrom_cut_of_illFormedAt hp 1
    rw [Lines.read, hstopped] at hread
    cases hread
  · intro hwell
    obtain ⟨text, rfl⟩ := wellFormed_iff.mp hwell
    rw [read_toBytes]

end LinkGate.Text
