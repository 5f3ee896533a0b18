import LinkGate.Proofs.Text.Stream

/-!
# The lines of a text

A stream is cut and then decoded, line by line. For the bytes of a text this comes to the same as
cutting the text at its line feeds and dropping carriage returns from each piece (`read_toBytes`):
two at most if a line feed ended the piece, and one at most from what is left after the last one.

Nothing else of the text is lost. It is put together again from its lines with these carriage
returns and line feeds between them, and from no others (`framed_iff`), so no other character ends
a line.

Each proof goes along the text by whole lines (`lines_induction`).
-/

namespace LinkGate.Text

/-- A list is over, or what is left of it has no separator, or it goes on after one. -/
@[elab_as_elim]
theorem lines_induction {α : Type} (separator : α) {motive : List α → Prop} (nil : motive [])
    (unended : ∀ piece, piece ≠ [] → separator ∉ piece → motive piece)
    (ended : ∀ piece rest, separator ∉ piece → motive rest → motive (piece ++ separator :: rest))
    (s : List α) : motive s := by
  induction hlength : s.length using Nat.strongRecOn generalizing s with
  | _ n ih =>
    by_cases hmem : separator ∈ s
    · obtain ⟨piece, rest, rfl, hpiece⟩ := List.eq_append_cons_of_mem hmem
      rw [List.length_append, List.length_cons] at hlength
      exact ended piece rest hpiece (ih rest.length (by omega) rest rfl)
    · cases s with
      | nil => exact nil
      | cons c r => exact unended (c :: r) (List.cons_ne_nil c r) hmem

variable {s piece line rest : List Char} {lines : List (List Char)} {n most : Nat}

/-! ## Carriage returns at the end -/

/-- As many are dropped as may be, and fewer only if there are no more. -/
theorem dropReturns_append_replicate (hn : n ≤ most)
    (hlast : n < most → line.getLast? ≠ some '\r') :
    dropReturns most (line ++ List.replicate n '\r') = line := by
  induction most generalizing n with
  | zero =>
    obtain rfl := Nat.le_zero.mp hn
    exact List.append_nil line
  | succ most ih =>
    rw [dropReturns]
    cases n with
    | zero =>
      have hline := hlast (Nat.zero_lt_succ most)
      rw [List.replicate_zero, List.append_nil, dropReturn_eq_self hline,
        dropReturns_eq_self hline]
    | succ n =>
      rw [List.replicate_succ', ← List.append_assoc, dropReturn_concat]
      exact ih (by omega) fun hlt => hlast (by omega)

/-- A piece is its line and the carriage returns that it loses, of which there are fewer than may be
only if it has no more. -/
theorem exists_eq_dropReturns_append (most : Nat) (piece : List Char) :
    ∃ n ≤ most, piece = dropReturns most piece ++ List.replicate n '\r' ∧
      (n < most → (dropReturns most piece).getLast? ≠ some '\r') := by
  induction most generalizing piece with
  | zero => exact ⟨0, Nat.le_refl 0, (List.append_nil piece).symm, fun hlt => absurd hlt (by omega)⟩
  | succ most ih =>
    by_cases hlast : piece.getLast? = some '\r'
    · obtain ⟨front, rfl⟩ := List.getLast?_eq_some_iff.mp hlast
      obtain ⟨n, hn, heq, hmost⟩ := ih front
      rw [dropReturns, dropReturn_concat]
      refine ⟨n + 1, by omega, ?_, fun hlt => hmost (by omega)⟩
      rw [List.replicate_succ', ← List.append_assoc, ← heq]
    · rw [dropReturns_eq_self hlast]
      exact ⟨0, Nat.zero_le _, (List.append_nil piece).symm, fun _ => hlast⟩

/-! ## The lines -/

/-- The lines of a text. Line feeds cut it into pieces, the last of which is none if it is empty.
The other pieces lose up to two carriage returns at the end, and the last loses one at most. -/
def framedLines (s : List Char) : List (List Char) :=
  let pieces := s.splitOn '\n'
  pieces.dropLast.map (dropReturns 2) ++
    (pieces.getLast?.filter (!·.isEmpty)).toList.map (dropReturns 1)

theorem framedLines_of_newline_not_mem (hne : piece ≠ []) (hpiece : '\n' ∉ piece) :
    framedLines piece = [dropReturns 1 piece] := by
  have hlast : (some piece).filter (!·.isEmpty) = some piece := by simpa using hne
  rw [framedLines, List.splitOn_eq_singleton hpiece]
  simp only [List.dropLast_singleton, List.getLast?_singleton, hlast]
  rfl

/-- The first line feed ends the first line. -/
theorem framedLines_append_newline (hpiece : '\n' ∉ piece) (rest : List Char) :
    framedLines (piece ++ '\n' :: rest) = dropReturns 2 piece :: framedLines rest := by
  have hrest := List.splitOn_ne_nil '\n' rest
  rw [framedLines, framedLines, List.splitOn_append_cons_self_of_not_mem hpiece]
  simp only [List.dropLast_cons_of_ne_nil hrest, List.map_cons, List.cons_append]
  rw [List.getLast?_cons_of_ne_nil hrest]

/-- A text is put together from these lines. Each has a line feed at its end and up to two carriage
returns before that; the last may do without the line feed, and has one carriage return at most
then. A carriage return that may belong to the ending does not belong to the line. -/
inductive Framed : List Char → List (List Char) → Prop
  | nil : Framed [] []
  | unended {line : List Char} {n : Nat} (hne : line ++ List.replicate n '\r' ≠ [])
    (hline : '\n' ∉ line) (hn : n ≤ 1) (hlast : n < 1 → line.getLast? ≠ some '\r') :
    Framed (line ++ List.replicate n '\r') [line]
  | ended {line rest : List Char} {lines : List (List Char)} {n : Nat} (hline : '\n' ∉ line)
    (hn : n ≤ 2) (hlast : n < 2 → line.getLast? ≠ some '\r') (hrest : Framed rest lines) :
    Framed (line ++ List.replicate n '\r' ++ '\n' :: rest) (line :: lines)

theorem newline_not_mem_append_replicate (hline : '\n' ∉ line) (n : Nat) :
    '\n' ∉ line ++ List.replicate n '\r' := by
  rw [List.mem_append, not_or]
  exact ⟨hline, fun hmem => absurd (List.eq_of_mem_replicate hmem) (by decide)⟩

/-- A text is put together from its lines and from no others. The induction follows the way in which
it is put together. -/
theorem Framed.eq_framedLines (h : Framed s lines) : lines = framedLines s := by
  induction h with
  | nil => rfl
  | unended hne hline hn hlast =>
    rw [framedLines_of_newline_not_mem hne (newline_not_mem_append_replicate hline _),
      dropReturns_append_replicate hn hlast]
  | ended hline hn hlast _ ih =>
    rw [framedLines_append_newline (newline_not_mem_append_replicate hline _),
      dropReturns_append_replicate hn hlast, ih]

/-- A text is put together from its lines, by induction from line feed to line feed. -/
theorem framed_framedLines (s : List Char) : Framed s (framedLines s) := by
  induction s using lines_induction '\n' with
  | nil => exact .nil
  | unended piece hne hpiece =>
    obtain ⟨n, hn, heq, hlast⟩ := exists_eq_dropReturns_append 1 piece
    rw [framedLines_of_newline_not_mem hne hpiece]
    generalize dropReturns 1 piece = line at heq hlast
    subst heq
    exact .unended hne (fun hmem => hpiece (List.mem_append_left _ hmem)) hn hlast
  | ended piece rest hpiece ih =>
    obtain ⟨n, hn, heq, hlast⟩ := exists_eq_dropReturns_append 2 piece
    rw [framedLines_append_newline hpiece]
    generalize dropReturns 2 piece = line at heq hlast
    subst heq
    exact .ended (fun hmem => hpiece (List.mem_append_left _ hmem)) hn hlast ih

/-- A text is put together from its lines, and from no others. -/
theorem framed_iff : Framed s lines ↔ lines = framedLines s := by
  refine ⟨Framed.eq_framedLines, ?_⟩
  rintro rfl
  exact framed_framedLines s

/-- Other characters that some take for the end of a line are none, and three carriage returns are
more than an ending has. -/
example : framedLines "\uFEFFa\rb\x00\u2028c\u0085\r\r\r\n\r\n\nd\r\r".toList
    = ["\uFEFFa\rb\x00\u2028c\u0085\r".toList, [], [], "d\r".toList] := by
  decide

/-! ## What is read from a text -/

/-- A stream that is text is read as its lines, and nothing in it is undecodable. -/
theorem readFrom_encode (s : List Char) (number : Nat) :
    Lines.readFrom number (RawLine.cut (Utf8.encode s))
      = ⟨(framedLines s).map String.ofList, none⟩ := by
  induction s using lines_induction '\n' generalizing number with
  | nil => rfl
  | unended piece hne hpiece =>
    rw [RawLine.cut_of_not_mem (Utf8.encode_ne_nil hne) (Utf8.ten_not_mem_encode hpiece),
      Lines.readFrom, text?_encode, framedLines_of_newline_not_mem hne hpiece]
    rfl
  | ended piece rest hpiece ih =>
    have hbytes : Utf8.encode (piece ++ '\n' :: rest)
        = Utf8.encode piece ++ 10 :: Utf8.encode rest := by
      rw [Utf8.encode_append, Utf8.encode_cons]
      rfl
    rw [hbytes, RawLine.cut_append_newline (Utf8.ten_not_mem_encode hpiece), Lines.readFrom,
      text?_encode, framedLines_append_newline hpiece]
    simp only [ih]
    rfl

/-- The lines that are read from the bytes of a text are its lines. -/
theorem read_toBytes (text : String) :
    Lines.read (toBytes text) = ⟨(framedLines text.toList).map String.ofList, none⟩ :=
  readFrom_encode text.toList 1

end LinkGate.Text
