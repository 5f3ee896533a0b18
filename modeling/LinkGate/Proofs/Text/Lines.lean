import LinkGate.Proofs.Text.Utf8
import LinkGate.Text.Lines

/-!
# Lines, written and read

A text that is written line after line is cut at its line feeds by whoever reads it. It comes back
as the lines that were written if no line holds a line feed, and then only (`hasLines_ofLines_iff`).

The lines that are read from a stream of bytes never hold one. The bytes of a line have no line feed
among them, and UTF-8 writes a line feed in one way only (`newline_not_mem_of_decode?`).
-/

namespace LinkGate.Text

variable {text line : String} {lines lines' : List String}

/-! ## Lines that are written -/

/-- Cut at its line feeds the text is these lines, and nothing is left after the last line feed. -/
def HasLines (text : String) (lines : List String) : Prop :=
  text.toList.splitOn '\n' = lines.map String.toList ++ [[]]

instance (text : String) (lines : List String) : Decidable (HasLines text lines) :=
  inferInstanceAs (Decidable (text.toList.splitOn '\n' = lines.map String.toList ++ [[]]))

/-- A text has lines in one way at most. -/
theorem HasLines.unique (h : HasLines text lines) (h' : HasLines text lines') : lines = lines' := by
  have hlines : lines.map String.toList = lines'.map String.toList :=
    List.append_cancel_right (h.symm.trans h')
  exact (List.map_inj_right fun _ _ => String.toList_injective).mp hlines

theorem toList_ofLines_cons (line : String) (lines : List String) :
    (ofLines (line :: lines)).toList = line.toList ++ '\n' :: (ofLines lines).toList := by
  rw [ofLines, List.map_cons, String.join_cons, String.toList_append, String.toList_append,
    List.append_assoc]
  rfl

/-- Lines that are written are cut where they end, and at the line feeds within them. -/
theorem splitOn_ofLines (lines : List String) :
    (ofLines lines).toList.splitOn '\n'
      = lines.flatMap (fun line => line.toList.splitOn '\n') ++ [[]] := by
  induction lines with
  | nil => rfl
  | cons line lines ih =>
    rw [toList_ofLines_cons, List.splitOn_append_cons_self, ih, List.flatMap_cons,
      List.append_assoc]

/-- Cutting makes no fewer lines than there were. -/
theorem length_le_length_flatMap_splitOn (lines : List String) :
    lines.length ≤ (lines.flatMap fun line => line.toList.splitOn '\n').length := by
  induction lines with
  | nil => exact Nat.zero_le _
  | cons line lines ih =>
    have hpieces := List.length_pos_iff.mpr (List.splitOn_ne_nil '\n' line.toList)
    rw [List.flatMap_cons, List.length_append, List.length_cons]
    omega

/-- A line with a line feed is cut into two pieces at least, which no other line makes up for. -/
theorem HasLines.newline_not_mem (h : HasLines (ofLines lines) lines')
    (hlength : lines'.length = lines.length) : ∀ line ∈ lines, '\n' ∉ line.toList := by
  rw [HasLines, splitOn_ofLines, List.append_cancel_right_eq] at h
  have hpieces : (lines.flatMap fun line => line.toList.splitOn '\n').length = lines.length := by
    rw [h, List.length_map, hlength]
  clear h hlength
  induction lines with
  | nil => simp
  | cons line lines ih =>
    have hrest := length_le_length_flatMap_splitOn lines
    rw [List.flatMap_cons, List.length_append, List.length_cons] at hpieces
    rw [List.forall_mem_cons]
    have hline : '\n' ∉ line.toList := by
      intro hmem
      obtain ⟨first, rest, heq, hfirst⟩ := List.eq_append_cons_of_mem hmem
      have htail := List.length_pos_iff.mpr (List.splitOn_ne_nil '\n' rest)
      rw [heq, List.splitOn_append_cons_self_of_not_mem hfirst, List.length_cons] at hpieces
      omega
    rw [List.splitOn_eq_singleton hline, List.length_singleton] at hpieces
    exact ⟨hline, ih (by omega)⟩

/-- The lines of a text are those that were written if no line holds a line feed, and only then. -/
theorem hasLines_ofLines_iff :
    HasLines (ofLines lines) lines ↔ ∀ line ∈ lines, '\n' ∉ line.toList := by
  refine ⟨fun h => h.newline_not_mem rfl, fun h => ?_⟩
  rw [HasLines, splitOn_ofLines, List.append_cancel_right_eq]
  induction lines with
  | nil => rfl
  | cons line lines ih =>
    obtain ⟨hline, hlines⟩ := List.forall_mem_cons.mp h
    rw [List.flatMap_cons, List.splitOn_eq_singleton hline, ih hlines]
    rfl

theorem hasLines_singleton (h : '\n' ∉ line.toList) : HasLines (line ++ "\n") [line] := by
  have hlines : HasLines (ofLines [line]) [line] := hasLines_ofLines_iff.mpr (by simpa using h)
  simpa [ofLines] using hlines

/-- There are as many line feeds as lines, if none is within a line. -/
theorem count_newline_ofLines (h : ∀ line ∈ lines, '\n' ∉ line.toList) :
    (ofLines lines).toList.count '\n' = lines.length := by
  induction lines with
  | nil => rfl
  | cons line lines ih =>
    obtain ⟨hline, hlines⟩ := List.forall_mem_cons.mp h
    rw [toList_ofLines_cons, List.count_append, List.count_eq_zero.mpr hline, List.count_cons_self,
      ih hlines, Nat.zero_add, List.length_cons]

theorem getLast?_ofLines (hne : lines ≠ []) : (ofLines lines).toList.getLast? = some '\n' := by
  induction lines with
  | nil => exact absurd rfl hne
  | cons line lines ih =>
    rw [toList_ofLines_cons, List.getLast?_append, List.getLast?_cons]
    cases lines with
    | nil => rfl
    | cons next lines => rw [ih (List.cons_ne_nil _ _)]; rfl

def linesOf (text : String) : List String :=
  (text.toList.splitOn '\n').dropLast.map String.ofList

/-- The lines of a text are those that it has. -/
theorem HasLines.linesOf_eq (h : HasLines text lines) : linesOf text = lines := by
  have hcancel : String.ofList ∘ String.toList = id := funext fun _ => String.ofList_toList
  rw [linesOf, h, List.dropLast_concat, List.map_map, hcancel, List.map_id]

/-- Cut at its line feeds the text has this line last, and nothing is left after it. -/
def EndsInLine (text line : String) : Prop :=
  ∃ before, HasLines text (before ++ [line])

/-- A text ends in one line at most. -/
theorem EndsInLine.unique {line' : String} (h : EndsInLine text line)
    (h' : EndsInLine text line') : line = line' := by
  obtain ⟨before, hbefore⟩ := h
  obtain ⟨before', hbefore'⟩ := h'
  exact List.singleton_inj.mp (List.append_inj' (hbefore.unique hbefore') rfl).2

/-- A text ends in the line that is written last. -/
theorem endsInLine_ofLines_append (lines : List String) (h : '\n' ∉ line.toList) :
    EndsInLine (ofLines lines ++ (line ++ "\n")) line := by
  have htext : ofLines lines ++ (line ++ "\n") = ofLines (lines ++ [line]) := by
    simp [ofLines]
  refine ⟨(lines.flatMap fun line => line.toList.splitOn '\n').map String.ofList, ?_⟩
  rw [htext, HasLines, splitOn_ofLines, List.flatMap_append]
  simp [List.splitOn_eq_singleton h, Function.comp_def]

/-! ## Lines that are read -/

/-- No line of a stream has a line feed within. -/
theorem newline_not_mem_cutFrom {line stream : List UInt8} (hline : 10 ∉ line) :
    ∀ raw ∈ RawLine.cutFrom line stream, 10 ∉ raw.bytes := by
  induction stream generalizing line with
  | nil =>
    rw [RawLine.cutFrom]
    split
    · simp
    · simpa using hline
  | cons b stream ih =>
    rw [RawLine.cutFrom]
    split
    · rw [List.forall_mem_cons]
      exact ⟨by simpa using hline, ih (by simp)⟩
    · next hb => exact ih (by simp [hline, Ne.symm hb])

/-- The only byte that gives a line feed is its own, because what is read was written. -/
theorem newline_not_mem_of_decode? {bytes : List UInt8} {s : List Char} (hbytes : 10 ∉ bytes)
    (h : Utf8.decode? bytes = some s) : '\n' ∉ s := by
  intro hmem
  rw [Utf8.decode?_eq_some_iff.mp h] at hbytes
  exact hbytes (List.mem_flatMap.mpr ⟨'\n', hmem, by decide⟩)

theorem mem_of_mem_dropReturn {c : Char} {s : List Char} (h : c ∈ dropReturn s) : c ∈ s := by
  unfold dropReturn at h
  split at h
  · exact (List.dropLast_sublist s).subset h
  · exact h

/-- Nor has its text. -/
theorem newline_not_mem_of_text? {raw : RawLine} {s : List Char} (hraw : 10 ∉ raw.bytes)
    (h : raw.text? = some s) : '\n' ∉ s := by
  obtain ⟨decoded, hdecoded, rfl⟩ := Option.map_eq_some_iff.mp h
  intro hmem
  refine newline_not_mem_of_decode? hraw hdecoded ?_
  split at hmem
  · exact mem_of_mem_dropReturn (mem_of_mem_dropReturn hmem)
  · exact mem_of_mem_dropReturn hmem

/-- A text that is read is the text of a line of the stream. -/
theorem exists_raw_of_mem_texts {raws : List RawLine} {number : Nat}
    (h : line ∈ (Lines.readFrom number raws).texts) :
    ∃ raw ∈ raws, raw.text? = some line.toList := by
  induction raws generalizing number with
  | nil => simp [Lines.readFrom] at h
  | cons raw raws ih =>
    rw [Lines.readFrom] at h
    split at h
    · simp at h
    · next s htext =>
      rcases List.mem_cons.mp h with rfl | hrest
      · exact ⟨raw, List.mem_cons_self, by rw [htext, String.toList_ofList]⟩
      · obtain ⟨raw', hmem, htext'⟩ := ih hrest
        exact ⟨raw', List.mem_cons_of_mem _ hmem, htext'⟩

/-- No line of a stream holds a line feed. -/
theorem newline_not_mem_of_mem_read {stream : List UInt8} (h : line ∈ (Lines.read stream).texts) :
    '\n' ∉ line.toList := by
  obtain ⟨raw, hmem, htext⟩ := exists_raw_of_mem_texts h
  exact newline_not_mem_of_text? (newline_not_mem_cutFrom List.not_mem_nil raw hmem) htext

end LinkGate.Text
