import LinkGate.Proofs.Text.Utf8
import LinkGate.Text.Blank
import LinkGate.Text.Lines

/-!
# Streams, written and read

A stream is cut into lines before any of it is decoded. Lines are what their join is cut into if
none has a line feed within and none but the last lacks its own (`cut_join`). From that a stream is
read back as the texts that were written into it, whether a line feed or a carriage return and a
line feed ended each (`WrittenLines.read_eq`), and a stream without its blank lines is read as the
other lines of it (`texts_read_withoutBlankLines`).
-/

namespace LinkGate.Text

variable {line bytes stream rest : List UInt8} {raw : RawLine} {raws : List RawLine}
  {s : List Char} {text : String} {lines : List String} {number : Nat}

/-! ## The lines of a stream and their join -/

namespace RawLine

def written (raw : RawLine) : List UInt8 :=
  if raw.ended then raw.bytes ++ [10] else raw.bytes

def join (raws : List RawLine) : List UInt8 :=
  raws.flatMap written

/-- A stream may be cut into these lines: none has a line feed within, and none but the last lacks
its own. -/
inductive IsCut : List RawLine → Prop
  | nil : IsCut []
  | unended {bytes : List UInt8} (hne : bytes ≠ []) (hline : 10 ∉ bytes) : IsCut [⟨bytes, false⟩]
  | ended {bytes : List UInt8} {raws : List RawLine} (hline : 10 ∉ bytes) (hrest : IsCut raws) :
    IsCut (⟨bytes, true⟩ :: raws)

theorem join_ended (bytes : List UInt8) (raws : List RawLine) :
    join (⟨bytes, true⟩ :: raws) = bytes ++ 10 :: join raws := by
  rw [join, List.flatMap_cons, written, if_pos rfl, List.append_assoc]
  rfl

theorem join_unended (bytes : List UInt8) : join [⟨bytes, false⟩] = bytes := by
  simp [join, written]

/-- Bytes without a line feed are collected. -/
theorem cutFrom_append (hbytes : 10 ∉ bytes) :
    cutFrom line (bytes ++ rest) = cutFrom (bytes.reverse ++ line) rest := by
  induction bytes generalizing line with
  | nil => rfl
  | cons b bytes ih =>
    rw [List.mem_cons, not_or] at hbytes
    rw [List.cons_append, cutFrom, if_neg (Ne.symm hbytes.1), ih hbytes.2, List.reverse_cons,
      List.append_assoc]
    rfl

/-- The first line feed ends the first line. -/
theorem cut_append_newline (hbytes : 10 ∉ bytes) :
    cut (bytes ++ 10 :: rest) = ⟨bytes, true⟩ :: cut rest := by
  rw [cut, cutFrom_append hbytes, cutFrom, if_pos rfl, List.append_nil, List.reverse_reverse, cut]

/-- Bytes without a line feed are one line, which lacks its own. -/
theorem cut_of_not_mem (hne : bytes ≠ []) (hbytes : 10 ∉ bytes) : cut bytes = [⟨bytes, false⟩] := by
  have happend : cutFrom [] (bytes ++ []) = cutFrom (bytes.reverse ++ []) [] :=
    cutFrom_append hbytes
  rw [List.append_nil, List.append_nil] at happend
  rw [cut, happend, cutFrom, if_neg (by simpa using hne), List.reverse_reverse]

/-- Such lines are what their join is cut into. -/
theorem cut_join (h : IsCut raws) : cut (join raws) = raws := by
  induction h with
  | nil => rfl
  | unended hne hline => rw [join_unended, cut_of_not_mem hne hline]
  | ended hline _ ih => rw [join_ended, cut_append_newline hline, ih]

theorem isCut_cutFrom (hline : 10 ∉ line) (stream : List UInt8) : IsCut (cutFrom line stream) := by
  induction stream generalizing line with
  | nil =>
    rw [cutFrom]
    split
    · exact .nil
    · next hne => exact .unended (by simpa using hne) (by simpa using hline)
  | cons b stream ih =>
    rw [cutFrom]
    split
    · exact .ended (by simpa using hline) (ih List.not_mem_nil)
    · next hb => exact ih (by simp [hline, Ne.symm hb])

/-- A stream is cut into lines that it may be cut into. -/
theorem isCut_cut (stream : List UInt8) : IsCut (cut stream) :=
  isCut_cutFrom List.not_mem_nil stream

/-- Any of the lines may be left out. -/
theorem IsCut.filter (h : IsCut raws) (keep : RawLine → Bool) : IsCut (raws.filter keep) := by
  induction h with
  | nil => exact .nil
  | unended hne hline =>
    rw [List.filter_cons]
    split
    · exact .unended hne hline
    · exact .nil
  | ended hline _ ih =>
    rw [List.filter_cons]
    split
    · exact .ended hline ih
    · exact ih

end RawLine

/-! ## Lines with their endings -/

theorem dropReturn_eq_self (h : s.getLast? ≠ some '\r') : dropReturn s = s :=
  if_neg h

theorem dropReturn_concat (s : List Char) : dropReturn (s ++ ['\r']) = s := by
  rw [dropReturn, if_pos List.getLast?_concat, List.dropLast_concat]

/-- The text without the carriage returns at its end, of which at most so many are dropped. -/
def dropReturns : (most : Nat) → List Char → List Char
  | 0, s => s
  | most + 1, s => dropReturns most (dropReturn s)

theorem dropReturns_eq_self (h : s.getLast? ≠ some '\r') (most : Nat) : dropReturns most s = s := by
  induction most with
  | zero => rfl
  | succ most ih => rw [dropReturns, dropReturn_eq_self h, ih]

/-- The text of a line is what is written in it, without the carriage returns that belong to its
ending. -/
theorem text?_encode (s : List Char) (ended : Bool) :
    RawLine.text? ⟨Utf8.encode s, ended⟩ = some (dropReturns (if ended then 2 else 1) s) := by
  rw [RawLine.text?, Utf8.decode?_encode]
  cases ended <;> rfl

/-- A text that ends in no carriage return is read as it is. -/
theorem text?_toBytes (h : text.toList.getLast? ≠ some '\r') (ended : Bool) :
    RawLine.text? ⟨toBytes text, ended⟩ = some text.toList := by
  rw [toBytes, text?_encode, dropReturns_eq_self h]

/-- So it is if a carriage return and a line feed end it. -/
theorem text?_return_newline (h : text.toList.getLast? ≠ some '\r') :
    RawLine.text? ⟨toBytes text ++ [13], true⟩ = some text.toList := by
  have hreturn : toBytes text ++ [13] = Utf8.encode (text.toList ++ ['\r']) := by
    rw [Utf8.encode_append]
    rfl
  rw [hreturn, text?_encode, if_pos rfl, dropReturns, dropReturn_concat, dropReturns_eq_self h]

/-- A stream into which texts were written line by line. A line feed ends each, or a carriage return
and a line feed; the last may go without if it is not empty. -/
inductive WrittenLines : List String → List UInt8 → Prop
  | nil : WrittenLines [] []
  | newline {line : String} {lines : List String} {rest : List UInt8}
    (hrest : WrittenLines lines rest) : WrittenLines (line :: lines) (toBytes line ++ 10 :: rest)
  | returnNewline {line : String} {lines : List String} {rest : List UInt8}
    (hrest : WrittenLines lines rest) :
    WrittenLines (line :: lines) (toBytes line ++ 13 :: 10 :: rest)
  | unended {line : String} (hne : line ≠ "") : WrittenLines [line] (toBytes line)

/-- A text that can be told from its line: it holds no line feed, and does not end in what may
belong to the ending. -/
def IsLineText (text : String) : Prop :=
  '\n' ∉ text.toList ∧ text.toList.getLast? ≠ some '\r'

instance (text : String) : Decidable (IsLineText text) :=
  inferInstanceAs (Decidable (_ ∧ _))

theorem ten_not_mem_toBytes (h : '\n' ∉ text.toList) : 10 ∉ toBytes text :=
  Utf8.ten_not_mem_encode h

/-- A line that is text is the first text that is read. -/
theorem readFrom_cons (h : raw.text? = some text.toList) :
    Lines.readFrom number (raw :: raws) = ⟨text :: (Lines.readFrom (number + 1) raws).texts,
      (Lines.readFrom (number + 1) raws).undecodable⟩ := by
  rw [Lines.readFrom, h]
  simp only [String.ofList_toList]

/-- What is written is read back. -/
theorem WrittenLines.readFrom_eq (h : WrittenLines lines stream)
    (hlines : ∀ line ∈ lines, IsLineText line) (number : Nat) :
    Lines.readFrom number (RawLine.cut stream) = ⟨lines, none⟩ := by
  induction h generalizing number with
  | nil => rfl
  | newline _ ih =>
    obtain ⟨⟨hnewline, hreturn⟩, hrest⟩ := List.forall_mem_cons.mp hlines
    rw [RawLine.cut_append_newline (ten_not_mem_toBytes hnewline),
      readFrom_cons (text?_toBytes hreturn true), ih hrest]
  | @returnNewline line lines rest _ ih =>
    obtain ⟨⟨hnewline, hreturn⟩, hrest⟩ := List.forall_mem_cons.mp hlines
    -- the carriage return is a part of the line until its text is taken
    have hcut : 10 ∉ toBytes line ++ [13] := by
      rw [List.mem_append, not_or]
      exact ⟨ten_not_mem_toBytes hnewline, by decide⟩
    rw [List.append_cons, RawLine.cut_append_newline hcut,
      readFrom_cons (text?_return_newline hreturn), ih hrest]
  | @unended line hne =>
    obtain ⟨hnewline, hreturn⟩ := hlines line List.mem_cons_self
    have hbytes : toBytes line ≠ [] :=
      Utf8.encode_ne_nil fun hempty => hne (String.toList_eq_nil_iff.mp hempty)
    rw [RawLine.cut_of_not_mem hbytes (ten_not_mem_toBytes hnewline),
      readFrom_cons (text?_toBytes hreturn false)]
    rfl

/-- Texts that can be told from their lines are read back as they were written, whatever ended each
of them. -/
theorem WrittenLines.read_eq (h : WrittenLines lines stream)
    (hlines : ∀ line ∈ lines, IsLineText line) : Lines.read stream = ⟨lines, none⟩ :=
  h.readFrom_eq hlines 1

/-! ## Blank lines -/

def RawLine.isBlank (raw : RawLine) : Bool :=
  match Utf8.decode? raw.bytes with
  | some s => isBlankLine s
  | none => false

def withoutBlankLines (stream : List UInt8) : List UInt8 :=
  RawLine.join ((RawLine.cut stream).filter (!·.isBlank))

/-- A carriage return is blank itself, so it does not matter to a blank line. -/
theorem isBlankLine_dropReturn (s : List Char) : isBlankLine (dropReturn s) = isBlankLine s := by
  unfold dropReturn
  split
  · next hlast =>
    obtain ⟨front, rfl⟩ := List.getLast?_eq_some_iff.mp hlast
    have hreturn : isBlank '\r' = true := by decide
    rw [List.dropLast_concat, isBlankLine, isBlankLine, List.all_append]
    simp [hreturn]
  · rfl

/-- A line is blank if its text is: the carriage returns that it loses are blank as well. -/
theorem isBlank_of_text? (h : raw.text? = some s) : raw.isBlank = isBlankLine s := by
  obtain ⟨decoded, hdecoded, rfl⟩ := Option.map_eq_some_iff.mp h
  rw [RawLine.isBlank, hdecoded]
  cases raw.ended with
  | true => rw [if_pos rfl, isBlankLine_dropReturn, isBlankLine_dropReturn]
  | false => rw [if_neg Bool.false_ne_true, isBlankLine_dropReturn]

/-- A line that is not text is not blank. -/
theorem isBlank_of_text?_eq_none (h : raw.text? = none) : raw.isBlank = false := by
  rw [RawLine.isBlank, Option.map_eq_none_iff.mp h]

/-- The numbers of lines change when blank ones are left out, but not their texts. -/
theorem texts_readFrom_filter (raws : List RawLine) (number number' : Nat) :
    (Lines.readFrom number (raws.filter (!·.isBlank))).texts
      = (Lines.readFrom number' raws).texts.filter (!isBlankLine ·.toList) := by
  induction raws generalizing number number' with
  | nil => rfl
  | cons raw raws ih =>
    cases htext : raw.text? with
    | none =>
      -- reading stops here, in both
      rw [List.filter_cons_of_pos (by simp [isBlank_of_text?_eq_none htext]), Lines.readFrom,
        Lines.readFrom, htext]
      rfl
    | some s =>
      have hs : raw.text? = some (String.ofList s).toList := by rw [htext, String.toList_ofList]
      have hblank := isBlank_of_text? hs
      rw [readFrom_cons hs, List.filter_cons, List.filter_cons, hblank]
      split
      · rw [readFrom_cons hs, ih]
      · exact ih number _

/-- A stream without its blank lines is read as the texts that are not blank. -/
theorem texts_read_withoutBlankLines (stream : List UInt8) :
    (Lines.read (withoutBlankLines stream)).texts
      = (Lines.read stream).texts.filter (!isBlankLine ·.toList) := by
  have hcut := RawLine.cut_join ((RawLine.isCut_cut stream).filter (!·.isBlank))
  rw [Lines.read, withoutBlankLines, hcut]
  exact texts_readFrom_filter _ _ _

end LinkGate.Text
