import LinkGate.Json.Parser
import LinkGate.Json.Printer
import Mathlib.Data.List.Basic

/-!
# JSON text reads back

A printed string reads back character by character: an escape is undone by its letter or by its four
digits, and every other character stands for itself (`readString_escapeChar_append`). Values are
read back from the inside out. The reader is bounded by its fuel, which never runs out before the
text does, since every step that takes one unit also takes one character (`ReadsBack`). So every
value without numbers is read back from its line (`parse?_toLine`).

A line has no line feed within, because a string has none once it is escaped
(`newline_not_mem_render`).
-/

namespace LinkGate.Json

variable {c d : Char} {s r : List Char} {j value : Json} {name : String} {items : List Json}
  {members : List (String × Json)} {n : Nat}

/-! ## Strings -/

/-- A letter after a backslash stands for the character that it was written for. -/
theorem ofEscapeLetter?_of_escapeLetter? (h : escapeLetter? c = some d) :
    ofEscapeLetter? d = some c ∧ d ≠ 'u' ∧ d ≠ '\n' := by
  unfold escapeLetter? at h
  repeat' split at h
  all_goals cases h
  all_goals
    next hc =>
      subst hc
      decide

/-- Characters that end a string or a line are written with a letter. -/
theorem ne_of_escapeLetter?_eq_none (h : escapeLetter? c = none) :
    c ≠ '"' ∧ c ≠ '\\' ∧ c ≠ '\n' := by
  refine ⟨?_, ?_, ?_⟩ <;>
    · rintro rfl
      revert h
      decide

/-- The digits are read as what they were written for. -/
theorem isDigitIn_digitChar (h : n < 16) :
    Number.isDigitIn 16 n.digitChar = true ∧ Number.digitValue n.digitChar = n := by
  have hall : ∀ n < 16,
      Number.isDigitIn 16 n.digitChar = true ∧ Number.digitValue n.digitChar = n := by decide
  exact hall n h

/-- A character of a string is read back, whatever follows. The cases are the three ways in which it
is written. -/
theorem readString_escapeChar_append (c : Char) (r : List Char) :
    readString .plain (escapeChar c ++ r)
      = (readString .plain r).map fun (s, t) => (c :: s, t) := by
  unfold escapeChar
  cases hletter : escapeLetter? c with
  | some d =>
    obtain ⟨hd, hu, -⟩ := ofEscapeLetter?_of_escapeLetter? hletter
    simp [readString, hd, hu]
  | none =>
    obtain ⟨hquote, hbackslash, -⟩ := ne_of_escapeLetter?_eq_none hletter
    simp only
    split
    · next hcontrol =>
      -- the first two digits are zeros, the last two make up the number
      have hzero : Number.isDigitIn 16 '0' = true ∧ Number.digitValue '0' = 0 := by decide
      have hhigh := isDigitIn_digitChar (show c.toNat / 16 < 16 by omega)
      have hlow := isDigitIn_digitChar (show c.toNat % 16 < 16 by omega)
      have hnumber : 16 * (c.toNat / 16) + c.toNat % 16 = c.toNat := by omega
      have hunit : codeUnit? none c.toNat = some (.char c) := by
        rw [codeUnit?, if_neg (by omega), if_neg (by omega), Char.ofNat_toNat]
      simp [readString, hhigh, hlow, hzero, hnumber, hunit]
    · next hcontrol => simp [readString, hquote, hbackslash, hcontrol]

/-- A string is read back up to the quotation mark after it. -/
theorem readString_flatMap_append (s r : List Char) :
    readString .plain (s.flatMap escapeChar ++ '"' :: r) = some (s, r) := by
  induction s with
  | nil => rfl
  | cons c s ih =>
    rw [List.flatMap_cons, List.append_assoc, readString_escapeChar_append, ih]
    rfl

theorem renderString_append (s r : List Char) :
    renderString s ++ r = '"' :: (s.flatMap escapeChar ++ '"' :: r) := by
  rw [renderString, List.cons_append, List.append_assoc, List.singleton_append]

/-! ## Values -/

inductive NumberFree : Json → Prop
  | null : NumberFree .null
  | boolean (value : Bool) : NumberFree (.boolean value)
  | string (value : String) : NumberFree (.string value)
  | array {items : List Json} (hitems : ∀ item ∈ items, NumberFree item) :
    NumberFree (.array items)
  | object {members : List (String × Json)} (hmembers : ∀ member ∈ members, NumberFree member.2) :
    NumberFree (.object members)

/-- The reader gets the value back from its text, whatever follows it, if it has a unit of fuel for
each character of the text. -/
def ReadsBack (j : Json) : Prop :=
  ∀ fuel r, (render j).length ≤ fuel → readValue fuel (render j ++ r) = some (j, r)

theorem skipSpace_cons (h : isSpace c = false) : skipSpace (c :: r) = c :: r := by
  rw [skipSpace, List.dropWhile_cons_of_neg (by simp [h])]

/-- The first character of a value neither is passed over nor closes an array. -/
theorem exists_render_eq_cons (h : NumberFree j) :
    ∃ c s, render j = c :: s ∧ isSpace c = false ∧ c ≠ ']' := by
  cases h with
  | null => exact ⟨'n', "ull".toList, by decide, by decide, by decide⟩
  | boolean value =>
    cases value with
    | true => exact ⟨'t', "rue".toList, by decide, by decide, by decide⟩
    | false => exact ⟨'f', "alse".toList, by decide, by decide, by decide⟩
  | string value => exact ⟨'"', _, by rw [render, renderString], by decide, by decide⟩
  | array hitems => exact ⟨'[', _, by rw [render], by decide, by decide⟩
  | object hmembers => exact ⟨'\x7b', _, by rw [render], by decide, by decide⟩

theorem commaSeparated_cons {item next : List Char} {rest : List (List Char)} :
    commaSeparated (item :: next :: rest) = item ++ ',' :: commaSeparated (next :: rest) := by
  rw [commaSeparated]
  simp

/-- Items that are read back each are read back as a list. The fuel is the length of the text, of
which each item takes some. -/
theorem readItems_append (hne : items ≠ []) (hitems : ∀ item ∈ items, ReadsBack item)
    (r : List Char) (hfuel : (commaSeparated (renderItems items)).length < n) :
    readItems n (commaSeparated (renderItems items) ++ ']' :: r) = some (items, r) := by
  induction items generalizing n with
  | nil => exact absurd rfl hne
  | cons item items ih =>
    obtain ⟨hitem, hrest⟩ := List.forall_mem_cons.mp hitems
    obtain ⟨n, rfl⟩ : ∃ m, n = m + 1 := ⟨n - 1, by omega⟩
    cases items with
    | nil =>
      simp only [renderItems, commaSeparated] at hfuel ⊢
      rw [readItems, hitem n _ (by omega)]
      simp only
      rw [skipSpace_cons (by decide)]
      rfl
    | cons next items =>
      simp only [renderItems, commaSeparated_cons, List.length_append, List.length_cons]
        at hfuel ih ⊢
      rw [List.append_assoc, readItems, hitem n _ (by omega)]
      simp only [List.cons_append]
      rw [skipSpace_cons (by decide)]
      simp only
      rw [ih (List.cons_ne_nil _ _) hrest (by omega)]
      rfl

/-- What the reader makes of the text after a member: another member follows, or the object ends. -/
def afterMember (n : Nat) (name : String) (value : Json) :
    List Char → Option (List (String × Json) × List Char)
  | ',' :: r => (readMembers n r).map fun (members, t) => ((name, value) :: members, t)
  | '\x7d' :: r => some ([(name, value)], r)
  | _ => none

/-- The reader gets a member back and goes on with what follows it. -/
theorem readMembers_member (hvalue : ReadsBack value) (hfuel : (render value).length ≤ n)
    (hd : isSpace d = false) :
    readMembers (n + 1) (renderString name.toList ++ ':' :: render value ++ d :: r)
      = afterMember n name value (d :: r) := by
  rw [List.append_assoc, renderString_append, readMembers, skipSpace_cons (by decide)]
  simp only
  rw [readString_flatMap_append]
  simp only [List.cons_append]
  rw [skipSpace_cons (by decide)]
  simp only
  -- name, colon and value are read; what follows is left to the reader as it is
  rw [hvalue n _ hfuel]
  simp only
  rw [skipSpace_cons hd, String.ofList_toList]
  rfl

/-- So are members. -/
theorem readMembers_append (hne : members ≠ []) (hmembers : ∀ member ∈ members, ReadsBack member.2)
    (r : List Char) (hfuel : (commaSeparated (renderMembers members)).length < n) :
    readMembers n (commaSeparated (renderMembers members) ++ '\x7d' :: r) = some (members, r) := by
  induction members generalizing n with
  | nil => exact absurd rfl hne
  | cons member members ih =>
    obtain ⟨name, value⟩ := member
    obtain ⟨hmember, hrest⟩ := List.forall_mem_cons.mp hmembers
    have hvalue : ReadsBack value := hmember
    obtain ⟨n, rfl⟩ : ∃ m, n = m + 1 := ⟨n - 1, by omega⟩
    cases members with
    | nil =>
      simp only [renderMembers, commaSeparated, List.length_append, List.length_cons] at hfuel ⊢
      exact readMembers_member hvalue (by omega) (by decide)
    | cons next members =>
      simp only [renderMembers, commaSeparated_cons, List.length_append, List.length_cons]
        at hfuel ih ⊢
      rw [List.append_assoc, List.cons_append,
        readMembers_member hvalue (by omega) (by decide), afterMember,
        ih (List.cons_ne_nil _ _) hrest (by omega)]
      rfl

/-- Every value without numbers is read back from its text. -/
theorem readsBack (h : NumberFree j) : ReadsBack j := by
  induction h with
  | null =>
    intro fuel r hfuel
    obtain ⟨n, rfl⟩ := Nat.exists_eq_add_of_le' (Nat.le_trans (by decide : 1 ≤ _) hfuel)
    rw [readValue]
    rfl
  | boolean value =>
    intro fuel r hfuel
    have hpos : 1 ≤ (render (.boolean value)).length := by cases value <;> decide
    obtain ⟨n, rfl⟩ := Nat.exists_eq_add_of_le' (Nat.le_trans hpos hfuel)
    rw [readValue]
    cases value <;> rfl
  | string value =>
    intro fuel r hfuel
    simp only [render, renderString, List.length_cons] at hfuel
    obtain ⟨n, rfl⟩ : ∃ n, fuel = n + 1 := ⟨fuel - 1, by omega⟩
    rw [render, renderString_append, readValue, skipSpace_cons (by decide)]
    simp only
    rw [readString_flatMap_append, Option.map_some, String.ofList_toList]
  | @array items hitems ih =>
    intro fuel r hfuel
    simp only [render, List.length_cons, List.length_append] at hfuel
    obtain ⟨n, rfl⟩ : ∃ n, fuel = n + 1 := ⟨fuel - 1, by omega⟩
    rw [render, List.cons_append, List.append_assoc, List.singleton_append, readValue,
      skipSpace_cons (by decide)]
    simp only
    cases items with
    | nil => rfl
    | cons item items =>
      have hread := readItems_append (List.cons_ne_nil item items) ih r (show _ < n by omega)
      -- the first item does not close the array
      obtain ⟨c, s, hfirst, hspace, hclose⟩ :=
        exists_render_eq_cons (hitems item List.mem_cons_self)
      obtain ⟨s, htext⟩ : ∃ s,
          commaSeparated (renderItems (item :: items)) ++ ']' :: r = c :: s := by
        rw [renderItems, hfirst]
        cases items <;> exact ⟨_, rfl⟩
      rw [htext] at hread ⊢
      rw [skipSpace_cons hspace]
      split
      · next heq => exact absurd (List.cons.inj heq).1 hclose
      · rw [hread]
        rfl
  | @object members hmembers ih =>
    intro fuel r hfuel
    simp only [render, List.length_cons, List.length_append] at hfuel
    obtain ⟨n, rfl⟩ : ∃ n, fuel = n + 1 := ⟨fuel - 1, by omega⟩
    rw [render, List.cons_append, List.append_assoc, List.singleton_append, readValue,
      skipSpace_cons (by decide)]
    simp only
    cases members with
    | nil => rfl
    | cons member members =>
      have hread := readMembers_append (List.cons_ne_nil member members) ih r
        (show _ < n by omega)
      -- the first member begins with a quote
      obtain ⟨s, htext⟩ : ∃ s,
          commaSeparated (renderMembers (member :: members)) ++ '\x7d' :: r = '"' :: s := by
        rw [renderMembers]
        cases members <;> exact ⟨_, rfl⟩
      rw [htext] at hread ⊢
      rw [skipSpace_cons (by decide)]
      split
      · next heq => exact absurd (List.cons.inj heq).1 (by decide)
      · rw [hread]
        rfl

/-! ## Lines -/

theorem toList_toLine (j : Json) : j.toLine.toList = render j :=
  String.toList_ofList

/-- What is written on a line is read back. -/
theorem parse?_toLine (h : NumberFree j) : parse? j.toLine = some j := by
  have hread : readValue (2 * j.toLine.length + 2) (render j ++ []) = some (j, []) := by
    refine readsBack h _ [] ?_
    rw [← String.length_toList, toList_toLine]
    omega
  rw [List.append_nil] at hread
  rw [parse?, toList_toLine, hread]
  rfl

/-- A string is written without a line feed. -/
theorem newline_not_mem_renderString (s : List Char) : '\n' ∉ renderString s := by
  have hchar : ∀ c, '\n' ∉ escapeChar c := by
    intro c
    unfold escapeChar
    cases hletter : escapeLetter? c with
    | some d =>
      have hd := (ofEscapeLetter?_of_escapeLetter? hletter).2.2
      simp [Ne.symm hd]
    | none =>
      have hc := (ne_of_escapeLetter?_eq_none hletter).2.2
      simp only
      split
      · next hcontrol =>
        have hdigit : ∀ d < 16, '\n' ≠ d.digitChar := by decide
        have hhigh := hdigit (c.toNat / 16) (by omega)
        have hlow := hdigit (c.toNat % 16) (by omega)
        simp [hhigh, hlow]
      · simp [Ne.symm hc]
  simp [renderString, hchar]

/-- Nor is there one between the items. -/
theorem newline_not_mem_commaSeparated {texts : List (List Char)}
    (h : ∀ text ∈ texts, '\n' ∉ text) : '\n' ∉ commaSeparated texts := by
  induction texts with
  | nil => exact List.not_mem_nil
  | cons text texts ih =>
    obtain ⟨htext, hrest⟩ := List.forall_mem_cons.mp h
    cases texts with
    | nil => exact htext
    | cons next texts => simp [commaSeparated_cons, htext, ih hrest]

/-- A value without numbers is written on one line. -/
theorem newline_not_mem_render (h : NumberFree j) : '\n' ∉ render j := by
  induction h with
  | null => decide
  | boolean value => cases value <;> decide
  | string value => exact newline_not_mem_renderString _
  | @array items hitems ih =>
    have htexts : ∀ text ∈ renderItems items, '\n' ∉ text := by
      clear hitems
      induction items with
      | nil => simp [renderItems]
      | cons item items ihrest =>
        rw [List.forall_mem_cons] at ih
        rw [renderItems, List.forall_mem_cons]
        exact ⟨ih.1, ihrest ih.2⟩
    simp [render, newline_not_mem_commaSeparated htexts]
  | @object members hmembers ih =>
    have htexts : ∀ text ∈ renderMembers members, '\n' ∉ text := by
      clear hmembers
      induction members with
      | nil => simp [renderMembers]
      | cons member members ihrest =>
        rw [List.forall_mem_cons] at ih
        rw [renderMembers, List.forall_mem_cons]
        exact ⟨by simp [newline_not_mem_renderString, ih.1], ihrest ih.2⟩
    simp [render, newline_not_mem_commaSeparated htexts]

end LinkGate.Json
