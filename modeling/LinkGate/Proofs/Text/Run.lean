import Mathlib.Data.List.DropRight

/-!
# Runs of a character class

Every reader of a URL cuts its text at the end of the longest run of some class of characters:
the scheme ends at the first delimiter, a media type at the first semicolon or comma, a payload
at the first character that is no digit. A reader does the cut with `takeWhile` and `dropWhile`,
while a statement about it says which text stands before the cut and which after it. The lemmas on
`EndsRun` go from the second to the first: a text of the class is the whole run if what follows it
does not carry the run on.
-/

namespace LinkGate.Text

variable {p : Char → Bool} {s a b : List Char}

/-- Whether the text `s` cannot carry on a run of the class `p`: it is over, or it starts with a
character outside of the class. -/
def EndsRun (p : Char → Bool) (s : List Char) : Prop :=
  ∀ c ∈ s.head?, p c = false

@[simp] theorem endsRun_nil : EndsRun p [] := by
  simp [EndsRun]

@[simp] theorem endsRun_cons {c : Char} : EndsRun p (c :: s) ↔ p c = false := by
  simp [EndsRun]

/-- What is left after a run of the class does not carry it on. -/
theorem endsRun_dropWhile (p : Char → Bool) (s : List Char) : EndsRun p (s.dropWhile p) := by
  induction s with
  | nil => exact endsRun_nil
  | cons c r ih =>
    rw [List.dropWhile_cons]
    split
    · exact ih
    · next hc => exact endsRun_cons.mpr (by simpa using hc)

/-- A run is taken up to where it ends. -/
theorem takeWhile_append_of_endsRun (ha : ∀ c ∈ a, p c = true) (hb : EndsRun p b) :
    (a ++ b).takeWhile p = a := by
  rw [List.takeWhile_append_of_pos ha]
  cases b with
  | nil => simp
  | cons c r => rw [List.takeWhile_cons_of_neg (by simpa using hb), List.append_nil]

/-- What is left is the text after it. -/
theorem dropWhile_append_of_endsRun (ha : ∀ c ∈ a, p c = true) (hb : EndsRun p b) :
    (a ++ b).dropWhile p = b := by
  rw [List.dropWhile_append_of_pos ha]
  cases b with
  | nil => rfl
  | cons c r => exact List.dropWhile_cons_of_neg (by simpa using hb)

/-- A run from the start ends at a character outside of the class at the latest, so what follows
that character does not matter. -/
theorem dropWhile_append_cons {c : Char} (hc : p c = false) :
    (a ++ c :: b).dropWhile p = a.dropWhile p ++ c :: b := by
  induction a with
  | nil => exact List.dropWhile_cons_of_neg (by simp [hc])
  | cons d r ih =>
    rw [List.cons_append, List.dropWhile_cons, List.dropWhile_cons, ih]
    split <;> rfl

/-- The same from the end of the text. -/
theorem rdropWhile_append_cons {c : Char} (hc : p c = false) :
    (a ++ c :: b).rdropWhile p = a ++ c :: b.rdropWhile p := by
  unfold List.rdropWhile
  rw [show (a ++ c :: b).reverse = b.reverse ++ c :: a.reverse by simp,
    dropWhile_append_cons hc]
  simp

end LinkGate.Text
