/-!
ASCII letter case. Schemes and media types are compared without regard to ASCII case, and no other
character takes part: a Kelvin sign is not a `k`.
-/

namespace LinkGate.Text

/-- The text with `A` to `Z` replaced by `a` to `z` and every other character kept. -/
def lower (s : List Char) : List Char :=
  s.map Char.toLower

@[simp] theorem lower_nil : lower [] = [] := rfl

@[simp] theorem lower_cons (c : Char) (s : List Char) : lower (c :: s) = c.toLower :: lower s := rfl

@[simp] theorem lower_append (s t : List Char) : lower (s ++ t) = lower s ++ lower t := by
  simp [lower]

end LinkGate.Text
