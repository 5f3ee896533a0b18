import LinkGate.Log.Filter
import LinkGate.Proofs.Text.LetterCase
import LinkGate.Proofs.Text.Run
import LinkGate.Proofs.Text.Utf8
import Mathlib.Data.List.Nodup

/-!
# Filters of levels and targets

Most filters are rules with commas between them. A rule is a level, or a target, an equals sign and
a level (`Rule.Writes`). A target may hold almost any character, so the work is in showing that the
reader takes it for what it is.

* **`Rule.Writes.parse?`**: a rule is read as its directive. Its first and last characters are not
  blank, so nothing is cut off around it, and no character of a level ends a target.
* **`Filter.chooses_deciding?`**: of the directives about an event the one that decides has the
  longest target. This is an induction from the last directive on, because each later one is
  compared with the best of those before it.
* **`Rule.Decides.unique`**: two targets of one length that both begin the target of an event are
  the same. So of rules for different targets one at most decides, in whatever order they stand.

`Filter.admits_directives_iff` puts the last two together, and `Filter.ofSetting_eq_iff` tells for
which settings a filter is used at all.
-/

namespace LinkGate.Text

variable {c : Char} {s : List Char}

/-! ## Blanks -/

def blankNumbers : List Nat :=
  [0x09, 0x0A, 0x0B, 0x0C, 0x0D, 0x20, 0x85, 0xA0, 0x1680, 0x2000, 0x2001, 0x2002, 0x2003, 0x2004,
    0x2005, 0x2006, 0x2007, 0x2008, 0x2009, 0x200A, 0x2028, 0x2029, 0x202F, 0x205F, 0x3000]

theorem toNat_mem_blankNumbers (h : isBlank c = true) : c.toNat ∈ blankNumbers := by
  unfold isBlank at h
  simp only [Bool.or_eq_true, Bool.and_eq_true, decide_eq_true_eq, beq_iff_eq] at h
  simp only [blankNumbers, List.mem_cons]
  omega

/-- A character of a class without blanks is not blank. -/
theorem isBlank_eq_false_of_class {p : Char → Bool}
    (hp : ∀ n ∈ blankNumbers, p (Char.ofNat n) = false) (h : p c = true) : isBlank c = false := by
  by_contra hblank
  rw [Bool.not_eq_false] at hblank
  have hnot := hp c.toNat (toNat_mem_blankNumbers hblank)
  rw [Char.ofNat_toNat, h] at hnot
  cases hnot

/-- A text with no blank at its ends is not changed by cutting blanks off. -/
theorem trim_eq_self (hfirst : ∀ c ∈ s.head?, isBlank c = false)
    (hlast : ∀ c ∈ s.getLast?, isBlank c = false) : trim s = s := by
  have hdrop : ∀ s : List Char, EndsRun isBlank s → s.dropWhile isBlank = s := by
    intro s hs
    exact dropWhile_append_of_endsRun (a := []) (by simp) hs
  have hreverse : EndsRun isBlank s.reverse := by rwa [EndsRun, List.head?_reverse]
  rw [trim, hdrop s hfirst, hdrop s.reverse hreverse, List.reverse_reverse]

end LinkGate.Text

namespace LinkGate.Log

variable {c : Char} {s text level : List Char} {limit : Limit} {e : Event}

/-! ## The characters of a level -/

def Limit.mayHold (c : Char) : Bool :=
  c.isAlphanum || c == '+'

theorem Limit.mayHold_of_ofNumber? (h : ofNumber? text = some limit) :
    ∀ c ∈ text, mayHold c = true := by
  have hdigits : ∀ digits : List Char,
      (if digits.isEmpty || !digits.all Char.isDigit then none
        else (names[Number.ofDigits 10 digits]?).map (·.2)) = some limit →
      ∀ c ∈ digits, mayHold c = true := by
    intro digits hsome c hc
    split at hsome
    · cases hsome
    · next hall =>
      have hdigit : c.isDigit = true := by
        rw [Bool.or_eq_true, not_or, Bool.not_eq_true', Bool.not_eq_false, List.all_eq_true] at hall
        exact hall.2 c hc
      have halphanum : c.isAlphanum = true :=
        Text.isAlphanum_iff.mpr (.inr (Text.isDigit_iff.mp hdigit))
      rw [mayHold, halphanum, Bool.true_or]
  unfold ofNumber? at h
  simp only at h
  split at h
  · next r => exact List.forall_mem_cons.mpr ⟨by decide, hdigits r h⟩
  · exact hdigits text h

/-- A level is a word or a number, so its characters are letters, digits and plus signs. -/
theorem Limit.mayHold_of_ofText? (h : ofText? text = some limit) :
    ∀ c ∈ text, mayHold c = true := by
  unfold ofText? at h
  split at h
  · next hnumber => exact mayHold_of_ofNumber? hnumber
  · -- a name is in small letters, so a text with that lower case is in letters
    intro c hc
    obtain ⟨name, hname, hlower⟩ : ∃ name ∈ names, Text.lower text = name.1.toList := by
      obtain ⟨before, after, hnames, -⟩ := List.lookup_eq_some_iff.mp h
      refine ⟨_, by rw [hnames]; exact List.mem_append_right _ List.mem_cons_self, ?_⟩
      exact String.toList_ofList.symm
    have hsmall : ∀ name ∈ names, name.1.toList.all Char.isLower = true := by decide
    have hc' : c.toLower.isLower = true := by
      apply List.all_eq_true.mp (hsmall name hname)
      rw [← hlower]
      exact List.mem_map_of_mem hc
    have hletter : c.isAlphanum = true := by
      rw [Text.isLower_iff, Text.toNat_toLower] at hc'
      rw [Text.isAlphanum_iff]
      split at hc' <;> omega
    rw [mayHold, hletter, Bool.true_or]

/-- No character of a level is blank. -/
theorem Limit.isBlank_of_mayHold (h : mayHold c = true) : Text.isBlank c = false :=
  Text.isBlank_eq_false_of_class (by decide) h

theorem Limit.ne_of_mayHold {d : Char} (h : mayHold c = true) (hd : mayHold d = false) : c ≠ d := by
  rintro rfl
  rw [h] at hd
  cases hd

theorem Directive.isBlank_of_mayStart (h : mayStart c = true) : Text.isBlank c = false :=
  Text.isBlank_eq_false_of_class (by decide) h

/-- A level may start a directive, unless it has a sign in front. -/
theorem Directive.mayStart_of_mayHold (h : Limit.mayHold c = true) (hplus : c ≠ '+') :
    mayStart c = true := by
  have halphanum : c.isAlphanum = true := by
    rw [Limit.mayHold, Bool.or_eq_true, beq_iff_eq] at h
    exact h.resolve_right hplus
  have hlow : c.toNat < 0x80 := by
    rw [Text.isAlphanum_iff] at halphanum
    omega
  rw [mayStart, Text.isAlphanumeric]
  simp only [if_pos hlow, halphanum, Bool.true_or]

/-! ## Rules -/

/-- A level and the target it is for. A bare level is for the empty target, with which every target
begins. -/
structure Rule where
  target : List Char
  limit : Limit

namespace Rule

/-- How a rule is written. A plus sign in front makes no difference to a level, but a directive does
not start with it. -/
inductive Writes : Rule → List Char → Prop
  | level {level : List Char} {limit : Limit} (hlimit : Limit.ofText? level = some limit)
    (hplus : level.head? ≠ some '+') : Writes ⟨[], limit⟩ level
  | target {c : Char} {name level : List Char} {limit : Limit}
    (hstart : Directive.mayStart c = true)
    (hname : ∀ d ∈ name, d ≠ '=' ∧ d ≠ '[') (hlimit : Limit.ofText? level = some limit) :
    Writes ⟨c :: name, limit⟩ (c :: name ++ '=' :: level)

def directive (rule : Rule) : Directive :=
  match rule.target with
  | [] => .global rule.limit
  | target => .ofTarget (String.ofList target) rule.limit

end Rule

theorem ne_nil_of_ofText? (h : Limit.ofText? level = some limit) : level ≠ [] := by
  rintro rfl
  cases h

/-- A level has nothing around it that could be cut. -/
theorem isBlank_getLast?_of_ofText? (h : Limit.ofText? level = some limit) :
    ∀ c ∈ level.getLast?, Text.isBlank c = false :=
  fun _ hc => Limit.isBlank_of_mayHold (Limit.mayHold_of_ofText? h _ (List.mem_of_getLast? hc))

namespace Directive

def isTargetChar (c : Char) : Bool :=
  c != '=' && c != '['

theorem isTargetChar_iff : isTargetChar c = true ↔ c ≠ '=' ∧ c ≠ '[' := by
  rw [isTargetChar, Bool.and_eq_true, bne_iff_ne, bne_iff_ne]

theorem isTargetChar_of_mayStart (h : mayStart c = true) : isTargetChar c = true := by
  rw [isTargetChar_iff]
  constructor
  · rintro rfl
    exact absurd h (by decide)
  · rintro rfl
    exact absurd h (by decide)

/-- A directive that starts with a target, without blanks around it. -/
theorem parse?_of_mayStart {r : List Char} (htrim : Text.trim text = text) (htext : text = c :: r)
    (hstart : mayStart c = true) :
    parse? text = (match text.dropWhile isTargetChar with
      | [] => some (ofWord text)
      | '[' :: r => do
        let stop := size (text.takeWhile isTargetChar)
        let target ← Text.Utf8.piece? (Text.Utf8.encode text) 0 stop
        readSpan (Text.Utf8.encode text) (some (String.ofList target)) (stop + 1) r
      | r => do
        let stop := size (text.takeWhile isTargetChar)
        let target ← Text.Utf8.piece? (Text.Utf8.encode text) 0 stop
        some (ofTarget (String.ofList target) (← readLimit (Text.Utf8.encode text) stop r))) := by
  subst htext
  have hbracket : c ≠ '[' := (isTargetChar_iff.mp (isTargetChar_of_mayStart hstart)).2
  unfold parse?
  rw [htrim]
  split
  · next h => cases h
  · next h =>
    cases h
    exact absurd rfl hbracket
  · next h =>
    cases h
    simp only [hstart]
    rfl

/-- A level by itself is read as a directive for all targets. -/
theorem parse?_level (hlimit : Limit.ofText? level = some limit) (hplus : level.head? ≠ some '+') :
    parse? level = some (global limit) := by
  have hchars := Limit.mayHold_of_ofText? hlimit
  obtain ⟨c, r, rfl⟩ := List.exists_cons_of_ne_nil (ne_nil_of_ofText? hlimit)
  have hstart : mayStart c = true :=
    mayStart_of_mayHold (hchars c List.mem_cons_self) (by simpa using hplus)
  have htrim : Text.trim (c :: r) = c :: r := by
    apply Text.trim_eq_self
    · simpa using isBlank_of_mayStart hstart
    · exact isBlank_getLast?_of_ofText? hlimit
  -- no character of a level ends a target, so the whole text is one word
  have hrest : (c :: r).dropWhile isTargetChar = [] := by
    rw [List.dropWhile_eq_nil_iff]
    intro d hd
    exact isTargetChar_iff.mpr ⟨Limit.ne_of_mayHold (hchars d hd) (by decide),
      Limit.ne_of_mayHold (hchars d hd) (by decide)⟩
  rw [parse?_of_mayStart htrim rfl hstart, hrest]
  simp only [ofWord, hlimit]

/-- A beginning of a text is cut off at its size. -/
theorem piece?_append (s r : List Char) :
    Text.Utf8.piece? (Text.Utf8.encode (s ++ r)) 0 (size s) = some s := by
  rw [Text.Utf8.piece?, size, Text.Utf8.encode_append, List.take_left, List.drop_zero,
    Text.Utf8.decode?_encode]

/-- What follows the equals sign is cut off after it. -/
theorem readLimit_append (s : List Char) (hlimit : Limit.ofText? level = some limit) :
    readLimit (Text.Utf8.encode (s ++ '=' :: level)) (size s) ('=' :: level) = some limit := by
  have hpiece : Text.Utf8.piece? (Text.Utf8.encode (s ++ '=' :: level)) (size s + 1)
      (Text.Utf8.encode (s ++ '=' :: level)).length = some level := by
    have hsign : Text.Utf8.encode (s ++ '=' :: level)
        = (Text.Utf8.encode s ++ [61]) ++ Text.Utf8.encode level := by
      rw [Text.Utf8.encode_append, List.append_assoc, Text.Utf8.encode_cons]
      rfl
    have hsize : size s + 1 = (Text.Utf8.encode s ++ [61]).length := by
      rw [size, List.length_append]
      rfl
    rw [Text.Utf8.piece?, List.take_length, hsign, hsize, List.drop_left, Text.Utf8.decode?_encode]
  rw [readLimit, hpiece]
  show Limit.ofSuffix? level = some limit
  rw [Limit.ofSuffix?, if_neg (by simpa using ne_nil_of_ofText? hlimit), hlimit]

/-- A target with an equals sign and a level is read as a directive for this target. -/
theorem parse?_target {name : List Char} (hstart : mayStart c = true)
    (hname : ∀ d ∈ name, d ≠ '=' ∧ d ≠ '[') (hlimit : Limit.ofText? level = some limit) :
    parse? (c :: name ++ '=' :: level) = some (ofTarget (String.ofList (c :: name)) limit) := by
  have htrim : Text.trim (c :: name ++ '=' :: level) = c :: name ++ '=' :: level := by
    apply Text.trim_eq_self
    · simpa using isBlank_of_mayStart hstart
    · have hlast := isBlank_getLast?_of_ofText? hlimit
      rw [List.getLast?_append_cons, List.getLast?_cons_of_ne_nil (ne_nil_of_ofText? hlimit)]
      exact hlast
  have hchars : ∀ d ∈ c :: name, isTargetChar d = true :=
    List.forall_mem_cons.mpr
      ⟨isTargetChar_of_mayStart hstart, fun d hd => isTargetChar_iff.mpr (hname d hd)⟩
  have hend : Text.EndsRun isTargetChar ('=' :: level) := Text.endsRun_cons.mpr rfl
  rw [parse?_of_mayStart htrim rfl hstart, Text.dropWhile_append_of_endsRun hchars hend,
    Text.takeWhile_append_of_endsRun hchars hend]
  simp only [piece?_append, Option.bind_eq_bind, Option.bind_some]
  -- what is left is the level, at the offset where the target ended
  show (readLimit (Text.Utf8.encode (c :: name ++ '=' :: level)) (size (c :: name))
    ('=' :: level)).bind (fun limit => some (ofTarget (String.ofList (c :: name)) limit)) = _
  rw [readLimit_append _ hlimit]
  rfl

end Directive

/-- A rule is read as its directive. -/
theorem Rule.Writes.parse? {rule : Rule} (h : rule.Writes text) :
    Directive.parse? text = some rule.directive := by
  cases h with
  | level hlimit hplus => exact Directive.parse?_level hlimit hplus
  | target hstart hname hlimit => exact Directive.parse?_target hstart hname hlimit

/-! ## Filters -/

namespace Filter

variable {filter : Filter} {d : Directive} {rules : List Rule} {parts : List (List Char)}

def Lists (text : String) (rules : List Rule) : Prop :=
  List.Forall₂ Rule.Writes rules ((text.toList.splitOn ',').filter (!·.isEmpty))

theorem mapM_parse?_of_writes (h : List.Forall₂ Rule.Writes rules parts) :
    parts.mapM Directive.parse? = some (rules.map Rule.directive) := by
  induction h with
  | nil => rfl
  | cons hrule _ ih =>
    rw [List.mapM_cons, hrule.parse?, ih]
    rfl

/-- A text that lists rules is read as their directives in the same order. -/
theorem parse?_of_lists {text : String} (h : Lists text rules) :
    parse? text = some (rules.map Rule.directive) :=
  mapM_parse?_of_writes h

/-! ### Choosing -/

/-- `d` is one of the directives about the event, and none of them has a longer target. -/
structure Decides (filter : Filter) (e : Event) (d : Directive) : Prop where
  mem : d ∈ filter
  holds : d.holdsFor e = true
  longest : ∀ other ∈ filter, other.holdsFor e = true → other.targetRank ≤ d.targetRank

/-- A directive takes the place of none with a longer target. -/
theorem targetRank_of_overrides {other : Directive} (h : d.overrides other = true) :
    other.targetRank ≤ d.targetRank := by
  unfold Directive.overrides at h
  split at h
  · exact Nat.le_of_lt (of_decide_eq_true h)
  · next heq => omega

/-- It leaves in place only those with a target that is as long at least. -/
theorem targetRank_of_not_overrides {other : Directive} (h : d.overrides other = false) :
    d.targetRank ≤ other.targetRank := by
  unfold Directive.overrides at h
  split at h
  · exact Nat.le_of_not_lt (of_decide_eq_false h)
  · next heq => omega

/-- With each directive that is about the event the better one of two is kept. -/
theorem deciding?_concat (filter : Filter) (d : Directive) (e : Event) :
    deciding? (filter ++ [d]) e =
      if d.holdsFor e then
        match filter.deciding? e with
        | none => some d
        | some best => if d.overrides best then some d else some best
      else filter.deciding? e := by
  unfold deciding?
  rw [List.filter_append, List.foldl_append]
  split
  · next hd =>
    have hlast : [d].filter (fun d => d.holdsFor e) = [d] := List.filter_cons_of_pos hd
    rw [hlast]
    rfl
  · next hd =>
    have hlast : [d].filter (fun d => d.holdsFor e) = [] := List.filter_cons_of_neg hd
    rw [hlast]
    rfl

/-- A directive still decides after one that is not longer. -/
theorem Decides.concat {best : Directive} (h : filter.Decides e best)
    (hd : d.holdsFor e = true → d.targetRank ≤ best.targetRank) :
    Decides (filter ++ [d]) e best := by
  refine ⟨List.mem_append_left _ h.mem, h.holds, fun other hother hholds => ?_⟩
  rcases List.mem_append.mp hother with hmem | hlast
  · exact h.longest other hmem hholds
  · obtain rfl := List.mem_singleton.mp hlast
    exact hd hholds

/-- The last directive decides if none about the event is longer. -/
theorem decides_concat_self (hd : d.holdsFor e = true)
    (h : ∀ other ∈ filter, other.holdsFor e = true → other.targetRank ≤ d.targetRank) :
    Decides (filter ++ [d]) e d := by
  refine ⟨by simp, hd, fun other hother hholds => ?_⟩
  rcases List.mem_append.mp hother with hmem | hlast
  · exact h other hmem hholds
  · rw [List.mem_singleton.mp hlast]

/-- What may come of choosing: no directive is about the event, or one decides. -/
inductive Chooses (filter : Filter) (e : Event) : Option Directive → Prop
  | none (h : ∀ d ∈ filter, d.holdsFor e = false) : Chooses filter e none
  | some {d : Directive} (h : filter.Decides e d) : Chooses filter e (some d)

/-- The one that is chosen decides. The induction is from the last directive on, since each is
compared with the best of those before it. -/
theorem chooses_deciding? (filter : Filter) (e : Event) :
    filter.Chooses e (filter.deciding? e) := by
  induction filter using List.reverseRecOn with
  | nil => exact .none fun d hd => (by cases hd)
  | append_singleton filter d ih =>
    rw [deciding?_concat]
    generalize deciding? filter e = chosen at ih ⊢
    split
    · next hd =>
      cases ih with
      | none h =>
        -- it is the first directive about the event, so there is none to compare it with
        refine .some (decides_concat_self hd fun other hother hholds => ?_)
        rw [h other hother] at hholds
        cases hholds
      | @some best h =>
        -- only the best one so far is compared with `d`, and the others have no longer target
        show Chooses _ e (if d.overrides best then some d else some best)
        split
        · next hover =>
          have hrank := targetRank_of_overrides hover
          exact .some (decides_concat_self hd fun other hother hholds =>
            (h.longest other hother hholds).trans hrank)
        · next hover =>
          have hrank := targetRank_of_not_overrides (Bool.not_eq_true _ ▸ hover)
          exact .some (h.concat fun _ => hrank)
    · next hd =>
      cases ih with
      | none h =>
        refine .none fun other hother => ?_
        rcases List.mem_append.mp hother with hmem | hlast
        · exact h other hmem
        · rw [List.mem_singleton.mp hlast]
          exact Bool.not_eq_true _ ▸ hd
      | some h => exact .some (h.concat fun hd' => absurd hd' hd)

/-- An event is shown as the directive says that decides about it. -/
theorem admits_eq_true_iff (hunique : ∀ d d', filter.Decides e d → filter.Decides e d' → d = d') :
    filter.admits e = true ↔ ∃ d, filter.Decides e d ∧ d.limit.admits e.level = true := by
  have hchoice := chooses_deciding? filter e
  unfold admits
  generalize deciding? filter e = chosen at hchoice ⊢
  cases hchoice with
  | none h =>
    refine ⟨fun hfalse => (by cases hfalse), fun ⟨d, hd, _⟩ => ?_⟩
    have hnot := h d hd.mem
    rw [hd.holds] at hnot
    cases hnot
  | @some d h =>
    refine ⟨fun hadmits => ⟨d, h, hadmits⟩, fun ⟨d', hd', hadmits⟩ => ?_⟩
    rw [hunique d d' h hd']
    exact hadmits

end Filter

/-! ## The rule that decides -/

/-- A limit lets through what is no more detailed than its level. -/
theorem Limit.admits_eq_true_iff {level : Level} :
    limit.admits level = true ↔ ∃ most, limit = some most ∧ level.rank ≤ most.rank := by
  cases limit with
  | none => simp [admits]
  | some most => simp [admits]

namespace Rule

variable {rule other : Rule} {rules : List Rule}

/-- `rule` is the one of the rules whose target is the longest that begins the event's target. -/
structure Decides (rules : List Rule) (e : Event) (rule : Rule) : Prop where
  mem : rule ∈ rules
  begins : rule.target <+: e.target.toList
  longest : ∀ other ∈ rules, other.target <+: e.target.toList →
    other.target.length ≤ rule.target.length

theorem limit_directive (rule : Rule) : rule.directive.limit = rule.limit := by
  unfold directive
  split <;> rfl

/-- A rule is about the events whose target begins with that of the rule. -/
theorem holdsFor_directive :
    rule.directive.holdsFor e = true ↔ rule.target <+: e.target.toList := by
  unfold directive
  split
  · next h => simp [h, Directive.holdsFor, Directive.global]
  · simp [Directive.holdsFor, Directive.ofTarget]

theorem targetRank_directive (rule : Rule) :
    rule.directive.targetRank = if rule.target = [] then 0 else rule.target.length + 1 := by
  unfold directive
  split
  · next h => rw [if_pos h]; rfl
  · next h =>
    rw [if_neg h]
    simp [Directive.targetRank, Directive.ofTarget]

/-- Rules are compared by the lengths of their targets. -/
theorem targetRank_directive_le_iff : other.directive.targetRank ≤ rule.directive.targetRank ↔
    other.target.length ≤ rule.target.length := by
  rw [targetRank_directive, targetRank_directive]
  cases other.target <;> cases rule.target <;> simp

/-- The directive that decides is that of a rule that decides. -/
theorem decides_directive_iff : Filter.Decides (rules.map directive) e d ↔
    ∃ rule, Decides rules e rule ∧ rule.directive = d := by
  constructor
  · rintro ⟨hmem, hholds, hlongest⟩
    obtain ⟨rule, hrule, rfl⟩ := List.mem_map.mp hmem
    refine ⟨rule, ⟨hrule, holdsFor_directive.mp hholds, fun other hother hbegins => ?_⟩, rfl⟩
    exact targetRank_directive_le_iff.mp
      (hlongest _ (List.mem_map_of_mem hother) (holdsFor_directive.mpr hbegins))
  · rintro ⟨rule, ⟨hmem, hbegins, hlongest⟩, rfl⟩
    refine ⟨List.mem_map_of_mem hmem, holdsFor_directive.mpr hbegins, fun other hother hholds => ?_⟩
    obtain ⟨rule', hrule', rfl⟩ := List.mem_map.mp hother
    exact targetRank_directive_le_iff.mpr (hlongest rule' hrule' (holdsFor_directive.mp hholds))

/-- Of rules with different targets one at most decides. -/
theorem Decides.unique (hdistinct : (rules.map target).Nodup) (h : Decides rules e rule)
    (h' : Decides rules e other) : rule = other := by
  have hlength : rule.target.length = other.target.length :=
    Nat.le_antisymm (h'.longest rule h.mem h.begins) (h.longest other h'.mem h'.begins)
  -- of two beginnings of one text the shorter begins the longer
  have hprefix : rule.target <+: other.target :=
    List.prefix_of_prefix_length_le h.begins h'.begins hlength.le
  have htarget : rule.target = other.target := hprefix.eq_of_length hlength
  exact List.inj_on_of_nodup_map hdistinct h.mem h'.mem htarget

end Rule

namespace Filter

variable {rules : List Rule}

/-- An event passes rules for different targets if the one with the longest target that begins its
own lets the level through. -/
theorem admits_directives_iff (hdistinct : (rules.map Rule.target).Nodup) :
    admits (rules.map Rule.directive) e = true ↔
      ∃ rule most, Rule.Decides rules e rule ∧ rule.limit = some most ∧
        e.level.rank ≤ most.rank := by
  rw [admits_eq_true_iff]
  · simp only [Rule.decides_directive_iff]
    constructor
    · rintro ⟨_, ⟨rule, hrule, rfl⟩, hadmits⟩
      rw [Rule.limit_directive, Limit.admits_eq_true_iff] at hadmits
      obtain ⟨most, hlimit, hrank⟩ := hadmits
      exact ⟨rule, most, hrule, hlimit, hrank⟩
    · rintro ⟨rule, most, hrule, hlimit, hrank⟩
      refine ⟨_, ⟨rule, hrule, rfl⟩, ?_⟩
      rw [Rule.limit_directive, Limit.admits_eq_true_iff]
      exact ⟨most, hlimit, hrank⟩
  · intro d d' hd hd'
    obtain ⟨rule, hrule, rfl⟩ := Rule.decides_directive_iff.mp hd
    obtain ⟨rule', hrule', rfl⟩ := Rule.decides_directive_iff.mp hd'
    rw [hrule.unique hdistinct hrule']

/-- The longer target decides, although its rule stands first and the other one shows more. -/
example : (ofSetting (some "safeurl::cli=off,safeurl=trace")).admits (.finished 1) = false := by
  decide +kernel

/-! ## The filter for a run -/

/-- The default filter is that of the text in which a user would set it. -/
theorem parse?_default : parse? "info,safeurl=debug" = some default := by
  have hlists : Lists "info,safeurl=debug"
      [⟨[], some .info⟩, ⟨"safeurl".toList, some .debug⟩] := by
    have hparts : ("info,safeurl=debug".toList.splitOn ',').filter (!·.isEmpty)
        = ["info".toList, "safeurl".toList ++ '=' :: "debug".toList] := rfl
    rw [Lists, hparts]
    have hlevel : Rule.Writes ⟨[], some .info⟩ "info".toList := .level (by decide) (by decide)
    have hname : "afeurl".toList.all Directive.isTargetChar = true := by decide
    have htarget : Rule.Writes ⟨"safeurl".toList, some .debug⟩
        ("safeurl".toList ++ '=' :: "debug".toList) := by
      apply @Rule.Writes.target 's' "afeurl".toList _ _ (by decide)
      · exact fun d hd => Directive.isTargetChar_iff.mp (List.all_eq_true.mp hname d hd)
      · decide
    exact .cons hlevel (.cons htarget .nil)
  exact parse?_of_lists hlists

/-- The filter is what the setting is read as; a setting that cannot be read, or is missing, counts
as the default. -/
theorem ofSetting_eq_iff {setting : Option String} {filter : Filter} :
    ofSetting setting = filter ↔
      (∃ text, setting = some text ∧ parse? text = some filter) ∨
      ((∀ text, setting = some text → parse? text = none) ∧
        parse? "info,safeurl=debug" = some filter) := by
  rw [parse?_default]
  cases setting with
  | none => simp [ofSetting]
  | some text =>
    cases hparse : parse? text <;> simp [ofSetting, hparse]

end Filter

end LinkGate.Log
