import LinkGate.Proofs.Url.Verdict
import LinkGate.Url.Sanitized

/-!
# The scheme that a browser reads

A browser does not read a link as it stands. It first removes controls and spaces from both ends
and then every tab and line break from the middle (`Browser.preprocess`), and only then looks for
a scheme (`Browser.readScheme?`). The verdict is reached on the text as it stands, so a character
that is removed later might uncover a scheme that the verdict has not seen. It does not:

* no removed character is a delimiter, so the first delimiter stays the first, and the scheme after
  the removal is the scheme before it without the removed characters (`scheme?_preprocess`);
* no allowed scheme and no allowed data URL has a character that is removed, so a scheme that was
  accepted is still there, letter for letter.

`readScheme?_sanitize` puts the two together for every text.
-/

namespace LinkGate

namespace Browser

variable {s k : List Char}

/-! ## Reading a link -/

/-- Whether `c` is removed from the ends of a link: a control of ASCII or the space. -/
def isEdge (c : Char) : Bool := c.toNat ≤ 0x20

/-- Whether `c` is removed wherever it stands in a link. -/
def isBreak (c : Char) : Bool := c == '\t' || c == '\n' || c == '\r'

def preprocess (s : List Char) : List Char :=
  ((s.dropWhile isEdge).rdropWhile isEdge).filter (!isBreak ·)

def isSchemeChar (c : Char) : Bool := c.isAlphanum || c == '+' || c == '-' || c == '.'

/-- The scheme that a browser reads at the start of a preprocessed link: a letter and any number of
scheme characters before a colon. -/
def readScheme? : List Char → Option (List Char)
  | [] => none
  | c :: r =>
    if c.isAlpha then
      match r.dropWhile isSchemeChar with
      | ':' :: _ => some (c :: r.takeWhile isSchemeChar)
      | _ => none
    else none

/-- The reader finds a scheme exactly where the text starts with one. -/
theorem readScheme?_eq_some_iff :
    readScheme? s = some k ↔ ∃ c t r, k = c :: t ∧ c.isAlpha = true ∧
      (∀ d ∈ t, isSchemeChar d = true) ∧ s = k ++ ':' :: r := by
  refine ⟨fun h => ?_, fun h => ?_⟩
  · cases s with
    | nil => cases h
    | cons c rest =>
      rw [readScheme?] at h
      split at h
      · next hc =>
        split at h
        · next r hr =>
          cases h
          refine ⟨c, _, r, rfl, hc, fun d => List.mem_takeWhile_imp, ?_⟩
          rw [List.cons_append, ← hr, List.takeWhile_append_dropWhile]
        · cases h
      · cases h
  · obtain ⟨c, t, r, hk, hc, ht, hs⟩ := h
    have hr : Text.EndsRun isSchemeChar (':' :: r) := Text.endsRun_cons.mpr (by decide)
    rw [hs, hk, List.cons_append, readScheme?, if_pos hc,
      Text.dropWhile_append_of_endsRun ht hr, Text.takeWhile_append_of_endsRun ht hr]
    rfl

/-! ## What preprocessing leaves in place -/

theorem isEdge_of_isBreak {c : Char} (h : isBreak c = true) : isEdge c = true := by
  simp only [isBreak, Bool.or_eq_true, beq_iff_eq] at h
  rcases h with (rfl | rfl) | rfl
  · decide
  · decide
  · decide

theorem isEdge_of_isDelimiter {c : Char} (h : Url.isDelimiter c = true) : isEdge c = false := by
  rcases Url.isDelimiter_iff.mp h with rfl | rfl | rfl | rfl
  · decide
  · decide
  · decide
  · decide

theorem isEdge_toLower (c : Char) : isEdge c.toLower = isEdge c := by
  unfold isEdge
  rw [Text.toNat_toLower]
  split
  · rw [decide_eq_decide]
    omega
  · rfl

/-- What a browser removes from the front and from the middle of a text. From a scheme it removes
nothing else, because the colon behind it keeps its end. -/
def clean (s : List Char) : List Char :=
  (s.dropWhile isEdge).filter (!isBreak ·)

theorem mem_of_mem_clean {c : Char} (h : c ∈ clean s) : c ∈ s :=
  (List.dropWhile_sublist isEdge).subset (List.mem_of_mem_filter h)

/-- Nothing is removed from a text without blanks and controls. -/
theorem clean_eq_self (hs : ∀ c ∈ s, isEdge c = false) : clean s = s := by
  have hfront : s.dropWhile isEdge = s :=
    List.dropWhile_eq_self_iff.mpr fun hl => by simp [hs _ (List.getElem_mem hl)]
  rw [clean, hfront, List.filter_eq_self]
  intro c hc
  have hbreak : isBreak c ≠ true := by
    intro h
    have hedge := isEdge_of_isBreak h
    rw [hs c hc] at hedge
    cases hedge
  simpa using hbreak

theorem mem_of_mem_preprocess {c : Char} (h : c ∈ preprocess s) : c ∈ s := by
  have hback := List.mem_of_mem_filter h
  have hfront := (List.rdropWhile_prefix isEdge _).sublist.subset hback
  exact (List.dropWhile_sublist isEdge).subset hfront

/-- Nor does the browser remove anything from it. -/
theorem preprocess_eq_self (hs : ∀ c ∈ s, isEdge c = false) : preprocess s = s := by
  have hfront : s.dropWhile isEdge = s :=
    List.dropWhile_eq_self_iff.mpr fun hl => by simp [hs _ (List.getElem_mem hl)]
  have hback : s.rdropWhile isEdge = s :=
    List.rdropWhile_eq_self_iff.mpr fun hl => by simp [hs _ (List.getLast_mem hl)]
  have hclean := clean_eq_self hs
  rw [clean, hfront] at hclean
  rw [preprocess, hfront, hback, hclean]

/-- A character that stays keeps what stands before it from the cutting at the end. -/
theorem preprocess_append_cons {c : Char} {r : List Char} (hc : isEdge c = false) :
    ∃ r', preprocess (k ++ c :: r) = clean k ++ c :: r' := by
  have hbreak : isBreak c = false := by
    by_contra h
    rw [isEdge_of_isBreak (by simpa using h)] at hc
    cases hc
  refine ⟨(r.rdropWhile isEdge).filter (!isBreak ·), ?_⟩
  rw [preprocess, Text.dropWhile_append_cons hc, Text.rdropWhile_append_cons hc,
    List.filter_append, List.filter_cons_of_pos (by simp [hbreak])]
  rfl

/-- Preprocessing neither makes nor hides a scheme, it only takes characters out of one. -/
theorem scheme?_preprocess (s : List Char) :
    Url.scheme? (preprocess s) = (Url.scheme? s).map clean := by
  have hhead := Url.isDelimiter_head s
  have hclean : ∀ c ∈ clean (Url.head s), Url.isDelimiter c = false :=
    fun c hc => hhead c (mem_of_mem_clean hc)
  rcases Url.head_cases s with hs | ⟨c, r, hc, hs⟩
  · have hnone : ∀ c ∈ s, Url.isDelimiter c = false := by
      rw [hs]
      exact hhead
    rw [Url.scheme?_eq_none_of_forall hnone,
      Url.scheme?_eq_none_of_forall fun c hc => hnone c (mem_of_mem_preprocess hc)]
    rfl
  · obtain ⟨r', hr'⟩ := preprocess_append_cons (k := Url.head s) (r := r)
      (isEdge_of_isDelimiter hc)
    rw [← hs] at hr'
    rw [hr', Url.scheme?_append_delimiter hclean hc]
    conv => rhs; rw [hs, Url.scheme?_append_delimiter hhead hc]
    split <;> rfl

/-- A scheme that a browser reads ends at the first delimiter. -/
theorem scheme?_of_readScheme?_eq_some (h : readScheme? s = some k) : Url.scheme? s = some k := by
  obtain ⟨c, t, r, rfl, hc, ht, rfl⟩ := readScheme?_eq_some_iff.mp h
  have hname : ∀ d, isSchemeChar d = true → Url.isDelimiter d = false := by
    intro d hd
    by_contra hdel
    rcases Url.isDelimiter_iff.mp (by simpa using hdel) with rfl | rfl | rfl | rfl
    · exact absurd hd (by decide)
    · exact absurd hd (by decide)
    · exact absurd hd (by decide)
    · exact absurd hd (by decide)
  refine Url.scheme?_eq_some_iff.mpr ⟨List.forall_mem_cons.mpr ⟨hname c ?_, ?_⟩, r, rfl⟩
  · simp [isSchemeChar, Char.isAlphanum, hc]
  · exact fun d hd => hname d (ht d hd)

end Browser

namespace Url

open Browser

/-! ## Accepted links have nothing to remove where it matters -/

theorem isEdge_of_mem_allowedMediaTypes {m : List Char} (hm : m ∈ allowedMediaTypes) :
    ∀ c ∈ m, isEdge c = false := by
  have hall : allowedMediaTypes.all (·.all (!isEdge ·)) = true := by decide
  simp only [List.all_eq_true, Bool.not_eq_true'] at hall
  exact hall m hm

theorem isEdge_of_mem_allowedSchemes {k : List Char} (hk : k ∈ allowedSchemes) :
    ∀ c ∈ k, isEdge c = false := by
  have hall : allowedSchemes.all (·.all (!isEdge ·)) = true := by decide
  simp only [List.all_eq_true, Bool.not_eq_true'] at hall
  exact hall k hk

/-- The fixed parts of a data URL lose nothing. -/
theorem isEdge_of_mem_frame {c : Char} (hc : c ∈ DataUrl.opening ++ DataUrl.separator) :
    isEdge c = false := by
  have hall : (DataUrl.opening ++ DataUrl.separator).all (!isEdge ·) = true := by decide
  simp only [List.all_eq_true, Bool.not_eq_true'] at hall
  exact hall c hc

theorem isEdge_of_isDigit {c : Char} (h : DataUrl.isDigit c = true) : isEdge c = false := by
  have hnum : 0x20 < c.toNat := by
    simp only [DataUrl.isDigit, Bool.or_eq_true, beq_iff_eq, Text.isLower_iff,
      Text.isDigit_iff] at h
    rcases h with ((hlower | hdigit) | rfl) | rfl
    · omega
    · omega
    · decide
    · decide
  simpa [isEdge] using hnum

/-- A data URL of an allowed type has no character that a browser removes. -/
theorem isEdge_of_mem_render {d : DataUrl} (hd : d.WellFormed)
    (htype : d.mediaType ∈ allowedMediaTypes) : ∀ c ∈ d.render, isEdge c = false := by
  obtain ⟨-, -, hpayload, hpadding⟩ := hd
  intro c hc
  simp only [DataUrl.render, List.mem_append] at hc
  rcases hc with (((hc | hc) | hc) | hc) | hc
  · exact isEdge_of_mem_frame (List.mem_append_left _ hc)
  · exact isEdge_of_mem_allowedMediaTypes htype c hc
  · exact isEdge_of_mem_frame (List.mem_append_right _ hc)
  · exact isEdge_of_isDigit (hpayload c hc)
  · have hequals : c = '=' := by simpa [DataUrl.isPadding] using hpadding c hc
    rw [hequals]
    decide

theorem isEdge_of_forall_lower {s : List Char} (h : ∀ c ∈ Text.lower s, isEdge c = false) :
    ∀ c ∈ s, isEdge c = false := by
  intro c hc
  rw [← isEdge_toLower]
  exact h _ (List.mem_map_of_mem hc)

/-! ## The scheme of a sanitized URL -/

/-- A browser reads an allowed scheme in a safe URL, or takes it for the data URL that it is. -/
theorem readScheme?_of_isSafe {url : String} {k : List Char} (hsafe : isSafe url = true)
    (hread : readScheme? (preprocess url.toList) = some k) :
    Text.lower k ∈ allowedSchemes ∨
      (Text.lower k = dataScheme ∧ preprocess url.toList = url.toList ∧
        ∃ d : DataUrl, d.WellFormed ∧ d.mediaType ∈ allowedMediaTypes ∧
          Text.lower url.toList = d.render) := by
  have hclean : (scheme? url.toList).map clean = some k := by
    rw [← scheme?_preprocess]
    exact scheme?_of_readScheme?_eq_some hread
  obtain ⟨before, hbefore, rfl⟩ := Option.map_eq_some_iff.mp hclean
  have hlower : scheme? (Text.lower url.toList) = some (Text.lower before) := by
    rw [scheme?_lower, hbefore, Option.map_some]
  rcases judge_eq_safe_iff.mp (isSafe_iff.mp hsafe) with hall | ⟨d, hd, htype, hs⟩
  · -- an allowed scheme has nothing to remove, so what was judged is what is read
    have hallowed := hall _ hlower
    rw [clean_eq_self (isEdge_of_forall_lower (isEdge_of_mem_allowedSchemes hallowed))]
    exact .inl hallowed
  · -- a data URL has nothing to remove from one end to the other
    have hnone : ∀ c ∈ url.toList, isEdge c = false :=
      isEdge_of_forall_lower (hs ▸ isEdge_of_mem_render hd htype)
    have hdata : Text.lower before = dataScheme := by
      rw [hs, scheme?_render] at hlower
      exact (Option.some.inj hlower).symm
    have hin : ∀ c ∈ before, c ∈ url.toList := by
      obtain ⟨-, r, hr⟩ := scheme?_eq_some_iff.mp hbefore
      intro c hc
      rw [hr]
      exact List.mem_append_left _ hc
    rw [clean_eq_self fun c hc => hnone c (hin c hc)]
    exact .inr ⟨hdata, preprocess_eq_self hnone, d, hd, htype, hs⟩

/-- **No sanitized URL reads as another scheme.** Whatever scheme a browser reads in a sanitized
URL after removing controls, spaces, tabs and line breaks is an allowed one, or it is `data` and
nothing was removed from a data URL of an allowed type, or the URL is the placeholder. -/
theorem readScheme?_sanitize (url : String) (k : List Char)
    (hread : readScheme? (preprocess (sanitize url).value.toList) = some k) :
    Text.lower k ∈ allowedSchemes ∨
      (Text.lower k = dataScheme ∧
        preprocess (sanitize url).value.toList = (sanitize url).value.toList ∧
        ∃ d : DataUrl, d.WellFormed ∧ d.mediaType ∈ allowedMediaTypes ∧
          Text.lower (preprocess (sanitize url).value.toList) = d.render) ∨
      (sanitize url).value = placeholder := by
  rcases (sanitize url).safe_or_placeholder with hsafe | hplaceholder
  · rcases readScheme?_of_isSafe hsafe hread with hallowed | ⟨hdata, hself, hparts⟩
    · exact .inl hallowed
    · refine .inr (.inl ⟨hdata, hself, ?_⟩)
      rw [hself]
      exact hparts
  · exact .inr (.inr hplaceholder)

/-- The line break, the tab and the space at the end are removed, the scheme is read as it was. -/
theorem readScheme?_sanitize_https :
    readScheme? (preprocess (sanitize "https://a\n.b\t/c ").value.toList) = some "https".toList ∧
      (Text.lower "https".toList ∈ allowedSchemes ∨
        (Text.lower "https".toList = dataScheme ∧
          preprocess (sanitize "https://a\n.b\t/c ").value.toList
            = (sanitize "https://a\n.b\t/c ").value.toList ∧
          ∃ d : DataUrl, d.WellFormed ∧ d.mediaType ∈ allowedMediaTypes ∧
            Text.lower (preprocess (sanitize "https://a\n.b\t/c ").value.toList) = d.render) ∨
        (sanitize "https://a\n.b\t/c ").value = placeholder) := by
  have hread : readScheme? (preprocess (sanitize "https://a\n.b\t/c ").value.toList)
      = some "https".toList := by decide
  exact ⟨hread, readScheme?_sanitize _ _ hread⟩

end Url

end LinkGate
