import LinkGate.Proofs.Text.Run
import LinkGate.Url.DataUrl

/-!
# Reading a base64 data URL back from its text

`DataUrl.parse?` cuts a text three times: after the opening, at the end of the media type and at
the end of the payload. The statement that a verdict needs is `parse?_eq_some_iff`: it reads
exactly the texts that `render` writes for well-formed parts, and it reads those very parts. So
there are no parts to choose between (`render_injective`), whatever order a reader tries them in.
-/

namespace LinkGate.Url.DataUrl

open Text

variable {d : DataUrl} {s : List Char}

/-! ## Well-formed parts end their runs

Each class ends where the next part begins: the separator starts with a semicolon, which no media
type has, and the padding is made of equals signs, which are no digits. -/

/-- The separator ends the media type. -/
theorem endsRun_separator (t : List Char) : EndsRun isTypeChar (separator ++ t) := by
  rw [show separator ++ t = ';' :: ("base64,".toList ++ t) from rfl, endsRun_cons]
  decide

/-- The padding ends the payload. -/
theorem endsRun_padding {t : List Char} (ht : ∀ c ∈ t, isPadding c = true) :
    EndsRun isDigit t := by
  cases t with
  | nil => exact endsRun_nil
  | cons c r =>
    have hc : c = '=' := by simpa [isPadding] using ht c List.mem_cons_self
    rw [endsRun_cons, hc]
    decide

/-! ## The content after the separator -/

/-- A payload and its padding are told apart. -/
theorem ofContent?_append {m payload padding : List Char} (hne : payload ≠ [])
    (hpayload : ∀ c ∈ payload, isDigit c = true) (hpadding : ∀ c ∈ padding, isPadding c = true) :
    ofContent? m (payload ++ padding) = some ⟨m, payload, padding⟩ := by
  have hend := endsRun_padding hpadding
  have hall : padding.all isPadding = true := List.all_eq_true.mpr hpadding
  rw [ofContent?, takeWhile_append_of_endsRun hpayload hend,
    dropWhile_append_of_endsRun hpayload hend]
  rw [if_neg (by simp [hne, hall])]

/-- Content that is read is a payload, which is not empty, and its padding. -/
theorem of_ofContent?_eq_some {m content : List Char} (h : ofContent? m content = some d) :
    d.mediaType = m ∧ content = d.payload ++ d.padding ∧ d.payload ≠ [] ∧
      (∀ c ∈ d.payload, isDigit c = true) ∧ ∀ c ∈ d.padding, isPadding c = true := by
  simp only [ofContent?] at h
  split at h
  · cases h
  · next hok =>
    cases h
    obtain ⟨hne, hall⟩ : content.takeWhile isDigit ≠ [] ∧
        ∀ c ∈ content.dropWhile isDigit, isPadding c = true := by simpa using hok
    exact ⟨rfl, List.takeWhile_append_dropWhile.symm, hne,
      fun _ => List.mem_takeWhile_imp, hall⟩

/-! ## The whole URL -/

theorem render_eq (d : DataUrl) :
    d.render = opening ++ (d.mediaType ++ (separator ++ (d.payload ++ d.padding))) := by
  rw [render, List.append_assoc, List.append_assoc, List.append_assoc]

/-- What is written is read back. -/
theorem parse?_render (hd : d.WellFormed) : parse? d.render = some d := by
  obtain ⟨htype, hne, hpayload, hpadding⟩ := hd
  rw [parse?, render_eq, List.isPrefixOf?_eq_some_iff_append_eq.mpr rfl]
  simp only
  rw [dropWhile_append_of_endsRun htype (endsRun_separator _),
    takeWhile_append_of_endsRun htype (endsRun_separator _),
    List.isPrefixOf?_eq_some_iff_append_eq.mpr rfl]
  exact ofContent?_append hne hpayload hpadding

/-- What is read was written. -/
theorem of_parse?_eq_some (h : parse? s = some d) : d.WellFormed ∧ s = d.render := by
  unfold parse? at h
  split at h
  · cases h
  · next rest hrest =>
    split at h
    · cases h
    · next content hcontent =>
      rw [List.isPrefixOf?_eq_some_iff_append_eq] at hrest hcontent
      obtain ⟨htype, hsplit, hne, hpayload, hpadding⟩ := of_ofContent?_eq_some h
      refine ⟨⟨?_, hne, hpayload, hpadding⟩, ?_⟩
      · rw [htype]
        exact fun _ => List.mem_takeWhile_imp
      · calc s = opening ++ rest := hrest.symm
          _ = opening ++ (d.mediaType ++ (separator ++ content)) := by
            rw [htype, hcontent, List.takeWhile_append_dropWhile]
          _ = d.render := by rw [hsplit, render_eq]

/-- Reading gives the well-formed parts that the text is made of, and fails if there are none. -/
theorem parse?_eq_some_iff : parse? s = some d ↔ d.WellFormed ∧ s = d.render :=
  ⟨of_parse?_eq_some, fun ⟨hd, hs⟩ => hs ▸ parse?_render hd⟩

/-- What is not read is no data URL. -/
theorem parse?_eq_none_iff : parse? s = none ↔ ∀ d : DataUrl, d.WellFormed → s ≠ d.render := by
  rw [Option.eq_none_iff_forall_ne_some]
  exact forall_congr' fun d => by rw [ne_eq, parse?_eq_some_iff, not_and]

/-- A text has at most one triple of parts. -/
theorem render_injective {e : DataUrl} (hd : d.WellFormed) (he : e.WellFormed)
    (h : d.render = e.render) : d = e := by
  have hread : some d = some e := by rw [← parse?_render hd, ← parse?_render he, h]
  exact Option.some.inj hread

end LinkGate.Url.DataUrl
