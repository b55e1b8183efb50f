/-
Comma separated text.  Texts joined with commas are split into the items of each.
So the items of a set are split off again as long as each of them is trimmed, free
of commas and not empty.
-/
import AuditFields.Text.Blank
import AuditFields.Value.TextSet

namespace AuditFields

namespace Text

theorem trimStart_eq_self_iff (cs : List Char) :
    trimStart cs = cs ↔ ∀ c ∈ cs.head?, isBlank c = false := by
  cases cs with
  | nil => simp [trimStart]
  | cons c rest =>
      cases hc : isBlank c with
      | false => simp [trimStart, hc]
      | true =>
          have hshort : (trimStart (c :: rest)).length ≠ (c :: rest).length := by
            have hle := (List.dropWhile_sublist (l := rest) isBlank).length_le
            simp only [trimStart, List.dropWhile_cons_of_pos hc, List.length_cons]
            omega
          have hne : trimStart (c :: rest) ≠ c :: rest := fun heq =>
            hshort (congrArg List.length heq)
          simp [hne, hc]

theorem trimStart_trimStart (cs : List Char) : trimStart (trimStart cs) = trimStart cs := by
  rw [trimStart_eq_self_iff]
  induction cs with
  | nil => simp [trimStart]
  | cons c rest ih =>
      cases hc : isBlank c with
      | false => simp [trimStart, hc]
      | true => simpa [trimStart, hc] using ih

/-- What is trimmed stays as it is when it is trimmed again. -/
theorem trim_trim (cs : List Char) : trim (trim cs) = trim cs := by
  have hback : trimStart (trim cs).reverse = (trim cs).reverse := by
    rw [trim, List.reverse_reverse, trimStart_trimStart]
  have hfront : trimStart (trim cs) = trim cs := by
    have hstart := (trimStart_eq_self_iff (trimStart cs)).1 (trimStart_trimStart cs)
    obtain ⟨dropped, hdropped⟩ :=
      List.dropWhile_suffix (l := (trimStart cs).reverse) isBlank
    have hsplit : trimStart cs = trim cs ++ dropped.reverse := by
      have hreverse := congrArg List.reverse hdropped
      rw [List.reverse_append, List.reverse_reverse] at hreverse
      exact hreverse.symm
    rw [trimStart_eq_self_iff]
    intro c hc
    apply hstart c
    rw [hsplit, List.head?_append, Option.mem_def.1 hc]
    rfl
  rw [trim, hfront, hback, List.reverse_reverse]

theorem trimmed_trimmed (s : String) : trimmed (trimmed s) = trimmed s := by
  rw [trimmed, trimmed, String.toList_ofList, trim_trim]

theorem trim_cons_blank {c : Char} (hc : isBlank c = true) (cs : List Char) :
    trim (c :: cs) = trim cs := by
  simp [trim, trimStart, hc]

theorem mem_of_mem_trim {c : Char} {cs : List Char} (hc : c ∈ trim cs) : c ∈ cs := by
  have hback := (List.dropWhile_subset isBlank) (List.mem_reverse.1 hc)
  exact (List.dropWhile_subset isBlank) (List.mem_reverse.1 hback)

theorem splitCommas_ne_nil (cs : List Char) : splitCommas cs ≠ [] := by
  cases cs with
  | nil => exact List.cons_ne_nil _ _
  | cons c rest =>
      rw [splitCommas]
      split
      · exact List.cons_ne_nil _ _
      · split <;> exact List.cons_ne_nil _ _

/-- A comma separates what is before it from what is after it. -/
theorem splitCommas_append (cs rest : List Char) :
    splitCommas (cs ++ ',' :: rest) = splitCommas cs ++ splitCommas rest := by
  induction cs with
  | nil => simp [splitCommas]
  | cons c cs ih =>
      by_cases hc : c = ','
      · simp [splitCommas, hc, ih]
      · rw [List.cons_append, splitCommas, splitCommas, if_neg hc, if_neg hc, ih]
        cases hsplit : splitCommas cs with
        | nil => exact absurd hsplit (splitCommas_ne_nil cs)
        | cons piece pieces => rfl

theorem splitCommas_of_not_mem {piece : List Char} (hpiece : ',' ∉ piece) :
    splitCommas piece = [piece] := by
  induction piece with
  | nil => rfl
  | cons c piece ih =>
      have hc : c ≠ ',' := fun heq => hpiece (by simp [heq])
      have htail := ih fun hmem => hpiece (List.mem_cons_of_mem c hmem)
      simp [splitCommas, hc, htail]

theorem not_mem_of_mem_splitCommas {cs piece : List Char} (hpiece : piece ∈ splitCommas cs) :
    ',' ∉ piece := by
  induction cs generalizing piece with
  | nil =>
      simp only [splitCommas, List.mem_singleton] at hpiece
      simp [hpiece]
  | cons c rest ih =>
      by_cases hc : c = ','
      · simp only [splitCommas, hc, if_true, List.mem_cons] at hpiece
        rcases hpiece with rfl | hpiece
        · simp
        · exact ih hpiece
      · rw [splitCommas, if_neg hc] at hpiece
        split at hpiece
        · simp only [List.mem_singleton] at hpiece
          simp [hpiece, Ne.symm hc]
        · rename_i first pieces hsplit
          rw [hsplit] at ih
          rcases List.mem_cons.1 hpiece with rfl | hpiece
          · simpa [Ne.symm hc] using ih List.mem_cons_self
          · exact ih (List.mem_cons_of_mem first hpiece)

/-- An item that a set can hold and its text gives back. -/
structure IsSetItem (item : String) : Prop where
  ne_empty : item ≠ ""
  trimmed_eq : trimmed item = item
  no_comma : ',' ∉ item.toList

theorem isSetItem_trimmed {item : String} (hcomma : ',' ∉ item.toList)
    (hne : trimmed item ≠ "") : IsSetItem (trimmed item) where
  ne_empty := hne
  trimmed_eq := trimmed_trimmed item
  no_comma := by
    rw [trimmed, String.toList_ofList]
    exact fun hmem => hcomma (mem_of_mem_trim hmem)

theorem isSetItem_of_mem_commaItems {s item : String} (hitem : item ∈ commaItems s) :
    IsSetItem item := by
  simp only [commaItems, List.mem_filter, List.mem_map, decide_eq_true_eq] at hitem
  obtain ⟨⟨piece, hpiece, rfl⟩, hne⟩ := hitem
  have hcomma : ',' ∉ (String.ofList piece).toList := by
    rw [String.toList_ofList]
    exact not_mem_of_mem_splitCommas hpiece
  have hitem := @isSetItem_trimmed (String.ofList piece) hcomma
  rw [trimmed, String.toList_ofList] at hitem
  exact hitem hne

theorem commaItems_of_isSetItem {item : String} (hitem : IsSetItem item) :
    commaItems item = [item] := by
  have htrim : String.ofList (trim item.toList) = item := hitem.trimmed_eq
  simp [commaItems, splitCommas_of_not_mem hitem.no_comma, htrim, hitem.ne_empty]

/-- A space before the first piece does not belong to its item. -/
theorem map_trim_splitCommas_blank (cs : List Char) :
    (splitCommas (' ' :: cs)).map (fun piece => String.ofList (trim piece)) =
      (splitCommas cs).map (fun piece => String.ofList (trim piece)) := by
  cases hsplit : splitCommas cs with
  | nil => exact absurd hsplit (splitCommas_ne_nil cs)
  | cons piece pieces =>
      have hfirst : splitCommas (' ' :: cs) = (' ' :: piece) :: pieces := by
        rw [splitCommas, if_neg (by decide), hsplit]
      rw [hfirst, List.map_cons, List.map_cons, trim_cons_blank (by decide)]

theorem commaItems_append (s t : String) :
    commaItems (s ++ ", " ++ t) = commaItems s ++ commaItems t := by
  have hchars : (s ++ ", " ++ t).toList = s.toList ++ ',' :: ' ' :: t.toList := by
    simp [String.toList_append]
  rw [commaItems, hchars, splitCommas_append, List.map_append, map_trim_splitCommas_blank,
    List.filter_append]
  rfl

/-- The items of joined texts are those of one text after another. -/
theorem commaItems_intercalate (texts : List String) :
    commaItems (", ".intercalate texts) = texts.flatMap commaItems := by
  induction texts with
  | nil => rfl
  | cons first rest ih =>
      cases rest with
      | nil => simp
      | cons second rest =>
          rw [String.intercalate_cons_cons, commaItems_append, ih]
          rfl

/-- Items that fit a set are split off again. -/
theorem commaItems_intercalate_of_isSetItem {items : List String}
    (hitems : ∀ item ∈ items, IsSetItem item) : commaItems (", ".intercalate items) = items := by
  rw [commaItems_intercalate]
  induction items with
  | nil => rfl
  | cons first rest ih =>
      rw [List.forall_mem_cons] at hitems
      rw [List.flatMap_cons, commaItems_of_isSetItem hitems.1, ih hitems.2]
      rfl

end Text

end AuditFields
