import DebugBridge.Url.Host

/-!
# Parts between separators

A text is split at every separator.  The parts hold none, and texts without separators are the parts
of what they are joined to.  The parts are read each on its own.
-/

namespace DebugBridge.Url

/-- What is kept in front of something that is not. -/
theorem takeWhile_front {α : Type} {keeps : α → Bool} {front rest : List α}
    (hfront : ∀ item ∈ front, keeps item = true) (hrest : ∀ item ∈ rest.head?, keeps item = false) :
    (front ++ rest).takeWhile keeps = front := by
  rw [List.takeWhile_append_of_pos hfront]
  cases rest with
  | nil => rw [List.takeWhile_nil, List.append_nil]
  | cons item rest =>
      rw [List.takeWhile_cons_of_neg (Bool.eq_false_iff.mp (hrest item rfl)), List.append_nil]

section Splitting

variable {isSeparator : Char → Bool}

theorem splitAt_eq_splitOnP (isSeparator : Char → Bool) (text : List Char) :
    splitAt isSeparator text = text.splitOnP isSeparator := by
  induction text with
  | nil => rfl
  | cons c rest ih =>
      rw [splitAt, List.splitOnP_cons_eq_if_modifyHead, ih]
      split
      · rfl
      · split
        · next hparts => rw [hparts, List.modifyHead_cons]
        · next hnone => exact absurd hnone (List.splitOnP_ne_nil _ _)

theorem splitAt_ne_nil (text : List Char) : splitAt isSeparator text ≠ [] := by
  rw [splitAt_eq_splitOnP]
  exact List.splitOnP_ne_nil _ _

theorem splitAt_of_free {part : List Char} (hpart : ∀ c ∈ part, isSeparator c = false) :
    splitAt isSeparator part = [part] := by
  rw [splitAt_eq_splitOnP, List.splitOnP_eq_singleton hpart]

theorem splitAt_append {part : List Char} (hpart : ∀ c ∈ part, isSeparator c = false)
    {separator : Char} (hseparator : isSeparator separator = true) (rest : List Char) :
    splitAt isSeparator (part ++ separator :: rest) = part :: splitAt isSeparator rest := by
  rw [splitAt_eq_splitOnP, splitAt_eq_splitOnP, List.splitOnP_append_cons _ _ hseparator,
    List.splitOnP_eq_singleton hpart]
  rfl

/-- A part holds characters of the text, and no separator. -/
theorem mem_of_mem_splitAt {text part : List Char} (hpart : part ∈ splitAt isSeparator text) :
    ∀ c ∈ part, c ∈ text ∧ isSeparator c = false := by
  induction text generalizing part with
  | nil =>
      cases List.mem_singleton.mp hpart
      intro c hc
      cases hc
  | cons d rest ih =>
      have hmore : ∀ part ∈ splitAt isSeparator rest, ∀ c ∈ part,
          c ∈ d :: rest ∧ isSeparator c = false := fun part hpart c hc =>
        ⟨List.mem_cons_of_mem _ (ih hpart c hc).1, (ih hpart c hc).2⟩
      rw [splitAt] at hpart
      split at hpart
      · rcases List.mem_cons.mp hpart with rfl | hpart
        · intro c hc
          cases hc
        · exact hmore part hpart
      · next hplain =>
          split at hpart
          · next first others hparts =>
              rw [hparts] at hmore
              obtain ⟨hfirst, hothers⟩ := List.forall_mem_cons.mp hmore
              rcases List.mem_cons.mp hpart with rfl | hpart
              · exact List.forall_mem_cons.mpr
                  ⟨⟨List.mem_cons_self, Bool.eq_false_iff.mpr hplain⟩, hfirst⟩
              · exact hothers part hpart
          · next hnone => exact absurd hnone (splitAt_ne_nil rest)

end Splitting

section Reading

variable {α β : Type} {read : α → Option β} {items : List α}

/-- Each result is that of one item. -/
theorem of_mapM {results : List β} (hresults : items.mapM read = some results) :
    results.length = items.length ∧ ∀ result ∈ results, ∃ item, read item = some result := by
  induction items generalizing results with
  | nil =>
      cases hresults
      exact ⟨rfl, fun result hresult => by cases hresult⟩
  | cons item items ih =>
      rw [List.mapM_cons] at hresults
      obtain ⟨result, hresult, hresults⟩ := Option.bind_eq_some_iff.mp hresults
      obtain ⟨more, hmore, hresults⟩ := Option.bind_eq_some_iff.mp hresults
      cases hresults
      obtain ⟨hlength, hall⟩ := ih hmore
      exact ⟨congrArg (· + 1) hlength, List.forall_mem_cons.mpr ⟨⟨item, hresult⟩, hall⟩⟩

theorem mapM_of_read {result : α → β} (hread : ∀ item ∈ items, read item = some (result item)) :
    items.mapM read = some (items.map result) := by
  induction items with
  | nil => rfl
  | cons item items ih =>
      obtain ⟨hfirst, hmore⟩ := List.forall_mem_cons.mp hread
      rw [List.mapM_cons, hfirst, ih hmore]
      rfl

end Reading

end DebugBridge.Url
