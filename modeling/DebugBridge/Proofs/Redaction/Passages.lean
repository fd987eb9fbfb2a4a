import DebugBridge.Proofs.Redaction.Configuration

/-!
# Redaction is complete

A text about a configuration is a row of passages with quotations between them.  Redaction takes
out every quotation whole, whatever was quoted, and leaves the passages alone; then the name behind
the first mention of an unknown field goes.
-/

namespace DebugBridge.Redaction

open Text

/-! ## Quotations from left to right -/

/-- A quotation stands at the start of the text. -/
def OpensQuotation (text : List Char) : Prop :=
  ∃ body tail, Enclosed body ∧ text = '"' :: (body ++ '"' :: tail)

/-- Quotations are replaced from left to right: the search goes on behind each of them. -/
inductive Replaced : List Char → List Char → Prop
  | nil : Replaced [] []
  | keep {c : Char} {text redacted : List Char} (hc : ¬OpensQuotation (c :: text))
      (hrest : Replaced text redacted) : Replaced (c :: text) (c :: redacted)
  | quotation {body text redacted : List Char} (hbody : Enclosed body)
      (hrest : Replaced text redacted) :
      Replaced ('"' :: (body ++ '"' :: text)) ('"' :: mark ++ '"' :: redacted)

theorem redactQuotations_of_not_opens {c : Char} {text : List Char}
    (hc : ¬OpensQuotation (c :: text)) :
    redactQuotations 0 (c :: text) = c :: redactQuotations 0 text := by
  rw [redactQuotations]
  split
  · next hquote =>
      split
      · next length hlength =>
          obtain ⟨body, tail, rfl, -, hbody⟩ := enclosed_of_quotationLength? hlength
          exact absurd ⟨body, tail, hbody, by rw [hquote]⟩ hc
      · rfl
  · rfl

/-- The scan replaces exactly the quotations that are found from left to right. -/
theorem replaced_iff {text redacted : List Char} :
    Replaced text redacted ↔ redactQuotations 0 text = redacted := by
  constructor
  · intro hreplaced
    induction hreplaced with
    | nil => rfl
    | keep hc _ ih => rw [redactQuotations_of_not_opens hc, ih]
    | quotation hbody _ ih => rw [redactQuotations_enclosed hbody, ih]
  · rintro rfl
    induction hsize : text.length using Nat.strongRecOn generalizing text with
    | ind size ih =>
        subst hsize
        by_cases hopens : OpensQuotation text
        · obtain ⟨body, tail, hbody, rfl⟩ := hopens
          rw [redactQuotations_enclosed hbody]
          refine .quotation hbody (ih tail.length ?_ rfl)
          simp only [List.length_cons, List.length_append]
          omega
        · cases text with
          | nil => exact .nil
          | cons c text =>
              rw [redactQuotations_of_not_opens hopens]
              exact .keep hopens (ih text.length (Nat.lt_succ_self _) rfl)

/-! ## Passages -/

/-- An opening passage, and quotations with the passage behind each; `shown` is how a quotation
shows. -/
def woven (shown : String → String) (opening : String) : List (String × String) → String
  | [] => opening
  | (quotation, behind) :: more => opening ++ shown quotation ++ woven shown behind more

theorem Replaced.passage {passage text redacted : List Char} (hpassage : '"' ∉ passage)
    (hrest : Replaced text redacted) : Replaced (passage ++ text) (passage ++ redacted) := by
  induction passage with
  | nil => exact hrest
  | cons c passage ih =>
      obtain ⟨hquote, hmore⟩ := List.ne_and_not_mem_of_not_mem_cons hpassage
      refine .keep ?_ (ih hmore)
      rintro ⟨body, tail, -, hopens⟩
      exact hquote (List.cons_eq_cons.mp hopens).1.symm

/-- Every quotation is replaced, and nothing else. -/
theorem replaced_woven {opening : String} {quotations : List (String × String)}
    (hopening : '"' ∉ opening.toList)
    (hbehind : ∀ quotation ∈ quotations, '"' ∉ quotation.2.toList) :
    Replaced (woven Text.quoted opening quotations).toList
      (woven (fun _ => marked) opening quotations).toList := by
  induction quotations generalizing opening with
  | nil =>
      have hpassage := Replaced.passage hopening .nil
      rwa [List.append_nil] at hpassage
  | cons quotation quotations ih =>
      obtain ⟨inner, behind⟩ := quotation
      obtain ⟨hfirst, hmore⟩ := List.forall_mem_cons.mp hbehind
      have hquotation := Replaced.quotation (enclosed_quoted inner.toList) (ih hfirst hmore)
      have hpassage := Replaced.passage hopening hquotation
      simpa only [woven, Text.quoted, quotedChars, marked, String.toList_append,
        String.toList_ofList, List.cons_append, List.append_assoc, List.nil_append] using hpassage

/-! ## The first mention of an unknown field -/

/-- The text mentions an unknown field for the first time behind `before`; a backquote ends its
name. -/
structure Mention (text before name behind : List Char) : Prop where
  split : text = before ++ unknownField ++ name ++ '\x60' :: behind
  first : ∀ earlier later, text = earlier ++ unknownField ++ later →
    before.length ≤ earlier.length
  whole : '\x60' ∉ name

/-- A pattern that occurs is found, and not behind that place. -/
theorem splitAtFirst_append {pattern : List Char} (hpattern : pattern ≠ [])
    (earlier later : List Char) :
    ∃ before after, splitAtFirst pattern (earlier ++ pattern ++ later) = some (before, after) ∧
      before.length ≤ earlier.length := by
  induction earlier with
  | nil => exact ⟨[], later, splitAtFirst_front hpattern later, Nat.le_refl _⟩
  | cons c earlier ih =>
      obtain ⟨before, after, hsplit, hle⟩ := ih
      rw [List.cons_append, List.cons_append, splitAtFirst]
      split
      · exact ⟨[], _, rfl, Nat.zero_le _⟩
      · rw [hsplit]
        exact ⟨c :: before, after, rfl, Nat.succ_le_succ hle⟩

/-- What is found is the first occurrence. -/
theorem length_le_of_splitAtFirst {pattern text before after : List Char} (hpattern : pattern ≠ [])
    (hsplit : splitAtFirst pattern text = some (before, after)) (earlier later : List Char)
    (htext : text = earlier ++ pattern ++ later) : before.length ≤ earlier.length := by
  obtain ⟨found, rest, hfound, hle⟩ := splitAtFirst_append hpattern earlier later
  rw [htext, hfound] at hsplit
  cases hsplit
  exact hle

theorem splitAtFirst_of_first {pattern before after : List Char} (hpattern : pattern ≠ [])
    (hfirst : ∀ earlier later, before ++ pattern ++ after = earlier ++ pattern ++ later →
      before.length ≤ earlier.length) :
    splitAtFirst pattern (before ++ pattern ++ after) = some (before, after) := by
  obtain ⟨found, rest, hsplit, hle⟩ := splitAtFirst_append hpattern before after
  have htext := eq_of_splitAtFirst hsplit
  have hlength : before.length = found.length := Nat.le_antisymm (hfirst found rest htext) hle
  rw [List.append_assoc, List.append_assoc] at htext
  obtain ⟨hbefore, hbehind⟩ := List.append_inj htext hlength
  rw [hsplit, hbefore, List.append_cancel_left hbehind]

theorem redactToBackquote_of_not_mem {text : List Char} (hnone : '\x60' ∉ text) :
    redactToBackquote text = text := by
  rw [redactToBackquote, dropWhile_of_not_mem hnone]

/-- The name of the field that is mentioned first is replaced. -/
theorem redactUnknownField_of_mention {text before name behind : List Char}
    (hmention : Mention text before name behind) :
    redactUnknownField text = before ++ unknownField ++ (mark ++ '\x60' :: behind) := by
  obtain ⟨rfl, hfirst, hwhole⟩ := hmention
  have hsplit : splitAtFirst unknownField (before ++ unknownField ++ name ++ '\x60' :: behind) =
      some (before, name ++ '\x60' :: behind) := by
    rw [List.append_assoc] at hfirst ⊢
    exact splitAtFirst_of_first (by decide) hfirst
  rw [redactUnknownField, hsplit]
  dsimp only
  rw [redactToBackquote_eq, dropWhile_of_not_mem hwhole, List.nil_append]

/-- A text that mentions no unknown field, or no end of its name, is left alone. -/
theorem redactUnknownField_of_unmentioned {text : List Char}
    (hnone : ¬∃ before name behind, Mention text before name behind) :
    redactUnknownField text = text := by
  rw [redactUnknownField]
  split
  · next before after hsplit =>
      have htext := eq_of_splitAtFirst hsplit
      have hfirst := length_le_of_splitAtFirst (by decide) hsplit
      have hopen : '\x60' ∉ after := by
        intro hmem
        obtain ⟨name, behind, hafter, hwhole⟩ := List.eq_append_cons_of_mem hmem
        refine hnone ⟨before, name, behind, ?_, hfirst, hwhole⟩
        rw [htext, hafter, List.append_assoc _ name]
      rw [redactToBackquote_of_not_mem hopen, ← htext]
  · rfl

/-- Redaction of a text with quotations: first a mark stands for every one of them, and the passages
are as they were; then a mark stands for the name behind the first mention of an unknown field, if
there is one and a backquote ends the name, and all else is as it was. -/
theorem configuration_of_passages {opening : String} {quotations : List (String × String)}
    (hopening : '"' ∉ opening.toList)
    (hbehind : ∀ quotation ∈ quotations, '"' ∉ quotation.2.toList) :
    let text := woven Text.quoted opening quotations
    let redacted := woven (fun _ => "\"<redacted>\"") opening quotations
    String.ofList (redactQuotations 0 text.toList) = redacted ∧
      (∀ before name behind, Mention redacted.toList before name behind →
        configuration text =
          String.ofList before ++ "unknown field \x60<redacted>\x60" ++ String.ofList behind) ∧
      ((¬∃ before name behind, Mention redacted.toList before name behind) →
        configuration text = redacted) := by
  intro text redacted
  have hredacted : redactQuotations 0 text.toList = redacted.toList :=
    replaced_iff.mp (replaced_woven hopening hbehind)
  have hconfiguration : configuration text =
      String.ofList (redactUnknownField redacted.toList) := by
    rw [configuration, configurationChars, hredacted]
  refine ⟨?_, ?_, ?_⟩
  · rw [hredacted, String.ofList_toList]
  · intro before name behind hmention
    rw [hconfiguration, redactUnknownField_of_mention hmention, ← String.toList_inj]
    have hmark : "unknown field \x60<redacted>\x60".toList =
        unknownField ++ (mark ++ ['\x60']) := by
      decide
    simp [hmark]
  · intro hnone
    rw [hconfiguration, redactUnknownField_of_unmentioned hnone, String.ofList_toList]

/-- Neither a quote in what is quoted nor a backslash at its end leads the scan astray. -/
theorem configuration_of_passages_escaped :
    let opening := "bad "
    let quotations := [("a\"\\", ", unknown field \x60"), ("\n", "key\x60 of \x60b\x60")]
    '"' ∉ opening.toList ∧ (∀ quotation ∈ quotations, '"' ∉ quotation.2.toList) ∧
      woven Text.quoted opening quotations =
        "bad \"a\\\"\\\\\", unknown field \x60\"\\n\"key\x60 of \x60b\x60" ∧
      configuration (woven Text.quoted opening quotations) =
        "bad \"<redacted>\", unknown field \x60<redacted>\x60 of \x60b\x60" := by
  intro opening quotations
  have hopening : '"' ∉ opening.toList := by decide
  have hbehind : ∀ quotation ∈ quotations, '"' ∉ quotation.2.toList := by decide
  let redacted := woven (fun _ => "\"<redacted>\"") opening quotations
  have hsplit : splitAtFirst unknownField redacted.toList =
      some ("bad \"<redacted>\", ".toList, "\"<redacted>\"key\x60 of \x60b\x60".toList) := by
    decide +kernel
  have hmention : Mention redacted.toList "bad \"<redacted>\", ".toList "\"<redacted>\"key".toList
      " of \x60b\x60".toList :=
    ⟨by decide, length_le_of_splitAtFirst (by decide) hsplit, by decide⟩
  obtain ⟨-, hmentioned, -⟩ := configuration_of_passages hopening hbehind
  refine ⟨hopening, hbehind, by decide +kernel, ?_⟩
  rw [hmentioned _ _ _ hmention]
  decide

end DebugBridge.Redaction
