import DebugBridge.Decode.Mismatch
import DebugBridge.Proofs.Redaction.Quotes
import Mathlib.Data.List.Basic

/-!
# What redaction takes out of texts about configurations

Quotations are taken out whole, whatever is in them: the scan knows their escapes.  The name of an
unknown field is taken out up to its first backquote, so that a name with one in it shows.
-/

namespace DebugBridge

namespace Redaction

open Text

/-! ## Quotations -/

/-- What can stand between the quotes of a quotation: a backslash takes the next character along,
which is no line feed, and no quote stands alone. -/
inductive Enclosed : List Char → Prop
  | nil : Enclosed []
  | plain {c : Char} {rest : List Char} (hc : IsPlain c) (hrest : Enclosed rest) :
      Enclosed (c :: rest)
  | escape {c : Char} {rest : List Char} (hc : c ≠ '\n') (hrest : Enclosed rest) :
      Enclosed ('\\' :: c :: rest)

theorem Enclosed.append {body more : List Char} (hbody : Enclosed body) (hmore : Enclosed more) :
    Enclosed (body ++ more) := by
  induction hbody with
  | nil => exact hmore
  | plain hc _ ih => exact .plain hc ih
  | escape hc _ ih => exact .escape hc ih

theorem enclosed_of_plain {body : List Char} (hbody : ∀ c ∈ body, IsPlain c) : Enclosed body := by
  induction body with
  | nil => exact .nil
  | cons c body ih =>
      obtain ⟨hc, hmore⟩ := List.forall_mem_cons.mp hbody
      exact .plain hc (ih hmore)

/-- Every text can be enclosed, once it is written with escapes. -/
theorem enclosed_quoted (inner : List Char) : Enclosed (inner.flatMap quoteChar) := by
  induction inner with
  | nil => exact .nil
  | cons c inner ih =>
      refine Enclosed.append ?_ ih
      have hquoting := quoting_quoteChar c
      generalize quoteChar c = written at hquoting
      cases hquoting with
      | plain hc => exact .plain hc .nil
      | escape hd hquote hrest => exact .escape hd (enclosed_of_plain hrest)

theorem quotationLength?_enclosed {body : List Char} (hbody : Enclosed body) (tail : List Char) :
    quotationLength? false (body ++ '"' :: tail) = some (body.length + 1) := by
  induction hbody with
  | nil => rfl
  | @plain c rest hc hrest ih =>
      have hescape : (c == '\\') = false := beq_eq_false_iff_ne.mpr hc.2
      rw [List.cons_append, quotationLength?, if_neg hc.1, hescape, ih]
      rfl
  | @escape c rest hc hrest ih =>
      rw [List.cons_append, List.cons_append, quotationLength?, if_neg (by decide),
        beq_self_eq_true, quotationLength?, if_neg hc, ih]
      rfl

/-- What the scan finds is enclosed; behind a backslash, together with it. -/
theorem enclosed_of_quotationLength? {text : List Char} {escaped : Bool} {length : Nat}
    (hlength : quotationLength? escaped text = some length) :
    ∃ body tail, text = body ++ '"' :: tail ∧ length = body.length + 1 ∧
      Enclosed (if escaped then '\\' :: body else body) := by
  induction text generalizing escaped length with
  | nil => cases hlength
  | cons c text ih =>
      cases escaped with
      | true =>
          rw [quotationLength?] at hlength
          split at hlength
          · cases hlength
          · next hc =>
              obtain ⟨before, hbefore, rfl⟩ := Option.map_eq_some_iff.mp hlength
              obtain ⟨body, tail, rfl, rfl, hbody⟩ := ih hbefore
              exact ⟨c :: body, tail, rfl, rfl, .escape hc hbody⟩
      | false =>
          rw [quotationLength?] at hlength
          split at hlength
          · next hc =>
              cases hlength
              exact ⟨[], text, by rw [hc, List.nil_append], rfl, .nil⟩
          · next hc =>
              obtain ⟨before, hbefore, rfl⟩ := Option.map_eq_some_iff.mp hlength
              obtain ⟨body, tail, rfl, rfl, hbody⟩ := ih hbefore
              refine ⟨c :: body, tail, rfl, rfl, ?_⟩
              by_cases hbackslash : c = '\\'
              · subst hbackslash
                exact hbody
              · rw [if_neg (by simpa using hbackslash)] at hbody
                exact .plain ⟨hc, hbackslash⟩ hbody

theorem quotationLength?_le {text : List Char} {escaped : Bool} {length : Nat}
    (hlength : quotationLength? escaped text = some length) : length ≤ text.length := by
  obtain ⟨body, tail, rfl, rfl, -⟩ := enclosed_of_quotationLength? hlength
  rw [List.length_append, List.length_cons]
  omega

section Tails

variable {tail : List Char} (htail : '"' ∉ tail)
include htail

theorem quotationLength?_of_not_mem (escaped : Bool) : quotationLength? escaped tail = none := by
  induction tail generalizing escaped with
  | nil => cases escaped <;> rfl
  | cons c tail ih =>
      obtain ⟨hquote, hmore⟩ := List.ne_and_not_mem_of_not_mem_cons htail
      cases escaped with
      | false => rw [quotationLength?, if_neg hquote.symm, ih hmore, Option.map_none]
      | true => rw [quotationLength?, ih hmore, Option.map_none, ite_self]

/-- What holds no quote ends no quotation. -/
theorem quotationLength?_append (front : List Char) (escaped : Bool) :
    quotationLength? escaped (front ++ tail) = quotationLength? escaped front := by
  induction front generalizing escaped with
  | nil =>
      rw [List.nil_append, quotationLength?_of_not_mem htail]
      cases escaped <;> rfl
  | cons c front ih =>
      cases escaped with
      | false => rw [List.cons_append, quotationLength?, quotationLength?, ih]
      | true => rw [List.cons_append, quotationLength?, quotationLength?, ih]

theorem redactQuotations_of_not_mem : redactQuotations 0 tail = tail := by
  induction tail with
  | nil => rfl
  | cons c tail ih =>
      obtain ⟨hquote, hmore⟩ := List.ne_and_not_mem_of_not_mem_cons htail
      rw [redactQuotations, if_neg hquote.symm, ih hmore]

/-- Redaction leaves alone what stands behind the last quote. -/
theorem redactQuotations_append (front : List Char) {skip : Nat} (hskip : skip ≤ front.length) :
    redactQuotations skip (front ++ tail) = redactQuotations skip front ++ tail := by
  induction front generalizing skip with
  | nil =>
      obtain rfl := Nat.le_zero.mp hskip
      rw [List.nil_append, redactQuotations_of_not_mem htail]
      rfl
  | cons c front ih =>
      cases skip with
      | succ skip =>
          rw [List.cons_append, redactQuotations, redactQuotations]
          exact ih (Nat.le_of_succ_le_succ hskip)
      | zero =>
          rw [List.cons_append, redactQuotations, redactQuotations,
            quotationLength?_append htail, ih (Nat.zero_le _)]
          split
          · split
            · next length hlength =>
                rw [ih (quotationLength?_le hlength)]
                simp
            · rfl
          · rfl

end Tails

theorem redactQuotations_skip (front tail : List Char) :
    redactQuotations front.length (front ++ tail) = redactQuotations 0 tail := by
  induction front with
  | nil => rfl
  | cons c front ih => rw [List.cons_append, List.length_cons, redactQuotations, ih]

/-- A quotation is replaced, and the search goes on behind it. -/
theorem redactQuotations_enclosed {body : List Char} (hbody : Enclosed body) (text : List Char) :
    redactQuotations 0 ('"' :: (body ++ '"' :: text)) =
      '"' :: mark ++ '"' :: redactQuotations 0 text := by
  have hskip := redactQuotations_skip (body ++ ['"']) text
  rw [List.length_append, List.length_singleton, List.append_assoc, List.singleton_append] at hskip
  rw [redactQuotations, if_pos rfl, quotationLength?_enclosed hbody]
  dsimp only
  rw [hskip]

section Fronts

variable {front : List Char} (hfront : '"' ∉ front)
include hfront

theorem redactQuotations_front (tail : List Char) :
    redactQuotations 0 (front ++ tail) = front ++ redactQuotations 0 tail := by
  induction front with
  | nil => rfl
  | cons c front ih =>
      obtain ⟨hquote, hmore⟩ := List.ne_and_not_mem_of_not_mem_cons hfront
      rw [List.cons_append, redactQuotations, if_neg hquote.symm, ih hmore, List.cons_append]

theorem redactQuotations_quotation (inner tail : List Char) :
    redactQuotations 0 (front ++ quotedChars inner ++ tail) =
      front ++ '"' :: mark ++ '"' :: redactQuotations 0 tail := by
  have hclosed : quotedChars inner ++ tail = '"' :: (inner.flatMap quoteChar ++ '"' :: tail) := by
    simp [quotedChars]
  rw [List.append_assoc, redactQuotations_front hfront, hclosed,
    redactQuotations_enclosed (enclosed_quoted inner), List.append_assoc]

/-- Whatever is quoted, the redacted text is the same. -/
theorem configurationChars_quotation (inner other tail : List Char) :
    configurationChars (front ++ quotedChars inner ++ tail) =
      configurationChars (front ++ quotedChars other ++ tail) := by
  rw [configurationChars, configurationChars, redactQuotations_quotation hfront,
    redactQuotations_quotation hfront]

end Fronts

/-! ## Names of fields -/

theorem splitAtFirst_front {pattern : List Char} (hpattern : pattern ≠ []) (after : List Char) :
    splitAtFirst pattern (pattern ++ after) = some ([], after) := by
  have hprefix : pattern.isPrefixOf (pattern ++ after) = true :=
    List.isPrefixOf_iff_prefix.mpr (List.prefix_append pattern after)
  have hdrop : (pattern ++ after).drop pattern.length = after := List.drop_left
  cases htext : pattern ++ after with
  | nil => exact absurd (List.append_eq_nil_iff.mp htext).1 hpattern
  | cons c rest =>
      rw [htext] at hprefix hdrop
      rw [splitAtFirst, if_pos hprefix, hdrop]

/-- A name is taken out up to its first backquote. -/
theorem redactToBackquote_eq (name tail : List Char) :
    redactToBackquote (name ++ '\x60' :: tail) =
      mark ++ (name.dropWhile (· != '\x60') ++ '\x60' :: tail) := by
  have hdrop : (name ++ '\x60' :: tail).dropWhile (· != '\x60') =
      name.dropWhile (· != '\x60') ++ '\x60' :: tail := by
    rw [List.dropWhile_append]
    cases name.dropWhile (· != '\x60') <;> rfl
  rw [redactToBackquote, hdrop]
  cases name.dropWhile (· != '\x60') <;> rfl

/-- The name of an unknown field is taken out unless a backquote of it stands outside quotations. -/
theorem configurationChars_unknownField (name : List Char) {tail : List Char}
    (htail : '"' ∉ tail) :
    configurationChars (unknownField ++ (name ++ '\x60' :: tail)) =
        unknownField ++ (mark ++ '\x60' :: tail) ↔ '\x60' ∉ redactQuotations 0 name := by
  have hbehind : '"' ∉ '\x60' :: tail := by simp [htail]
  have htext : configurationChars (unknownField ++ (name ++ '\x60' :: tail)) =
      unknownField ++ (mark ++ ((redactQuotations 0 name).dropWhile (· != '\x60') ++
        '\x60' :: tail)) := by
    rw [configurationChars, redactQuotations_front (by decide),
      redactQuotations_append hbehind name (Nat.zero_le _), redactUnknownField,
      splitAtFirst_front (by decide)]
    dsimp only
    rw [redactToBackquote_eq, List.nil_append]
  rw [htext, List.append_cancel_left_eq, List.append_cancel_left_eq, List.append_left_eq_self,
    List.dropWhile_eq_nil_iff]
  simp only [bne_iff_ne]
  exact ⟨fun hnone hmem => hnone _ hmem rfl, fun hnone c hc hsame => hnone (hsame ▸ hc)⟩

/-! ## Other names -/

theorem eq_of_splitAtFirst {pattern text before after : List Char}
    (hsplit : splitAtFirst pattern text = some (before, after)) :
    text = before ++ pattern ++ after := by
  induction text generalizing before with
  | nil =>
      rw [splitAtFirst] at hsplit
      split at hsplit
      · next hempty =>
          cases hsplit
          rw [List.isEmpty_iff.mp hempty]
          rfl
      · cases hsplit
  | cons c text ih =>
      rw [splitAtFirst] at hsplit
      split at hsplit
      · next hprefix =>
          cases hsplit
          exact List.prefix_iff_eq_append.mp (List.isPrefixOf_iff_prefix.mp hprefix) |>.symm
      · obtain ⟨⟨inner, rest⟩, hinner, hmade⟩ := Option.map_eq_some_iff.mp hsplit
        cases hmade
        rw [ih hinner]
        rfl

/-- A name between backquotes stays if the words before it are not those for an unknown field. -/
theorem prefix_redactUnknownField {front shown : List Char} (hfront : '\x60' ∉ front)
    (hshown : '\x60' ∉ shown) (hwords : ¬unknownField.dropLast <:+ front) (tail : List Char) :
    front ++ '\x60' :: shown ++ ['\x60'] <+:
      redactUnknownField (front ++ '\x60' :: shown ++ ['\x60'] ++ tail) := by
  rw [redactUnknownField]
  split
  · next before after hsplit =>
      have htext := eq_of_splitAtFirst hsplit
      refine List.IsPrefix.trans ?_ (List.prefix_append _ _)
      have hends : unknownField = unknownField.dropLast ++ ['\x60'] := by decide
      have hfound : before ++ unknownField <+:
          front ++ '\x60' :: shown ++ ['\x60'] ++ tail := by
        rw [htext]
        exact List.prefix_append _ _
      rcases List.prefix_or_prefix_of_prefix (List.prefix_append _ tail) hfound with hkept | hcut
      · exact hkept
      · obtain ⟨rest, hrest⟩ := hcut
        rcases rest.eq_nil_or_concat with rfl | ⟨middle, last, rfl⟩
        · rw [List.append_nil] at hrest
          exact hrest ▸ List.prefix_refl _
        · -- The words for an unknown field would end at the first backquote.
          rw [hends, List.concat_eq_append, ← List.append_assoc, ← List.append_assoc] at hrest
          have hinner := (List.append_inj' hrest rfl).1
          rw [List.append_assoc _ _ middle, List.singleton_append] at hinner
          have hsame := (List.append_cons_inj_of_notMem hfront hshown).mp hinner.symm
          exact absurd ⟨before, hsame.1.symm⟩ hwords
  · exact List.prefix_append _ _

section Texts

variable {first second : String} (hfirst : '"' ∉ first.toList) (hsecond : '"' ∉ second.toList)
include hfirst hsecond

/-- Whatever is quoted, the redacted text is the same. -/
theorem configuration_quotation (value other third last : String) :
    configuration (first ++ (second ++ Text.quoted value) ++ third ++ last) =
      configuration (first ++ (second ++ Text.quoted other) ++ third ++ last) := by
  have hfront : '"' ∉ first.toList ++ second.toList := by simp [hfirst, hsecond]
  have htext : ∀ quotation : String,
      (first ++ (second ++ Text.quoted quotation) ++ third ++ last).toList =
        first.toList ++ second.toList ++ quotedChars quotation.toList ++
          (third.toList ++ last.toList) := by
    intro quotation
    simp [Text.quoted]
  rw [configuration, configuration, htext, htext, configurationChars_quotation hfront]

theorem configuration_quoted (value other : String) :
    configuration (first ++ second ++ Text.quoted value) =
      configuration (first ++ second ++ Text.quoted other) := by
  have hsame := configuration_quotation hfirst hsecond value other "" ""
  simpa only [String.append_empty, String.append_assoc] using hsame

end Texts

/-- A text of a name between ticks, which both are one backquote. -/
theorem configuration_name {front tick last : String} (htick : tick.toList = ['\x60'])
    (hfront : front.toList ++ ['\x60'] = unknownField) {third : String}
    (hthird : '"' ∉ third.toList) (hlast : '"' ∉ last.toList) (name : String) :
    configuration (front ++ (tick ++ name ++ tick) ++ third ++ last) =
        front ++ (tick ++ String.ofList mark ++ tick) ++ third ++ last ↔
      '\x60' ∉ redactQuotations 0 name.toList := by
  have htail : '"' ∉ third.toList ++ last.toList := by simp [hthird, hlast]
  have htext : ∀ shown : String, (front ++ (tick ++ shown ++ tick) ++ third ++ last).toList =
      unknownField ++ (shown.toList ++ '\x60' :: (third.toList ++ last.toList)) := by
    intro shown
    rw [← hfront]
    simp [htick]
  rw [configuration, htext name, ← String.toList_inj, htext, String.toList_ofList,
    String.toList_ofList, configurationChars_unknownField _ htail]

/-- After other words the name shows, but for its quotations. -/
theorem prefix_configuration_name {front tick third last : String} {name : String}
    (htick : tick.toList = ['\x60']) (hfront : Clean front.toList)
    (hwords : ¬unknownField.dropLast <:+ front.toList) (hthird : '"' ∉ third.toList)
    (hlast : '"' ∉ last.toList) (hname : '\x60' ∉ redactQuotations 0 name.toList) :
    front.toList ++ '\x60' :: redactQuotations 0 name.toList ++ ['\x60'] <+:
      (configuration (front ++ (tick ++ name ++ tick) ++ third ++ last)).toList := by
  have hopening : '"' ∉ front.toList ++ ['\x60'] := by simp [hfront.1]
  have hbehind : '"' ∉ '\x60' :: (third.toList ++ last.toList) := by simp [hthird, hlast]
  have htext : (front ++ (tick ++ name ++ tick) ++ third ++ last).toList =
      front.toList ++ ['\x60'] ++ (name.toList ++ '\x60' :: (third.toList ++ last.toList)) := by
    simp [htick]
  have hredacted : redactQuotations 0 (front ++ (tick ++ name ++ tick) ++ third ++ last).toList =
      front.toList ++ '\x60' :: redactQuotations 0 name.toList ++ ['\x60'] ++
        (third.toList ++ last.toList) := by
    rw [htext, redactQuotations_front hopening,
      redactQuotations_append hbehind name.toList (Nat.zero_le _)]
    simp
  rw [configuration, String.toList_ofList, configurationChars, hredacted]
  exact prefix_redactUnknownField hfront.2 hname hwords _

end Redaction

namespace Mismatch

open Redaction

/-- No part of a name that the user chose shows once the text is redacted. -/
def NameHidden : Mismatch → Prop
  | .unknownField name _ => '\x60' ∉ redactQuotations 0 name.toList
  | .unknownVariant _ _ => False
  | _ => True

instance (mismatch : Mismatch) : Decidable mismatch.NameHidden := by
  unfold NameHidden
  split <;> infer_instance

/-- The words for an unknown field, with nothing of its name. -/
def redactedName (allowed : List String) : String :=
  "unknown field " ++ backquoted (String.ofList mark) ++ ", expected " ++ expectedNames allowed

theorem configuration_unknownField (name : String) {allowed : List String}
    (hallowed : '"' ∉ (expectedNames allowed).toList) :
    configuration (unknownField name allowed).message = redactedName allowed ↔
      (unknownField name allowed).NameHidden :=
  configuration_name (by decide) (by decide) (by decide) hallowed name

/-- The name of an unknown variant shows; quotations in it are taken out. -/
theorem prefix_configuration_unknownVariant {name : String} {allowed : List String}
    (hallowed : '"' ∉ (expectedNames allowed).toList)
    (hname : '\x60' ∉ redactQuotations 0 name.toList) :
    "unknown variant ".toList ++ '\x60' :: redactQuotations 0 name.toList ++ ['\x60'] <+:
      (configuration (unknownVariant name allowed).message).toList :=
  prefix_configuration_name (by decide) (by decide) (by decide) (by decide) hallowed hname

theorem configuration_unexpected_string (value other expected : String) :
    configuration (invalidType (.string value) expected).message =
      configuration (invalidType (.string other) expected).message :=
  configuration_quotation (by decide) (by decide) value other _ _

end Mismatch

end DebugBridge
