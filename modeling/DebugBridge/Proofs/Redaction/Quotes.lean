import DebugBridge.Decode.Mismatch
import DebugBridge.Proofs.Text.Quoted
import DebugBridge.Redaction.Quotes
import Mathlib.Data.List.TakeWhile

/-!
# What redaction takes out

An error text about JSON says nothing of an unexpected string, as long as the string holds no double
quote.  A quote in the string is taken for its end, and what follows stays.
-/

namespace DebugBridge

namespace Redaction

open Text

/-! ## Pairs of quotes -/

theorem redactPairs_front {front : List Char} (hfront : ∀ c ∈ front, c ≠ '"') (tail : List Char) :
    redactPairs none (front ++ tail) =
      (front ++ (redactPairs none tail).1, (redactPairs none tail).2) := by
  induction front with
  | nil => rfl
  | cons c front ih =>
      obtain ⟨hc, hmore⟩ := List.forall_mem_cons.mp hfront
      rw [List.cons_append, redactPairs, if_neg hc, ih hmore]
      rfl

theorem redactPairs_pending {inner : List Char} (hinner : ∀ c ∈ inner, c ≠ '"')
    (pending tail : List Char) :
    redactPairs (some pending) (inner ++ '"' :: tail) =
      (mark ++ '"' :: (redactPairs none tail).1, (redactPairs none tail).2) := by
  induction inner generalizing pending with
  | nil =>
      rw [List.nil_append, redactPairs, if_pos rfl]
  | cons c inner ih =>
      obtain ⟨hc, hmore⟩ := List.forall_mem_cons.mp hinner
      rw [List.cons_append, redactPairs, if_neg hc, ih hmore]

/-- What stands in the first pair of quotes does not matter. -/
theorem redactPairs_quotation {front inner : List Char} (hfront : ∀ c ∈ front, c ≠ '"')
    (hinner : ∀ c ∈ inner, c ≠ '"') (tail : List Char) :
    redactPairs none (front ++ '"' :: inner ++ '"' :: tail) =
      (front ++ '"' :: mark ++ '"' :: (redactPairs none tail).1, (redactPairs none tail).2) := by
  rw [List.append_assoc, redactPairs_front hfront, List.cons_append, redactPairs, if_pos rfl,
    redactPairs_pending hinner]
  simp

/-- Every quote is still there afterwards. -/
theorem count_redactPairs (text : List Char) :
    (redactPairs none text).1.count '"' = text.count '"' ∧
      ∀ pending : List Char, pending.count '"' = 0 →
        (redactPairs (some pending) text).1.count '"' = text.count '"' := by
  induction text with
  | nil =>
      refine ⟨rfl, fun pending hpending => ?_⟩
      rw [redactPairs, List.count_reverse, hpending]
      rfl
  | cons c text ih =>
      obtain ⟨hplain, hopen⟩ := ih
      by_cases hc : c = '"'
      · subst hc
        constructor
        · rw [redactPairs, if_pos rfl]
          dsimp only
          rw [List.count_cons_self, hopen [] rfl, List.count_cons_self]
        · intro pending _
          have hmark : mark.count '"' = 0 := by decide
          rw [redactPairs, if_pos rfl]
          dsimp only
          rw [List.count_append, hmark, List.count_cons_self, List.count_cons_self, hplain,
            Nat.zero_add]
      · constructor
        · rw [redactPairs, if_neg hc]
          dsimp only
          rw [List.count_cons_of_ne hc, List.count_cons_of_ne hc, hplain]
        · intro pending hpending
          rw [redactPairs, if_neg hc, hopen, List.count_cons_of_ne hc]
          rw [List.count_cons_of_ne hc, hpending]

/-- A backquote is never taken out. -/
theorem mem_redactFirstBackquoted {text : List Char} (hmem : '\x60' ∈ text) :
    '\x60' ∈ redactFirstBackquoted text := by
  unfold redactFirstBackquoted
  cases hrest : text.dropWhile (· != '\x60') with
  | nil =>
      rw [List.dropWhile_eq_nil_iff] at hrest
      exact absurd (hrest _ hmem) (by decide)
  | cons first rest =>
      have hfirst := List.head?_dropWhile_not (· != '\x60') text
      rw [hrest] at hfirst
      have hsame : first = '\x60' := by simpa using hfirst
      subst hsame
      exact List.mem_append_right _ List.mem_cons_self

theorem dropWhile_of_not_mem {text : List Char} (hnone : '\x60' ∉ text) :
    text.dropWhile (· != '\x60') = [] := by
  rw [List.dropWhile_eq_nil_iff]
  intro c hc
  rw [bne_iff_ne]
  rintro rfl
  exact hnone hc

theorem redactFirstBackquoted_of_not_mem {text : List Char} (hnone : '\x60' ∉ text) :
    redactFirstBackquoted text = text := by
  rw [redactFirstBackquoted, dropWhile_of_not_mem hnone]

/-! ## Unexpected strings -/

/-- Words that no redaction touches. -/
def Clean (text : List Char) : Prop := '"' ∉ text ∧ '\x60' ∉ text

instance (text : List Char) : Decidable (Clean text) := inferInstanceAs (Decidable (_ ∧ _))

theorem Clean.ne_quote {text : List Char} (hclean : Clean text) : ∀ c ∈ text, c ≠ '"' := by
  rintro c hc rfl
  exact hclean.1 hc

theorem Clean.append {text more : List Char} (hclean : Clean text) (hmore : Clean more) :
    Clean (text ++ more) := by
  simp only [Clean, List.mem_append, not_or]
  exact ⟨⟨hclean.1, hmore.1⟩, hclean.2, hmore.2⟩

/-- A text without quotes is written between quotes without any. -/
theorem ne_quote_of_mem_quoted {text : List Char} (hnone : '"' ∉ text) :
    ∀ c ∈ text.flatMap quoteChar, c ≠ '"' := by
  intro c hc
  obtain ⟨d, hd, hwritten⟩ := List.mem_flatMap.mp hc
  refine ne_quote_of_mem_quoteChar ?_ hwritten
  rintro rfl
  exact hnone hd

theorem quote_mem_quoted {text : List Char} (hsome : '"' ∈ text) :
    '"' ∈ text.flatMap quoteChar :=
  List.mem_flatMap.mpr ⟨'"', hsome, by decide⟩

section Unexpected

variable {front inner tail : List Char}

theorem backquote_not_mem_redacted (hfront : Clean front) (htail : Clean tail) :
    '\x60' ∉ front ++ '"' :: mark ++ '"' :: tail := by
  have hmark : '\x60' ∉ mark := by decide
  simp [hfront.2, htail.2, hmark]

/-- A quotation among clean words is taken out if there is no quote in it. -/
theorem jsonChars_quotation (hfront : Clean front) (htail : Clean tail) (hinner : '"' ∉ inner) :
    jsonChars (front ++ quotedChars inner ++ tail) = front ++ '"' :: mark ++ '"' :: tail := by
  have htext : front ++ quotedChars inner ++ tail =
      front ++ '"' :: inner.flatMap quoteChar ++ '"' :: tail := by
    simp [quotedChars]
  have hrest : redactPairs none tail = (tail, true) := by
    have hplain := redactPairs_front htail.ne_quote []
    rw [List.append_nil] at hplain
    rw [hplain, redactPairs, List.append_nil]
  rw [jsonChars, htext, redactPairs_quotation hfront.ne_quote (ne_quote_of_mem_quoted hinner),
    hrest]
  exact redactFirstBackquoted_of_not_mem (backquote_not_mem_redacted hfront htail)

/-- With a quote in it, some of the quotation stays. -/
theorem jsonChars_quotation_ne (hfront : Clean front) (htail : Clean tail) (hinner : '"' ∈ inner) :
    jsonChars (front ++ quotedChars inner ++ tail) ≠ front ++ '"' :: mark ++ '"' :: tail := by
  intro hsame
  have hcount : (redactPairs none (front ++ quotedChars inner ++ tail)).1.count '"' ≠
      (front ++ '"' :: mark ++ '"' :: tail).count '"' := by
    have hmark : mark.count '"' = 0 := by decide
    have hwritten := List.count_pos_iff.mpr (quote_mem_quoted hinner)
    have hfrontCount := List.count_eq_zero.mpr hfront.1
    have htailCount := List.count_eq_zero.mpr htail.1
    rw [(count_redactPairs _).1]
    simp only [quotedChars, List.count_append, List.count_cons_self, List.count_nil, hmark,
      hfrontCount, htailCount]
    omega
  rw [jsonChars] at hsame
  generalize redactPairs none (front ++ quotedChars inner ++ tail) = redacted at hcount hsame
  obtain ⟨text, closed⟩ := redacted
  cases closed with
  | false => exact hcount (congrArg (List.count '"') hsame)
  | true =>
      have hredacted : redactFirstBackquoted text = front ++ '"' :: mark ++ '"' :: tail := hsame
      by_cases hbackquote : '\x60' ∈ text
      · have hmem := mem_redactFirstBackquoted hbackquote
        rw [hredacted] at hmem
        exact backquote_not_mem_redacted hfront htail hmem
      · rw [redactFirstBackquoted_of_not_mem hbackquote] at hredacted
        exact hcount (congrArg (List.count '"') hredacted)

end Unexpected

/-- What stands for a quotation, with its quotes. -/
def marked : String := String.ofList ('"' :: mark ++ ['"'])

variable {first second third last : String}

/-- A quotation in a text of clean words is taken out exactly if there is no quote in it. -/
theorem json_quotation (hfirst : Clean first.toList) (hsecond : Clean second.toList)
    (hthird : Clean third.toList) (hlast : Clean last.toList) (value : String) :
    json (first ++ (second ++ Text.quoted value) ++ third ++ last) =
        first ++ (second ++ marked) ++ third ++ last ↔ '"' ∉ value.toList := by
  have hfront := hfirst.append hsecond
  have htail := hthird.append hlast
  have htext : (first ++ (second ++ Text.quoted value) ++ third ++ last).toList =
      first.toList ++ second.toList ++ quotedChars value.toList ++
        (third.toList ++ last.toList) := by
    simp [Text.quoted]
  have hmarked : first ++ (second ++ marked) ++ third ++ last = String.ofList
      (first.toList ++ second.toList ++ '"' :: mark ++ '"' :: (third.toList ++ last.toList)) := by
    rw [← String.toList_inj]
    simp [marked]
  rw [json, htext, hmarked, String.ofList_inj]
  constructor
  · intro hsame hquote
    exact jsonChars_quotation_ne hfront htail hquote hsame
  · intro hnone
    exact jsonChars_quotation hfront htail hnone

end Redaction

namespace Mismatch

/-! ## What shows of two mismatches -/

/-- Two mismatches have the same text if nothing shows in either, and not if something shows in just
one of them. -/
structure HiddenIn (hides : Mismatch → Prop) (text : Mismatch → String)
    (first second : Mismatch) : Prop where
  same : hides first → hides second → text first = text second
  apart : (hides first ↔ ¬hides second) → text first ≠ text second

section Hidden

variable {hides : Mismatch → Prop} {text : Mismatch → String} {first second : Mismatch}

/-- One text stands for every mismatch that hides what it should. -/
theorem HiddenIn.of_iff {redacted : String} (hfirst : text first = redacted ↔ hides first)
    (hsecond : text second = redacted ↔ hides second) : HiddenIn hides text first second := by
  constructor
  · intro hfirstHides hsecondHides
    calc
      text first = redacted := hfirst.mpr hfirstHides
      _ = text second := (hsecond.mpr hsecondHides).symm
  · intro hone hsame
    have hboth : hides first ↔ hides second := by
      rw [← hfirst, ← hsecond, hsame]
    exact iff_not_self (hboth.symm.trans hone)

theorem HiddenIn.of_eq (hsame : text first = text second) (hboth : hides first ↔ hides second) :
    HiddenIn hides text first second where
  same _ _ := hsame
  apart hone := (iff_not_self (hboth.symm.trans hone)).elim

theorem HiddenIn.refl (mismatch : Mismatch) : HiddenIn hides text mismatch mismatch :=
  .of_eq rfl Iff.rfl

theorem HiddenIn.after (hhidden : HiddenIn hides text first second) (words : String) :
    HiddenIn hides (fun mismatch => words ++ text mismatch) first second where
  same hfirst hsecond := congrArg (words ++ ·) (hhidden.same hfirst hsecond)
  apart hone hsame := hhidden.apart hone ((String.append_right_inj words).mp hsame)

end Hidden

/-! ## Unexpected strings -/

/-- The words for an unexpected string, with nothing of the string. -/
def redactedString (expected : String) : String :=
  "invalid type: " ++ ("string " ++ Redaction.marked) ++ ", expected " ++ expected

/-- The redacted words for an unexpected string tell nothing of the string, unless there is a quote
in it. -/
theorem json_unexpected_string (value : String) {expected : String}
    (hclean : Redaction.Clean expected.toList) :
    Redaction.json (invalidType (.string value) expected).message = redactedString expected ↔
      '"' ∉ value.toList :=
  Redaction.json_quotation (by decide) (by decide) (by decide) hclean value

end Mismatch

end DebugBridge
