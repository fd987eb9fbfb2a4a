import DebugBridge.Url.Punycode
import Mathlib.Data.List.Basic
import Mathlib.Data.List.Sort
import Mathlib.Data.List.TakeWhile
import Mathlib.Tactic.Common
import Mathlib.Tactic.Ring

/-!
# Punycode read back

What is written of a label is read as the label.  The reader counts code points and places in one
number; the writer is ahead of it by the difference that it has not written yet.  This holds at
every character that the writer passes, so that each difference puts its character into its place.
-/

namespace DebugBridge.Url.Punycode

/-! ## Digits -/

theorem threshold_le (k bias : Nat) : threshold k bias ≤ 26 := by
  unfold threshold
  split
  · decide
  · split <;> omega

def IsDigit (c : Char) : Prop := ∃ n < 36, digit n = c

theorem digitValue?_digit : ∀ n < 36, digitValue? (digit n) = some n := by decide +kernel

theorem IsDigit.ne_hyphen {c : Char} (hc : IsDigit c) : c ≠ '-' := by
  have hall : ∀ n < 36, digit n ≠ '-' := by decide +kernel
  obtain ⟨n, hn, rfl⟩ := hc
  exact hall n hn

theorem isDigit_of_mem_digits (bias k n : Nat) : ∀ c ∈ digits bias k n, IsDigit c := by
  fun_induction digits bias k n with
  | case1 k n t hlast =>
      have hhigh := threshold_le k bias
      exact List.forall_mem_singleton.mpr ⟨n, by omega, rfl⟩
  | case2 k n t hmore ih =>
      have hhigh := threshold_le k bias
      have hrest : (n - t) % (36 - t) < 36 - t := Nat.mod_lt _ (by omega)
      exact List.forall_mem_cons.mpr ⟨⟨_, by omega, rfl⟩, ih⟩

theorem digits_ne_nil (bias k n : Nat) : digits bias k n ≠ [] := by
  fun_cases digits bias k n <;> exact List.cons_ne_nil _ _

/-- A difference is read as it was written, whatever follows it. -/
theorem readDifference_digits (bias k n weight : Nat) (rest : List Char) :
    readDifference bias k weight (digits bias k n ++ rest) = some (n * weight, rest) := by
  fun_induction digits bias k n generalizing weight with
  | case1 k n t hlast =>
      have hhigh := threshold_le k bias
      rw [List.singleton_append, readDifference, digitValue?_digit n (by omega)]
      exact if_pos hlast
  | case2 k n t hmore ih =>
      have hhigh : t ≤ 26 := threshold_le k bias
      have hrest : (n - t) % (36 - t) < 36 - t := Nat.mod_lt _ (by omega)
      have hparts : (t + (n - t) % (36 - t)) * weight +
          (n - t) / (36 - t) * ((36 - t) * weight) = n * weight := by
        have hdiv := Nat.mod_add_div' (n - t) (36 - t)
        calc (t + (n - t) % (36 - t)) * weight + (n - t) / (36 - t) * ((36 - t) * weight)
            = (t + ((n - t) % (36 - t) + (n - t) / (36 - t) * (36 - t))) * weight := by ring
          _ = n * weight := by rw [hdiv, Nat.add_sub_cancel' (Nat.not_lt.mp hmore)]
      rw [List.cons_append, readDifference, digitValue?_digit _ (by omega), Option.bind_eq_bind,
        Option.bind_some, if_neg (Nat.not_lt.mpr (Nat.le_add_right _ _)), ih]
      exact congrArg (fun value => some (value, rest)) hparts

/-! ## Reading on -/

theorem length_lt_of_readDifference {bias k weight difference : Nat} {text rest : List Char}
    (hread : readDifference bias k weight text = some (difference, rest)) :
    rest.length < text.length := by
  induction text generalizing k weight difference with
  | nil => cases hread
  | cons c text ih =>
      obtain ⟨value, -, hread⟩ := Option.bind_eq_some_iff.mp hread
      dsimp only at hread
      split at hread
      · cases hread
        exact Nat.lt_succ_self _
      · obtain ⟨⟨more, left⟩, hmore, hread⟩ := Option.bind_eq_some_iff.mp hread
        cases hread
        exact Nat.lt_succ_of_lt (ih hmore)

/-- Reads a text to its end. -/
def readOn (assembly : Assembly) (text : List Char) : Option (List Char) :=
  readPoints text.length assembly text

theorem readPoints_eq_readOn {fuel : Nat} {text : List Char} (hfuel : text.length ≤ fuel)
    (assembly : Assembly) : readPoints fuel assembly text = readOn assembly text := by
  induction fuel using Nat.strongRecOn generalizing assembly text with
  | ind fuel ih =>
      cases text with
      | nil => cases fuel <;> rfl
      | cons c text =>
          obtain ⟨fuel, rfl⟩ := Nat.exists_eq_add_one_of_ne_zero (Nat.ne_zero_of_lt hfuel)
          rw [readOn, List.length_cons, readPoints.eq_3 _ _ _ (List.cons_ne_nil _ _),
            readPoints.eq_3 _ _ _ (List.cons_ne_nil _ _)]
          refine Option.bind_congr fun ⟨difference, rest⟩ hread => ?_
          refine Option.bind_congr fun next _ => ?_
          have hshort := Nat.le_of_lt_succ (length_lt_of_readDifference hread)
          have hfits : rest.length ≤ fuel := hshort.trans (Nat.le_of_succ_le_succ hfuel)
          rw [ih fuel (Nat.lt_succ_self _) hfits]
          rcases Nat.lt_or_ge text.length (fuel + 1) with hless | hmore
          · exact (ih text.length hless hshort next).symm
          · exact absurd hfuel (by simp only [List.length_cons]; omega)

/-- A text is digits, and having read it a reader goes on as if it had put together this much. -/
structure Leads (assembly : Assembly) (text : List Char) (next : Assembly) : Prop where
  digits : ∀ c ∈ text, IsDigit c
  reads : ∀ more, readOn assembly (text ++ more) = readOn next more

theorem Leads.refl (assembly : Assembly) : Leads assembly [] assembly where
  digits := List.forall_mem_nil _
  reads _ := rfl

theorem Leads.trans {assembly between next : Assembly} {first second : List Char}
    (hfirst : Leads assembly first between) (hsecond : Leads between second next) :
    Leads assembly (first ++ second) next where
  digits := List.forall_mem_append.mpr ⟨hfirst.digits, hsecond.digits⟩
  reads more := by rw [List.append_assoc, hfirst.reads, hsecond.reads]

theorem leads_digits {assembly next : Assembly} {difference : Nat}
    (hput : assembly.putIn? difference = some next) :
    Leads assembly (digits assembly.bias 36 difference) next where
  digits := isDigit_of_mem_digits _ _ _
  reads more := by
    have hread := readDifference_digits assembly.bias 36 difference 1 more
    obtain ⟨c, text, htext⟩ :=
      List.exists_cons_of_ne_nil (digits_ne_nil assembly.bias 36 difference)
    rw [htext, List.cons_append] at hread ⊢
    have hshort := Nat.le_of_lt_succ (length_lt_of_readDifference hread)
    rw [readOn, List.length_cons, readPoints.eq_3 _ _ _ (List.cons_ne_nil _ _), hread,
      Nat.mul_one, Option.bind_eq_bind, Option.bind_some]
    dsimp only
    rw [hput, Option.bind_eq_bind, Option.bind_some]
    exact readPoints_eq_readOn hshort next

/-! ## Writing -/

/-- The characters of a text that are below a code point. -/
def below (point : Nat) (text : List Char) : List Char :=
  text.filter fun c => decide (c.toNat < point)

theorem below_append (point : Nat) (first second : List Char) :
    below point (first ++ second) = below point first ++ below point second :=
  List.filter_append _ _

theorem below_cons_of_lt {point : Nat} {c : Char} (hc : c.toNat < point) (text : List Char) :
    below point (c :: text) = c :: below point text := List.filter_cons_of_pos (by simp [hc])

theorem below_cons_of_le {point : Nat} {c : Char} (hc : point ≤ c.toNat) (text : List Char) :
    below point (c :: text) = below point text := List.filter_cons_of_neg (by simp [hc])

theorem below_of_forall_lt {point : Nat} {text : List Char} (htext : ∀ c ∈ text, c.toNat < point) :
    below point text = text := List.filter_eq_self.mpr fun c hc => decide_eq_true (htext c hc)

theorem insertIdx_length_append (front rest : List Char) (c : Char) :
    (front ++ rest).insertIdx front.length c = front ++ c :: rest := by
  induction front with
  | nil => rfl
  | cons d front ih => exact congrArg (d :: ·) ih

/-- The writer has passed a part of the label in search of a code point, and the reader has all
that was written: the characters up to that code point among those that were passed, and those below
it among the rest.  The reader's count is behind by the difference. -/
structure Follows (basic point : Nat) (passed rest : List Char) (progress : Progress)
    (assembly : Assembly) : Prop where
  done : assembly.done = below (point + 1) passed ++ below point rest
  handled : progress.handled = assembly.done.length
  basic_le : basic ≤ progress.handled
  bias : progress.bias = assembly.bias
  first : (progress.handled == basic) = (assembly.place == 0)
  point_le : assembly.point ≤ point
  ahead : assembly.place + progress.delta =
    (point - assembly.point) * (progress.handled + 1) + (below (point + 1) passed).length

section Following

variable {basic point : Nat} {label passed rest : List Char} {progress : Progress}
variable {assembly : Assembly}

/-- A difference puts its character in where the writer passes it. -/
theorem Follows.putIn?_eq {c : Char} (hc : c.toNat = point)
    (hfollows : Follows basic point passed (c :: rest) progress assembly) :
    assembly.putIn? progress.delta = some {
      point
      place := (below (point + 1) passed).length + 1
      bias := adapt progress.delta (progress.handled + 1) (progress.handled == basic)
      done := below (point + 1) passed ++ c :: below point rest } := by
  have hrest : below point (c :: rest) = below point rest := below_cons_of_le hc.ge rest
  have hpassed : (below (point + 1) passed).length < assembly.done.length + 1 := by
    rw [hfollows.done, List.length_append]
    omega
  have hcount : assembly.place + progress.delta = (below (point + 1) passed).length +
      (assembly.done.length + 1) * (point - assembly.point) := by
    rw [hfollows.ahead, hfollows.handled, Nat.mul_comm, Nat.add_comm]
  have hdiv : (assembly.place + progress.delta) / (assembly.done.length + 1) =
      point - assembly.point := by
    rw [hcount, Nat.add_mul_div_left _ _ (Nat.succ_pos _), Nat.div_eq_of_lt hpassed, Nat.zero_add]
  have hmod : (assembly.place + progress.delta) % (assembly.done.length + 1) =
      (below (point + 1) passed).length := by
    rw [hcount, Nat.add_mul_mod_self_left, Nat.mod_eq_of_lt hpassed]
  have hvalid : point.isValidChar := hc ▸ c.valid
  have hsame : Char.ofNat point = c := by rw [← hc, Char.ofNat_toNat]
  have hdone : assembly.done.insertIdx (below (point + 1) passed).length c =
      below (point + 1) passed ++ c :: below point rest := by
    rw [hfollows.done, hrest, insertIdx_length_append]
  rw [Assembly.putIn?, hdiv, Nat.add_sub_cancel' hfollows.point_le, if_pos hvalid, hmod, hsame,
    hdone, hfollows.first, hfollows.handled]

/-- The reader follows the writer past one character. -/
theorem Follows.scan {c : Char}
    (hfollows : Follows basic point passed (c :: rest) progress assembly) :
    ∃ text next, (Punycode.scan basic point progress c).written = progress.written ++ text ∧
      Leads assembly text next ∧
      Follows basic point (passed ++ [c]) rest (Punycode.scan basic point progress c) next := by
  have hdone := hfollows.done
  have hahead := hfollows.ahead
  -- The character is there already, it is written now, or it is left for a later code point.
  rcases Nat.lt_trichotomy c.toNat point with hless | hsame | hmore
  · have hkept : below (point + 1) (passed ++ [c]) = below (point + 1) passed ++ [c] := by
      rw [below_append, below_cons_of_lt (Nat.lt_succ_of_lt hless)]
      rfl
    rw [Punycode.scan, if_pos hless]
    refine ⟨[], assembly, (List.append_nil _).symm, .refl assembly, ?_⟩
    refine { hfollows with done := ?_, ahead := ?_ }
    · rw [hdone, hkept, below_cons_of_lt hless, List.append_assoc, List.singleton_append]
    · rw [hkept, List.length_append, ← Nat.add_assoc, ← Nat.add_assoc, hahead]
      rfl
  · have hkept : below (point + 1) (passed ++ [c]) = below (point + 1) passed ++ [c] := by
      rw [below_append, below_cons_of_lt (Nat.lt_succ_of_le hsame.le)]
      rfl
    have hput := hfollows.putIn?_eq hsame
    rw [Punycode.scan, if_neg hsame.not_lt, if_pos hsame]
    refine ⟨_, _, rfl, hfollows.bias ▸ leads_digits hput, ?_⟩
    constructor
    · rw [hkept, List.append_assoc, List.singleton_append]
    · change progress.handled + 1 = (below (point + 1) passed ++ c :: below point rest).length
      rw [hfollows.handled, hdone, below_cons_of_le hsame.ge, List.length_append,
        List.length_append, List.length_cons, Nat.add_assoc]
    · exact Nat.le_succ_of_le hfollows.basic_le
    · rfl
    · have hmany : progress.handled + 1 ≠ basic :=
        Nat.ne_of_gt (Nat.lt_succ_of_le hfollows.basic_le)
      exact (beq_eq_false_iff_ne.mpr hmany).trans
        (beq_eq_false_iff_ne.mpr (Nat.succ_ne_zero _)).symm
    · exact le_rfl
    · rw [hkept, Nat.sub_self, Nat.zero_mul, Nat.zero_add, List.length_append]
      rfl
  · have hkept : below (point + 1) (passed ++ [c]) = below (point + 1) passed := by
      rw [below_append, below_cons_of_le hmore]
      exact List.append_nil _
    rw [Punycode.scan, if_neg hmore.not_gt, if_neg hmore.ne']
    refine ⟨[], assembly, (List.append_nil _).symm, .refl assembly, ?_⟩
    refine { hfollows with done := ?_, ahead := ?_ }
    · rw [hdone, hkept, below_cons_of_le hmore.le]
    · rw [hkept, hahead]

/-- The reader follows the writer past the rest of the label. -/
theorem Follows.foldl_scan (hfollows : Follows basic point passed rest progress assembly) :
    ∃ text next,
      (rest.foldl (Punycode.scan basic point) progress).written = progress.written ++ text ∧
      Leads assembly text next ∧
      Follows basic point (passed ++ rest) [] (rest.foldl (Punycode.scan basic point) progress)
        next := by
  induction rest generalizing passed progress assembly with
  | nil =>
      refine ⟨[], assembly, (List.append_nil _).symm, .refl assembly, ?_⟩
      rw [List.append_nil]
      exact hfollows
  | cons c rest ih =>
      obtain ⟨first, between, hfirst, hleads, hbetween⟩ := hfollows.scan
      obtain ⟨second, next, hsecond, hmore, hnext⟩ := ih hbetween
      refine ⟨first ++ second, next, ?_, hleads.trans hmore, ?_⟩
      · rw [List.foldl_cons, hsecond, hfirst, List.append_assoc]
      · rw [List.append_assoc] at hnext
        exact hnext

/-- Code points that no character has are counted at once. -/
theorem Follows.advance {next : Nat} (hfollows : Follows basic next [] label progress assembly)
    (hle : next ≤ point) (hnone : ∀ c ∈ label, c.toNat < point → c.toNat < next) :
    Follows basic point [] label
      { progress with delta := progress.delta + (point - next) * (progress.handled + 1) }
      assembly := by
  have hpoint := hfollows.point_le
  refine { hfollows with done := ?_, point_le := hpoint.trans hle, ahead := ?_ }
  · rw [hfollows.done]
    refine congrArg (below (next + 1) [] ++ ·) (List.filter_congr fun c hc => ?_)
    exact decide_eq_decide.mpr ⟨fun hless => hless.trans_le hle, hnone c hc⟩
  · have hahead : assembly.place + progress.delta =
        (next - assembly.point) * (progress.handled + 1) := hfollows.ahead
    change assembly.place + (progress.delta + (point - next) * (progress.handled + 1)) =
      (point - assembly.point) * (progress.handled + 1)
    rw [← Nat.add_assoc, hahead, ← Nat.add_mul]
    congr 1
    omega

/-- The search for the next code point begins at the start of the label. -/
theorem Follows.restart (hfollows : Follows basic point label [] progress assembly) :
    Follows basic (point + 1) [] label { progress with delta := progress.delta + 1 }
      assembly := by
  have hdone : assembly.done = below (point + 1) label :=
    hfollows.done.trans (List.append_nil _)
  have hpoint := hfollows.point_le
  refine { hfollows with done := hdone, point_le := Nat.le_succ_of_le hpoint, ahead := ?_ }
  have hcount : (below (point + 1) label).length = progress.handled := by
    rw [← hdone, hfollows.handled]
  change assembly.place + (progress.delta + 1) =
    (point + 1 - assembly.point) * (progress.handled + 1)
  rw [← Nat.add_assoc, hfollows.ahead, hcount, Nat.succ_sub hpoint, Nat.succ_mul, Nat.add_assoc]

/-- Once the writer is through, the reader has the label. -/
theorem Follows.writePoints {points : List Nat} {next : Nat}
    (hfollows : Follows basic next [] label progress assembly)
    (hpoints : (next :: points).Pairwise (· ≤ ·)) (hapart : points.Pairwise (· < ·))
    (hall : ∀ c ∈ label, c.toNat < next ∨ c.toNat ∈ points) :
    ∃ text, (Punycode.writePoints label basic points next progress).written =
        progress.written ++ text ∧
      (∀ c ∈ text, IsDigit c) ∧ readOn assembly text = some label := by
  induction points generalizing next progress assembly with
  | nil =>
      refine ⟨[], (List.append_nil _).symm, List.forall_mem_nil _, ?_⟩
      have hlabel : ∀ c ∈ label, c.toNat < next := fun c hc =>
        (hall c hc).resolve_right List.not_mem_nil
      exact congrArg some (hfollows.done.trans (below_of_forall_lt hlabel))
  | cons point points ih =>
      obtain ⟨hleast, hrest⟩ := List.pairwise_cons.mp hpoints
      obtain ⟨hless, hapart⟩ := List.pairwise_cons.mp hapart
      have hnone : ∀ c ∈ label, c.toNat < point → c.toNat < next := by
        intro c hc hbelow
        refine (hall c hc).resolve_right fun hmem => ?_
        rcases List.mem_cons.mp hmem with hsame | hmem
        · exact absurd hsame hbelow.ne
        · exact absurd (hless _ hmem) hbelow.not_gt
      have hmoved := hfollows.advance (hleast point List.mem_cons_self) hnone
      obtain ⟨first, between, hfirst, hleads, hpassed⟩ := hmoved.foldl_scan
      obtain ⟨second, hsecond, hdigits, hread⟩ := ih hpassed.restart
        (List.pairwise_cons.mpr ⟨hless, hapart.imp Nat.le_of_lt⟩) hapart (by
          intro c hc
          rcases hall c hc with hbelow | hmem
          · exact .inl (hbelow.trans_le (Nat.le_succ_of_le (hleast point List.mem_cons_self)))
          · rcases List.mem_cons.mp hmem with hsame | hmem
            · exact .inl (Nat.lt_succ_of_le hsame.le)
            · exact .inr hmem)
      refine ⟨first ++ second, ?_, List.forall_mem_append.mpr ⟨hleads.digits, hdigits⟩, ?_⟩
      · rw [Punycode.writePoints, hsecond]
        change (label.foldl (Punycode.scan basic point) _).written ++ second = _
        rw [hfirst, List.append_assoc]
      · rw [hleads.reads, hread]

end Following

/-! ## Labels -/

theorem pairwise_eraseDups {numbers : List Nat} (hsorted : numbers.Pairwise (· ≤ ·)) :
    numbers.eraseDups.Pairwise (· < ·) := by
  induction hlength : numbers.length using Nat.strongRecOn generalizing numbers with
  | ind length ih =>
      cases numbers with
      | nil => exact List.Pairwise.nil
      | cons number numbers =>
          obtain ⟨hleast, hrest⟩ := List.pairwise_cons.mp hsorted
          rw [List.eraseDups_cons]
          refine List.pairwise_cons.mpr ⟨fun other hother => ?_, ?_⟩
          · obtain ⟨hmem, hother⟩ := List.mem_filter.mp (List.mem_eraseDups.mp hother)
            have hne : other ≠ number := by simpa using hother
            exact lt_of_le_of_ne (hleast other hmem) hne.symm
          · refine ih _ ?_ (hrest.filter _) rfl
            rw [← hlength]
            exact Nat.lt_succ_of_le (List.length_filter_le _ _)

theorem pairwise_points (label : List Char) : (points label).Pairwise (· < ·) := by
  refine pairwise_eraseDups ?_
  have hsorted : (((label.filter fun c => !isAscii c).map Char.toNat).mergeSort).Pairwise
      fun a b => decide (a ≤ b) = true :=
    List.pairwise_mergeSort (fun a b c => by simpa using Nat.le_trans)
      (fun a b => by simpa using Nat.le_total a b) _
  exact hsorted.imp of_decide_eq_true

theorem mem_points {label : List Char} {point : Nat} :
    point ∈ points label ↔ ∃ c ∈ label, 128 ≤ c.toNat ∧ c.toNat = point := by
  have hbeyond : ∀ c : Char, (!isAscii c) = true ↔ 128 ≤ c.toNat := by
    intro c
    rw [Bool.not_eq_true', isAscii, decide_eq_false_iff_not, Nat.not_lt]
  rw [points, List.mem_eraseDups, List.mem_mergeSort, List.mem_map]
  simp only [List.mem_filter, hbeyond, and_assoc]

/-- Behind the ASCII characters and the hyphen, the text of a label is digits. -/
theorem exists_encode_eq (label : List Char) : ∃ text,
    encode label = (if (label.filter isAscii).isEmpty then [] else label.filter isAscii ++ ['-']) ++
      text ∧
    (∀ c ∈ text, IsDigit c) ∧ readOn { done := label.filter isAscii } text = some label := by
  have hbasic : below 128 label = label.filter isAscii := rfl
  have hstart : Follows (label.filter isAscii).length 128 [] label
      { written := if (label.filter isAscii).isEmpty then [] else label.filter isAscii ++ ['-']
        delta := 0, bias := 72, handled := (label.filter isAscii).length }
      { done := label.filter isAscii } := by
    constructor
    · rfl
    · rfl
    · exact le_rfl
    · rfl
    · exact beq_self_eq_true _
    · exact le_rfl
    · rw [Nat.sub_self, Nat.zero_mul]
      rfl
  refine hstart.writePoints ?_ (pairwise_points label) fun c hc => ?_
  · refine List.pairwise_cons.mpr ⟨fun point hpoint => ?_,
      (pairwise_points label).imp Nat.le_of_lt⟩
    obtain ⟨c, -, hbeyond, rfl⟩ := mem_points.mp hpoint
    exact hbeyond
  · rcases Nat.lt_or_ge c.toNat 128 with hless | hbeyond
    · exact .inl hless
    · exact .inr (mem_points.mpr ⟨c, hc, hbeyond, rfl⟩)

theorem mem_encode {label : List Char} {c : Char} (hc : c ∈ encode label) :
    (c ∈ label ∧ isAscii c = true) ∨ c = '-' ∨ IsDigit c := by
  obtain ⟨text, hencode, hdigits, -⟩ := exists_encode_eq label
  rw [hencode, List.mem_append] at hc
  rcases hc with hc | hc
  · split at hc
    · cases hc
    · rcases List.mem_append.mp hc with hc | hc
      · exact .inl (List.mem_filter.mp hc)
      · exact .inr (.inl (List.mem_singleton.mp hc))
  · exact .inr (.inr (hdigits c hc))

theorem splitEncoded_digits {text : List Char} (htext : ∀ c ∈ text, IsDigit c) :
    splitEncoded text = ([], text) := by
  have hwhole : (text.reverse.takeWhile (· != '-')).reverse = text := by
    rw [List.takeWhile_eq_self_iff.mpr fun c hc => ?_, List.reverse_reverse]
    exact bne_iff_ne.mpr (htext c (List.mem_reverse.mp hc)).ne_hyphen
  rw [splitEncoded, hwhole, Nat.sub_self]
  rfl

theorem splitEncoded_append {basic text : List Char} (hbasic : basic ≠ [])
    (htext : ∀ c ∈ text, IsDigit c) : splitEncoded (basic ++ '-' :: text) = (basic, text) := by
  have hback : ((basic ++ '-' :: text).reverse.takeWhile (· != '-')).reverse = text := by
    rw [List.reverse_append, List.reverse_cons, List.append_assoc, List.singleton_append,
      List.takeWhile_append_of_pos fun c hc => ?_]
    · simp
    · exact bne_iff_ne.mpr (htext c (List.mem_reverse.mp hc)).ne_hyphen
  have hfront : (basic ++ '-' :: text).take
      ((basic ++ '-' :: text).length - text.length - 1) = basic := by
    refine List.take_left' ?_
    rw [List.length_append, List.length_cons]
    omega
  obtain ⟨c, more, rfl⟩ := List.exists_cons_of_ne_nil hbasic
  rw [splitEncoded, hback, hfront]

/-- A label is read from what is written of it. -/
theorem decode?_encode (label : List Char) : decode? (encode label) = some label := by
  obtain ⟨text, hencode, hdigits, hread⟩ := exists_encode_eq label
  have hsplit : splitEncoded (encode label) = (label.filter isAscii, text) := by
    rw [hencode]
    cases hbasic : label.filter isAscii with
    | nil => exact splitEncoded_digits hdigits
    | cons c basic =>
        have happend := splitEncoded_append (List.cons_ne_nil c basic) hdigits
        rw [List.append_cons] at happend
        exact happend
  rw [decode?, hsplit]
  exact hread

example : encode "bücher".toList = "bcher-kva".toList ∧
    decode? "bcher-kva".toList = some "bücher".toList := by
  decide +kernel

end DebugBridge.Url.Punycode
