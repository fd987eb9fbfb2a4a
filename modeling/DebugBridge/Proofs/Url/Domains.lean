import DebugBridge.Proofs.Text.Composition
import DebugBridge.Proofs.Url.Parts
import DebugBridge.Proofs.Url.Percent
import DebugBridge.Proofs.Url.Punycode

/-!
# Domains read back

However a domain was spelled, its form in ASCII is a spelling of it as well: the characters in it
stand for themselves, there is nothing to compose, and what is behind the mark of a label is read as
the label that was written there.
-/

namespace DebugBridge.Url

/-! ## Characters -/

/-- A character that a domain keeps as it is. -/
structure InDomain (c : Char) : Prop where
  ascii : c.toNat < 128
  allowed : isForbiddenInDomain c = false
  lower : c.toLower = c

instance (c : Char) : Decidable (InDomain c) :=
  decidable_of_iff (c.toNat < 128 ∧ isForbiddenInDomain c = false ∧ c.toLower = c)
    ⟨fun ⟨h, h', h''⟩ => ⟨h, h', h''⟩, fun ⟨h, h', h''⟩ => ⟨h, h', h''⟩⟩

/-- A domain does not hold what ends it or its authority, or would be decoded. -/
theorem InDomain.plain {c : Char} (hc : InDomain c) :
    0x20 < c.toNat ∧ c ∉ "%#/:?@[\\]".toList := by
  refine of_ascii (fun c => isForbiddenInDomain c = false →
    0x20 < c.toNat ∧ c ∉ "%#/:?@[\\]".toList) ?_ hc.ascii hc.allowed
  decide +kernel

/-! ## Full stops -/

theorem joinDots_eq_intercalate (labels : List (List Char)) :
    joinDots labels = ['.'].intercalate labels := by
  induction labels with
  | nil => rfl
  | cons label labels ih =>
      cases labels with
      | nil => rw [joinDots, List.intercalate_singleton]
      | cons next labels =>
          rw [List.intercalate_cons_cons, ← ih, List.append_assoc]
          rfl

theorem joinDots_dotParts (text : List Char) : joinDots (dotParts text) = text := by
  rw [joinDots_eq_intercalate, dotParts, splitAt_eq_splitOnP]
  exact List.intercalate_splitOn '.'

theorem dotParts_joinDots {labels : List (List Char)} (hsome : labels ≠ [])
    (hlabels : ∀ label ∈ labels, '.' ∉ label) : dotParts (joinDots labels) = labels := by
  rw [joinDots_eq_intercalate, dotParts, splitAt_eq_splitOnP]
  exact List.splitOn_intercalate '.' hlabels hsome

theorem mem_joinDots {labels : List (List Char)} {c : Char} (hc : c ∈ joinDots labels) :
    c = '.' ∨ ∃ label ∈ labels, c ∈ label := by
  induction labels with
  | nil => cases hc
  | cons label labels ih =>
      cases labels with
      | nil => exact .inr ⟨label, List.mem_cons_self, hc⟩
      | cons next labels =>
          rcases List.mem_append.mp hc with hc | hc
          · exact .inr ⟨label, List.mem_cons_self, hc⟩
          · rcases List.mem_cons.mp hc with rfl | hc
            · exact .inl rfl
            · obtain hdot | ⟨other, hother, hc⟩ := ih hc
              · exact .inl hdot
              · exact .inr ⟨other, List.mem_cons_of_mem _ hother, hc⟩

/-! ## Labels -/

/-- A character of a label in ASCII. -/
structure InLabel (c : Char) : Prop where
  ascii : c.toNat < 128
  lower : c.toLower = c
  ne_dot : c ≠ '.'

instance (c : Char) : Decidable (InLabel c) :=
  decidable_of_iff (c.toNat < 128 ∧ c.toLower = c ∧ c ≠ '.')
    ⟨fun ⟨h, h', h''⟩ => ⟨h, h', h''⟩, fun ⟨h, h', h''⟩ => ⟨h, h', h''⟩⟩

theorem inLabel_of_isDigit {c : Char} (hc : Punycode.IsDigit c) : InLabel c := by
  have hall : ∀ n < 36, InLabel (Punycode.digit n) := by decide +kernel
  obtain ⟨n, hn, rfl⟩ := hc
  exact hall n hn

section Label

variable {label : List Char}

/-- The characters of a label stand for themselves, and it does not pass for another. -/
theorem of_isLabel (hlabel : isLabel label = true) :
    punycodeMark.isPrefixOf label = false ∧ '.' ∉ label ∧
    ∀ c ∈ label, domainChar? c = some [c] := by
  simp only [isLabel, Bool.and_eq_true, Bool.not_eq_true'] at hlabel
  obtain ⟨⟨⟨⟨⟨-, hmark⟩, hdot⟩, -⟩, hchars⟩, -⟩ := hlabel
  refine ⟨hmark, ?_, fun c hc => eq_of_beq (List.all_eq_true.mp hchars c hc)⟩
  exact fun hmem => Bool.false_ne_true (hdot ▸ List.contains_iff_mem.mpr hmem)

theorem inLabel_of_isLabel (hlabel : isLabel label = true) {c : Char} (hc : c ∈ label)
    (hascii : Punycode.isAscii c = true) : InLabel c := by
  obtain ⟨-, hdot, hchars⟩ := of_isLabel hlabel
  have hless : c.toNat < 128 := of_decide_eq_true hascii
  have hself := hchars c hc
  rw [domainChar?, if_pos hless] at hself
  exact ⟨hless, List.singleton_inj.mp (Option.some.inj hself), fun hsame => hdot (hsame ▸ hc)⟩

theorem inLabel_asciiLabel (hlabel : isLabel label = true) :
    ∀ c ∈ asciiLabel label, InLabel c := by
  unfold asciiLabel
  split
  · next hascii =>
      exact fun c hc => inLabel_of_isLabel hlabel hc (List.all_eq_true.mp hascii c hc)
  · refine List.forall_mem_append.mpr ⟨List.all_iff_forall_prop.mp (by decide +kernel), ?_⟩
    intro c hc
    obtain ⟨hc, hascii⟩ | rfl | hdigit := Punycode.mem_encode hc
    · exact inLabel_of_isLabel hlabel hc hascii
    · decide +kernel
    · exact inLabel_of_isDigit hdigit

/-- A label is read from its form in ASCII. -/
theorem readLabel?_asciiLabel (hlabel : isLabel label = true) :
    readLabel? (asciiLabel label) = some label := by
  have hmark := (of_isLabel hlabel).1
  have hchars : (asciiLabel label).all Punycode.isAscii = true :=
    List.all_eq_true.mpr fun c hc => decide_eq_true (inLabel_asciiLabel hlabel c hc).ascii
  unfold asciiLabel at hchars ⊢
  split
  · rw [readLabel?, if_neg (Bool.eq_false_iff.mp hmark), if_pos hlabel]
  · next hbeyond =>
      have hprefix : punycodeMark.isPrefixOf (punycodeMark ++ Punycode.encode label) = true :=
        List.isPrefixOf_iff_prefix.mpr (List.prefix_append _ _)
      rw [if_neg hbeyond] at hchars
      rw [readLabel?, if_pos hprefix, if_pos hchars, List.drop_left, Punycode.decode?_encode,
        Option.filter_some, if_pos]
      rw [hlabel, Bool.eq_false_iff.mpr hbeyond]
      rfl

/-- Whatever a label was read of, it is one. -/
theorem isLabel_of_readLabel? {text : List Char} (hread : readLabel? text = some label) :
    isLabel label = true := by
  unfold readLabel? at hread
  split at hread
  · split at hread
    · exact (Bool.and_eq_true_iff.mp (Option.filter_eq_some_iff.mp hread).2).2
    · cases hread
  · split at hread
    · next hlabel => exact Option.some.inj hread ▸ hlabel
    · cases hread

end Label

/-- The labels of a domain. -/
structure AreLabels (labels : List (List Char)) : Prop where
  ne_nil : labels ≠ []
  each : ∀ label ∈ labels, isLabel label = true
  directed : (labels.any hasRightToLeft && !labels.all keepsDirection) = false

section Labels

variable {labels : List (List Char)}

theorem areLabels_of_readLabels? {text : List Char} (hread : readLabels? text = some labels) :
    AreLabels labels := by
  obtain ⟨replaced, -, hread⟩ := Option.bind_eq_some_iff.mp hread
  obtain ⟨found, hfound, hread⟩ := Option.bind_eq_some_iff.mp hread
  split at hread
  · cases hread
  · next hdirected =>
      cases hread
      obtain ⟨hlength, hall⟩ := of_mapM hfound
      refine ⟨fun hnone => ?_, fun label hlabel => ?_, Bool.eq_false_iff.mpr hdirected⟩
      · rw [hnone, List.length_nil, eq_comm, List.length_eq_zero_iff] at hlength
        exact splitAt_ne_nil _ hlength
      · obtain ⟨part, hpart⟩ := hall label hlabel
        exact isLabel_of_readLabel? hpart

theorem AreLabels.ascii_lower (hlabels : AreLabels labels) :
    ∀ c ∈ joinDots (labels.map asciiLabel), c.toNat < 128 ∧ c.toLower = c := by
  intro c hc
  obtain rfl | ⟨text, htext, hc⟩ := mem_joinDots hc
  · decide +kernel
  · obtain ⟨label, hlabel, rfl⟩ := List.mem_map.mp htext
    have hchar := inLabel_asciiLabel (hlabels.each label hlabel) c hc
    exact ⟨hchar.ascii, hchar.lower⟩

/-- The labels of a domain are read from its form in ASCII. -/
theorem AreLabels.readLabels?_joinDots (hlabels : AreLabels labels) :
    readLabels? (joinDots (labels.map asciiLabel)) = some labels := by
  have hdots : dotParts (joinDots (labels.map asciiLabel)) = labels.map asciiLabel := by
    refine dotParts_joinDots (fun hnone => hlabels.ne_nil (List.map_eq_nil_iff.mp hnone)) ?_
    intro text htext hmem
    obtain ⟨label, hlabel, rfl⟩ := List.mem_map.mp htext
    exact (inLabel_asciiLabel (hlabels.each label hlabel) '.' hmem).ne_dot rfl
  have hread : (labels.map asciiLabel).mapM readLabel? = some labels := by
    rw [List.mapM_map]
    have heach : labels.mapM (readLabel? ∘ asciiLabel) = some (labels.map id) :=
      mapM_of_read fun label hlabel => readLabel?_asciiLabel (hlabels.each label hlabel)
    rw [heach, List.map_id]
  have hchars := hlabels.ascii_lower
  -- From here on the text is any in ASCII and lower case that has these parts.
  generalize joinDots (labels.map asciiLabel) = text at hdots hchars
  have hself : text.mapM domainChar? = some (text.map fun c => [c]) :=
    mapM_of_read fun c hc => by rw [domainChar?, if_pos (hchars c hc).1, (hchars c hc).2]
  have hwhole : (text.map fun c => [c]).flatten = text := by
    rw [← List.flatMap_def, List.flatMap_singleton']
  rw [readLabels?, hself, Option.bind_eq_bind, Option.bind_some, hwhole,
    Text.composed_of_ascii fun c hc => (hchars c hc).1, hdots, hread, Option.bind_some]
  exact if_neg (Bool.eq_false_iff.mp hlabels.directed)

/-- A domain that was made of any text is the form of the labels in it. -/
theorem exists_of_asciiDomain? {text : String} {domain : List Char}
    (hdomain : asciiDomain? text = some domain) :
    ∃ labels, AreLabels labels ∧ joinDots (labels.map asciiLabel) = domain ∧
      ∀ c ∈ domain, isForbiddenInDomain c = false := by
  obtain ⟨hdomain, hallowed⟩ := Option.filter_eq_some_iff.mp hdomain
  obtain ⟨labels, hlabels, rfl⟩ := Option.map_eq_some_iff.mp hdomain
  refine ⟨labels, areLabels_of_readLabels? hlabels, rfl, fun c hc => ?_⟩
  rw [Bool.not_eq_true', List.any_eq_false] at hallowed
  exact Bool.eq_false_iff.mpr (hallowed c hc)

theorem AreLabels.asciiDomain?_joinDots (hlabels : AreLabels labels)
    (hallowed : ∀ c ∈ joinDots (labels.map asciiLabel), isForbiddenInDomain c = false) :
    asciiDomain? (String.ofList (joinDots (labels.map asciiLabel))) =
      some (joinDots (labels.map asciiLabel)) := by
  rw [asciiDomain?, String.toList_ofList, hlabels.readLabels?_joinDots, Option.map_some,
    Option.filter_some, if_pos]
  rw [Bool.not_eq_true', List.any_eq_false]
  exact fun c hc => Bool.eq_false_iff.mp (hallowed c hc)

end Labels

/-! ## Domains -/

/-- A domain is in ASCII and lower case. -/
theorem inDomain_of_asciiDomain? {text : String} {domain : List Char}
    (hdomain : asciiDomain? text = some domain) : ∀ c ∈ domain, InDomain c := by
  obtain ⟨labels, hlabels, rfl, hallowed⟩ := exists_of_asciiDomain? hdomain
  intro c hc
  obtain ⟨hascii, hlower⟩ := hlabels.ascii_lower c hc
  exact ⟨hascii, hallowed c hc, hlower⟩

/-- A domain is its own. -/
theorem asciiDomain?_of_asciiDomain? {text : String} {domain : List Char}
    (hdomain : asciiDomain? text = some domain) :
    asciiDomain? (String.ofList domain) = some domain := by
  obtain ⟨labels, hlabels, rfl, hallowed⟩ := exists_of_asciiDomain? hdomain
  exact hlabels.asciiDomain?_joinDots hallowed

section Plain

variable {text : List Char}

theorem joinersFit_of_ascii (htext : ∀ c ∈ text, c.toNat < 128) (before : List Char) :
    joinersFit before text = true := by
  induction text generalizing before with
  | nil => rfl
  | cons c text ih =>
      obtain ⟨hc, htext⟩ := List.forall_mem_cons.mp htext
      have hapart : c ≠ '\u200c' := fun hsame => absurd (hsame ▸ hc) (by decide)
      have hjoin : c ≠ '\u200d' := fun hsame => absurd (hsame ▸ hc) (by decide)
      rw [joinersFit, if_neg hapart, if_neg hjoin, ih htext]
      rfl

theorem hasRightToLeft_of_ascii (htext : ∀ c ∈ text, c.toNat < 128) :
    hasRightToLeft text = false := by
  refine List.any_eq_false.mpr fun c hc => Bool.eq_false_iff.mp ?_
  rw [direction, if_pos (htext c hc)]
  fun_cases asciiDirection c <;> rfl

/-- Without a hyphen a text does not pass for another. -/
theorem isLabel_of_inLabel (htext : ∀ c ∈ text, InLabel c) (hhyphen : '-' ∉ text) :
    isLabel text = true := by
  have hascii : ∀ c ∈ text, c.toNat < 128 := fun c hc => (htext c hc).ascii
  have hmark : punycodeMark.isPrefixOf text = false :=
    Bool.eq_false_iff.mpr fun hprefix =>
      hhyphen ((List.isPrefixOf_iff_prefix.mp hprefix).subset (by decide))
  have hdot : text.contains '.' = false :=
    Bool.eq_false_iff.mpr fun hmem => (htext '.' (List.contains_iff_mem.mp hmem)).ne_dot rfl
  have hfirst : text.head?.any isMark = false := by
    refine (Option.any_eq_false _ _).mpr fun c hc => ?_
    have hless := hascii c (List.mem_of_mem_head? hc)
    rw [isMark, decide_eq_false (Nat.not_le.mpr hless), Bool.false_and]
  have hchars : text.all isDomainChar = true := by
    refine List.all_eq_true.mpr fun c hc => ?_
    rw [isDomainChar, domainChar?, if_pos (hascii c hc), (htext c hc).lower]
    exact beq_self_eq_true _
  rw [isLabel, Text.composed_of_ascii hascii, beq_self_eq_true, hmark, hdot, hfirst, hchars,
    joinersFit_of_ascii hascii]
  rfl

/-- Without a hyphen, a text whose characters are kept is a domain as it is. -/
theorem asciiDomain?_of_inDomain (htext : ∀ c ∈ text, InDomain c) (hhyphen : '-' ∉ text) :
    asciiDomain? (String.ofList text) = some text := by
  have hparts : ∀ label ∈ dotParts text, ∀ c ∈ label, InLabel c ∧ c ≠ '-' := by
    intro label hlabel c hc
    obtain ⟨hmem, hdot⟩ := mem_of_mem_splitAt hlabel c hc
    have hchar := htext c hmem
    exact ⟨⟨hchar.ascii, hchar.lower, beq_eq_false_iff_ne.mp hdot⟩, fun hsame =>
      hhyphen (hsame ▸ hmem)⟩
  have hlabels : AreLabels (dotParts text) := by
    refine ⟨splitAt_ne_nil text, fun label hlabel => ?_, ?_⟩
    · exact isLabel_of_inLabel (fun c hc => (hparts label hlabel c hc).1) fun hc =>
        (hparts label hlabel '-' hc).2 rfl
    · have hnone : (dotParts text).any hasRightToLeft = false :=
        List.any_eq_false.mpr fun label hlabel => Bool.eq_false_iff.mp
          (hasRightToLeft_of_ascii fun c hc => (hparts label hlabel c hc).1.ascii)
      rw [hnone, Bool.false_and]
  have hself : (dotParts text).map asciiLabel = dotParts text := by
    refine (List.map_congr_left fun label hlabel => if_pos ?_).trans (List.map_id _)
    exact List.all_eq_true.mpr fun c hc => decide_eq_true (hparts label hlabel c hc).1.ascii
  have hdomain := hlabels.asciiDomain?_joinDots
  rw [hself, joinDots_dotParts] at hdomain
  exact hdomain fun c hc => (htext c hc).allowed

end Plain

end DebugBridge.Url
