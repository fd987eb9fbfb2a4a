import DebugBridge.Text.Lowercase

/-!
# Lower case and slashes

A text in lower case stays as it is.  Slashes and dots come from themselves only, and a slash ends a
word, so that the parts of a path are lowered each on its own.
-/

namespace DebugBridge.Text

/-! ## The table -/

/-- An entry of the table moves the code point. -/
def Moves (entry : Nat × Nat × Nat × Int) (code : Nat) : Prop :=
  entry.1 ≤ code ∧ code ≤ entry.2.1 ∧ (code - entry.1) % entry.2.2.1 = 0

/-- An entry moves nothing between two code points, or from every other one only.  The kernel
compares natural numbers fastest. -/
def keepsOff (first last : Nat) (sparse : Bool) (other : Nat × Nat × Nat × Int) : Bool :=
  Nat.blt last other.1 || Nat.blt other.2.1 first ||
    (sparse && Nat.beq other.2.2.1 2 && Nat.beq ((first + other.1) % 2) 1)

/-- Where the first entry moves to, the second does not move on. -/
def apart (entry other : Nat × Nat × Nat × Int) : Bool :=
  keepsOff (entry.1 + entry.2.2.2).toNat (entry.2.1 + entry.2.2.2).toNat
    (Nat.beq entry.1 entry.2.1 || Nat.beq entry.2.2.1 2) other

/-- The entry is for letters that are lowered by themselves, or moves to the letter `k`, or to
characters that nothing special is said of. -/
def Lands (entry : Nat × Nat × Nat × Int) : Prop :=
  entry.2.1 < 128 ∨
  (entry.1 + entry.2.2.2 = 0x6b ∧ entry.2.1 + entry.2.2.2 = 0x6b) ∨
  (128 ≤ entry.1 + entry.2.2.2 ∧
    (entry.2.1 + entry.2.2.2 < 0xd800 ∨
      0xdfff < entry.1 + entry.2.2.2 ∧ entry.2.1 + entry.2.2.2 < 0x110000) ∧
    (entry.2.1 + entry.2.2.2 < 0x130 ∨ 0x130 < entry.1 + entry.2.2.2) ∧
    (entry.2.1 + entry.2.2.2 < 0x3a3 ∨ 0x3a3 < entry.1 + entry.2.2.2))

instance (entry : Nat × Nat × Nat × Int) : Decidable (Lands entry) :=
  inferInstanceAs (Decidable (_ ∨ _))

theorem all_apart :
    lowerCaseShifts.all (fun entry => lowerCaseShifts.all (apart entry)) = true := by
  decide +kernel

theorem lands_of_mem : ∀ entry ∈ lowerCaseShifts, Lands entry := by
  decide +kernel

section Table

variable {entry other : Nat × Nat × Nat × Int} {code : Nat}

theorem not_moves_of_apart (hapart : apart entry other = true) (hmoves : Moves entry code)
    {target : Nat} (htarget : (target : Int) = code + entry.2.2.2)
    (hfloor : 0 ≤ entry.1 + entry.2.2.2) : ¬ Moves other target := by
  obtain ⟨first, last, stride, shift⟩ := entry
  obtain ⟨first', last', stride', shift'⟩ := other
  simp only [apart, keepsOff, Moves, Bool.or_eq_true, Bool.and_eq_true, Nat.blt_eq, Nat.beq_eq]
    at *
  obtain ⟨hfirst, hlast, hstride⟩ := hmoves
  rintro ⟨hfirst', hlast', hstride'⟩
  rcases hapart with (hbelow | habove) | ⟨⟨hsingle | rfl, rfl⟩, hodd⟩ <;> omega

/-- Beyond the letters that are lowered by themselves, an entry moves to where nothing moves on. -/
theorem exists_target (hentry : Lands entry) (hmoves : Moves entry code) (hlarge : 128 ≤ code) :
    0 ≤ entry.1 + entry.2.2.2 ∧ ∃ target : Nat, (target : Int) = code + entry.2.2.2 ∧
      (target = 0x6b ∨
        128 ≤ target ∧ target.isValidChar ∧ target ≠ 0x130 ∧ target ≠ 0x3a3) := by
  obtain ⟨first, last, stride, shift⟩ := entry
  simp only [Lands, Moves] at *
  refine ⟨by omega, (code + shift).toNat, by omega, ?_⟩
  simp only [Nat.isValidChar]
  omega

theorem lowerCaseShift_eq (code : Nat) :
    (∀ entry ∈ lowerCaseShifts, ¬ Moves entry code) ∧ lowerCaseShift code = 0 ∨
      ∃ entry ∈ lowerCaseShifts, Moves entry code ∧ lowerCaseShift code = entry.2.2.2 := by
  unfold lowerCaseShift
  split
  · next entry hfound =>
      refine .inr ⟨entry, List.mem_of_find?_eq_some hfound, ?_, rfl⟩
      simpa [Moves, and_assoc] using List.find?_some hfound
  · next hnone =>
      refine .inl ⟨fun entry hentry => ?_, rfl⟩
      simpa [Moves, and_assoc] using List.find?_eq_none.mp hnone entry hentry

theorem lowerCaseShift_of_moved (hentry : entry ∈ lowerCaseShifts) (hmoves : Moves entry code)
    {target : Nat} (htarget : (target : Int) = code + entry.2.2.2)
    (hfloor : 0 ≤ entry.1 + entry.2.2.2) : lowerCaseShift target = 0 := by
  rcases lowerCaseShift_eq target with ⟨-, hzero⟩ | ⟨other, hother, hon, -⟩
  · exact hzero
  · have hapart : apart entry other = true :=
      List.all_eq_true.mp (List.all_eq_true.mp all_apart entry hentry) other hother
    exact absurd hon (not_moves_of_apart hapart hmoves htarget hfloor)

end Table

/-! ## Characters -/

/-- The character is its own lower case. -/
structure Settled (c : Char) : Prop where
  notSigma : c ≠ 'Σ'
  fixed : lowerChar c = [c]

instance (c : Char) : Decidable (Settled c) :=
  decidable_of_iff (c ≠ 'Σ' ∧ lowerChar c = [c]) ⟨fun ⟨h, h'⟩ => ⟨h, h'⟩, fun ⟨h, h'⟩ => ⟨h, h'⟩⟩

/-- Characters that the shape of a path depends on. -/
def marks : List Char := ['/', '\\', '.']

/-- What the lower case of a character consists of. -/
structure Lowered (c : Char) (piece : List Char) : Prop where
  ne_nil : piece ≠ []
  settled : ∀ d ∈ piece, Settled d
  /-- Marks stay, and come from themselves. -/
  mark : ∀ d ∈ marks, d ∈ piece ↔ c = d
  single : c ∈ marks → piece = [c]

section Characters

variable {c : Char}

theorem lowered_ascii (hascii : c.toNat < 128) : Lowered c (lowerChar c) := by
  have hall : ∀ code < 128, Settled (Char.ofNat code).toLower ∧
      (marks.all fun d => decide ((Char.ofNat code).toLower = d ↔ Char.ofNat code = d)) = true := by
    decide +kernel
  obtain ⟨hsettled, hmarks⟩ := hall c.toNat hascii
  rw [Char.ofNat_toNat] at hsettled hmarks
  have hmark : ∀ d ∈ marks, c.toLower = d ↔ c = d := fun d hd =>
    of_decide_eq_true (List.all_eq_true.mp hmarks d hd)
  have hpiece : lowerChar c = [c.toLower] := if_pos hascii
  rw [hpiece]
  refine ⟨List.cons_ne_nil _ _, by simpa using hsettled, fun d hd => ?_, fun hc => ?_⟩
  · rw [List.mem_singleton, eq_comm]
    exact hmark d hd
  · rw [(hmark c hc).mpr rfl]

/-- What is not a mark is lowered to no mark. -/
theorem lowered_of_ne {piece : List Char} (hnil : piece ≠ []) (hsettled : ∀ d ∈ piece, Settled d)
    (hc : c ∉ marks) (hpiece : ∀ d ∈ piece, d ∉ marks) : Lowered c piece := by
  refine ⟨hnil, hsettled, fun d hd => ?_, fun hmark => absurd hmark hc⟩
  constructor
  · intro hmem
    exact absurd hd (hpiece d hmem)
  · rintro rfl
    exact absurd hd hc

theorem lowered_singleton {d : Char} (hsettled : Settled d) (hc : c ∉ marks) (hd : d ∉ marks) :
    Lowered c [d] :=
  lowered_of_ne (List.cons_ne_nil _ _) (List.forall_mem_singleton.mpr hsettled) hc
    (List.forall_mem_singleton.mpr hd)

theorem not_mark_of_large (hlarge : 128 ≤ c.toNat) : c ∉ marks := by
  intro hc
  simp only [marks, List.mem_cons, List.not_mem_nil, or_false] at hc
  rcases hc with rfl | rfl | rfl <;> revert hlarge <;> decide

theorem toNat_ofNat_of_valid {code : Nat} (hvalid : code.isValidChar) :
    (Char.ofNat code).toNat = code := by
  rw [Char.ofNat, dif_pos hvalid]
  rfl

/-- A character beyond the letters of the table is lowered to itself. -/
theorem settled_of_unshifted {d : Char} (hlarge : 128 ≤ d.toNat) (hdotted : d ≠ 'İ')
    (hsigma : d ≠ 'Σ') (hzero : lowerCaseShift d.toNat = 0) : Settled d := by
  refine ⟨hsigma, ?_⟩
  rw [lowerChar, if_neg (Nat.not_lt.mpr hlarge), if_neg hdotted, hzero, Int.add_zero,
    Int.toNat_natCast, Char.ofNat_toNat]

theorem not_mark_of_lower {d : Char} (hd : d = 'k' ∨ 128 ≤ d.toNat) : d ∉ marks := by
  rcases hd with rfl | hlarge
  · decide
  · exact not_mark_of_large hlarge

/-- What is not a letter of the ASCII range is lowered as the table has it. -/
theorem settled_shifted (hlarge : 128 ≤ c.toNat) (hdotted : c ≠ 'İ') (hsigma : c ≠ 'Σ') :
    ∃ d, Char.ofNat (c.toNat + lowerCaseShift c.toNat).toNat = d ∧ Settled d ∧
      (d = 'k' ∨ 128 ≤ d.toNat) := by
  rcases lowerCaseShift_eq c.toNat with ⟨-, hzero⟩ | ⟨entry, hentry, hmoves, hshift⟩
  · refine ⟨c, ?_, settled_of_unshifted hlarge hdotted hsigma hzero, .inr hlarge⟩
    rw [hzero, Int.add_zero, Int.toNat_natCast, Char.ofNat_toNat]
  · obtain ⟨hfloor, target, htarget, hlands⟩ :=
      exists_target (lands_of_mem entry hentry) hmoves hlarge
    have hcode : Char.ofNat (c.toNat + lowerCaseShift c.toNat).toNat = Char.ofNat target := by
      rw [hshift, ← htarget, Int.toNat_natCast]
    refine ⟨Char.ofNat target, hcode, ?_⟩
    rcases hlands with rfl | ⟨hbeyond, hvalid, hnotDotted, hnotSigma⟩
    · exact ⟨by decide +kernel, .inl rfl⟩
    · have hnat := toNat_ofNat_of_valid hvalid
      have hlargeToo : 128 ≤ (Char.ofNat target).toNat := by rw [hnat]; exact hbeyond
      refine ⟨settled_of_unshifted hlargeToo ?_ ?_ ?_, .inr hlargeToo⟩
      · intro heq
        rw [heq] at hnat
        exact hnotDotted hnat.symm
      · intro heq
        rw [heq] at hnat
        exact hnotSigma hnat.symm
      · rw [hnat]
        exact lowerCaseShift_of_moved hentry hmoves htarget hfloor

theorem lowered_lowerChar (hsigma : c ≠ 'Σ') : Lowered c (lowerChar c) := by
  by_cases hascii : c.toNat < 128
  · exact lowered_ascii hascii
  · have hlarge := Nat.not_lt.mp hascii
    have hc := not_mark_of_large hlarge
    by_cases hdotted : c = 'İ'
    · subst hdotted
      have hpiece : lowerChar 'İ' = ['i', Char.ofNat 0x307] := by decide +kernel
      rw [hpiece]
      refine lowered_of_ne (List.cons_ne_nil _ _) ?_ hc ?_ <;>
        exact List.forall_mem_cons.mpr ⟨by decide +kernel,
          List.forall_mem_singleton.mpr (by decide +kernel)⟩
    · obtain ⟨d, hd, hsettled, hplace⟩ := settled_shifted hlarge hdotted hsigma
      have hpiece : lowerChar c = [d] := by rw [lowerChar, if_neg hascii, if_neg hdotted, hd]
      rw [hpiece]
      exact lowered_singleton hsettled hc (not_mark_of_lower hplace)

end Characters

/-! ## Texts -/

section Texts

variable {before cs : List Char}

/-- The first character of a text is lowered to a piece of its own. -/
theorem lowerAfter_cons (before : List Char) (c : Char) (rest : List Char) :
    ∃ piece, Lowered c piece ∧
      lowerAfter before (c :: rest) = piece ++ lowerAfter (c :: before) rest := by
  by_cases hsigma : c = 'Σ'
  · subst hsigma
    by_cases hfinal : (meetsCased before && !meetsCased rest) = true
    · refine ⟨['ς'], ?_, by rw [lowerAfter, if_pos rfl, if_pos hfinal]⟩
      exact lowered_singleton (by decide +kernel) (by decide) (by decide)
    · refine ⟨['σ'], ?_, by rw [lowerAfter, if_pos rfl, if_neg hfinal]⟩
      exact lowered_singleton (by decide +kernel) (by decide) (by decide)
  · exact ⟨lowerChar c, lowered_lowerChar hsigma, by rw [lowerAfter, if_neg hsigma]⟩

theorem settled_of_mem_lowerAfter (before cs : List Char) :
    ∀ d ∈ lowerAfter before cs, Settled d := by
  induction cs generalizing before with
  | nil =>
      intro d hd
      cases hd
  | cons c rest ih =>
      obtain ⟨piece, hpiece, hlower⟩ := lowerAfter_cons before c rest
      rw [hlower]
      intro d hd
      rcases List.mem_append.mp hd with hd | hd
      · exact hpiece.settled d hd
      · exact ih (c :: before) d hd

/-- A text in lower case stays as it is. -/
theorem lowerAfter_of_settled (before : List Char) (hsettled : ∀ c ∈ cs, Settled c) :
    lowerAfter before cs = cs := by
  induction cs generalizing before with
  | nil => rfl
  | cons c rest ih =>
      have hc := hsettled c List.mem_cons_self
      have hrest := ih (c :: before) fun d hd => hsettled d (List.mem_cons_of_mem _ hd)
      rw [lowerAfter, if_neg hc.notSigma, hc.fixed, hrest]
      rfl

theorem mark_mem_lowerAfter_iff (before : List Char) {d : Char} (hd : d ∈ marks) :
    d ∈ lowerAfter before cs ↔ d ∈ cs := by
  induction cs generalizing before with
  | nil => rfl
  | cons c rest ih =>
      obtain ⟨piece, hpiece, hlower⟩ := lowerAfter_cons before c rest
      rw [hlower, List.mem_append, hpiece.mark d hd, ih, List.mem_cons, eq_comm]

theorem lowerAfter_eq_nil_iff : lowerAfter before cs = [] ↔ cs = [] := by
  cases cs with
  | nil => simp [lowerAfter]
  | cons c rest =>
      obtain ⟨piece, hpiece, hlower⟩ := lowerAfter_cons before c rest
      simp [hlower, hpiece.ne_nil]

/-- A text that is lowered to marks is of marks itself. -/
theorem eq_of_lowerAfter_marks (hmarks : ∀ d ∈ lowerAfter before cs, d ∈ marks) :
    lowerAfter before cs = cs := by
  induction cs generalizing before with
  | nil => rfl
  | cons c rest ih =>
      obtain ⟨piece, hpiece, hlower⟩ := lowerAfter_cons before c rest
      rw [hlower] at hmarks ⊢
      obtain ⟨d, others, hcons⟩ := List.exists_cons_of_ne_nil hpiece.ne_nil
      have hd : d ∈ marks := hmarks d (List.mem_append_left _ (hcons ▸ List.mem_cons_self))
      have hc : c = d := (hpiece.mark d hd).mp (hcons ▸ List.mem_cons_self)
      rw [hpiece.single (hc ▸ hd), ih fun d hd => hmarks d (List.mem_append_right _ hd)]
      rfl

/-! ## Slashes end words -/

theorem meetsCased_append_slash (front rest : List Char) :
    meetsCased (front ++ '/' :: rest) = meetsCased front := by
  have hslash : isCaseIgnorable '/' = false := by decide +kernel
  have hcased : isCased '/' = false := by decide +kernel
  unfold meetsCased
  induction front with
  | nil => simp [hslash, hcased]
  | cons c front ih =>
      by_cases hignored : isCaseIgnorable c = true
      · simpa [hignored] using ih
      · simp [hignored]

/-- What comes before a slash does not matter behind it. -/
theorem lowerAfter_behind_slash (front before rest : List Char) :
    lowerAfter (front ++ '/' :: before) rest = lowerAfter front rest := by
  induction rest generalizing front with
  | nil => rfl
  | cons c rest ih =>
      have hnext := ih (c :: front)
      rw [List.cons_append] at hnext
      rw [lowerAfter, lowerAfter, meetsCased_append_slash, hnext]

/-- The parts of a text at a slash are lowered on their own. -/
theorem lowerAfter_append_slash (before front rest : List Char) :
    lowerAfter before (front ++ '/' :: rest) =
      lowerAfter before front ++ '/' :: lowerAfter [] rest := by
  induction front generalizing before with
  | nil =>
      have hslash : lowerChar '/' = ['/'] := by decide
      have hsigma : '/' ≠ 'Σ' := by decide
      have hrest := lowerAfter_behind_slash [] before rest
      rw [List.nil_append] at hrest
      simp only [List.nil_append, lowerAfter, if_neg hsigma, hslash, hrest]
      rfl
  | cons c front ih =>
      rw [List.cons_append, lowerAfter, lowerAfter, meetsCased_append_slash, ih, List.append_assoc]

end Texts

/-! ## ASCII letters -/

section AsciiLetters

variable {c : Char}

/-- What holds of each capital letter of the ASCII range and its lower case, holds of every
character and its lower case in that range. -/
theorem toLower_forall {p : Char → Char → Prop} (hsame : ∀ c, p c c)
    (hcapital : ∀ place < 26, p (Char.ofNat (65 + place)).toLower (Char.ofNat (65 + place)))
    (c : Char) : p c.toLower c := by
  by_cases hletter : c.val ≥ 'A'.val ∧ c.val ≤ 'Z'.val
  · have hfirst : 65 ≤ c.toNat := hletter.1
    have hlast : c.toNat ≤ 90 := hletter.2
    have hp := hcapital (c.toNat - 65) (by omega)
    rwa [Nat.add_sub_cancel' hfirst, Char.ofNat_toNat] at hp
  · have hkept : c.toLower = c := dif_neg hletter
    rw [hkept]
    exact hsame c

/-- Two characters are alike in all that a text in lower case depends on. -/
def SameCase (d c : Char) : Prop :=
  isCased d = isCased c ∧ isCaseIgnorable d = isCaseIgnorable c ∧ lowerChar d = lowerChar c ∧
    (d = 'Σ' ↔ c = 'Σ')

instance (d c : Char) : Decidable (SameCase d c) := inferInstanceAs (Decidable (_ ∧ _))

theorem sameCase_toLower (c : Char) : SameCase c.toLower c :=
  toLower_forall (fun _ => ⟨rfl, rfl, rfl, Iff.rfl⟩) (by decide +kernel) c

theorem meetsCased_map_toLower (cs : List Char) :
    meetsCased (cs.map Char.toLower) = meetsCased cs := by
  induction cs with
  | nil => rfl
  | cons c rest ih =>
      obtain ⟨hcased, hignorable, -, -⟩ := sameCase_toLower c
      unfold meetsCased at ih ⊢
      rw [List.map_cons, List.dropWhile_cons, List.dropWhile_cons, hignorable]
      cases isCaseIgnorable c with
      | true => exact ih
      | false => exact hcased

/-- The case of ASCII letters does not matter. -/
theorem lowerAfter_map_toLower (before cs : List Char) :
    lowerAfter (before.map Char.toLower) (cs.map Char.toLower) = lowerAfter before cs := by
  induction cs generalizing before with
  | nil => rfl
  | cons c rest ih =>
      obtain ⟨-, -, hlower, hsigma⟩ := sameCase_toLower c
      have hnext := ih (c :: before)
      rw [List.map_cons] at hnext
      rw [List.map_cons, lowerAfter, lowerAfter, meetsCased_map_toLower, meetsCased_map_toLower,
        hlower, hnext]
      simp only [hsigma]

end AsciiLetters

end DebugBridge.Text
