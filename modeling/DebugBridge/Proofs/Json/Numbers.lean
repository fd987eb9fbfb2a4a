import DebugBridge.Proofs.Json.Strings

/-!
# Numbers read back

Where the text of a number ends is plain from what follows it, and what is read does not depend on
that.  An integer of 64 bits is read back as itself; any other number is read back as whatever its
decimal comes to.
-/

namespace DebugBridge.Json

open Text

/-- What can follow a value inside a text: nothing, a comma or a closing bracket. -/
def Ends (rest : List UInt8) : Prop :=
  ∀ b tail, rest = b :: tail → b = comma ∨ b = closeBracket ∨ b = closeBrace

theorem ends_nil : Ends [] := by
  intro b tail hrest
  cases hrest

/-- The reader takes the text whole, and what it makes of it does not depend on what follows. -/
def Lexes {α : Type} (reader : List UInt8 → Result α) (text : List UInt8) : Prop :=
  ∃ read : Option α, ∀ rest, Ends rest →
    (reader (text ++ rest)).toOption = read.map fun value => (value, rest)

section Lexes

variable {α : Type} {reader : List UInt8 → Result α} {text rest left : List UInt8} {value : α}

theorem Lexes.of_ok (hlexes : Lexes reader text) (hrest : Ends rest)
    (hread : reader (text ++ rest) = .ok (value, left)) :
    left = rest ∧ reader text = .ok (value, []) := by
  obtain ⟨read, hreads⟩ := hlexes
  have hwhole := hreads rest hrest
  have halone := hreads [] ends_nil
  rw [hread] at hwhole
  cases read with
  | none => cases hwhole
  | some other =>
      cases hwhole
      refine ⟨rfl, ?_⟩
      rw [List.append_nil] at halone
      cases hresult : reader text with
      | error failure =>
          rw [hresult] at halone
          cases halone
      | ok result =>
          rw [hresult] at halone
          cases halone
          rfl

/-- A reader that does with a text what another does with a part of it. -/
theorem Lexes.of_same {before : List UInt8 → Result α} {whole : List UInt8}
    (hlexes : Lexes reader text)
    (hsame : ∀ rest, Ends rest → before (whole ++ rest) = reader (text ++ rest)) :
    Lexes before whole := by
  obtain ⟨read, hreads⟩ := hlexes
  exact ⟨read, fun rest hrest => by rw [hsame rest hrest, hreads rest hrest]⟩

/-- A reader that goes on from where another stops, without taking more. -/
theorem Lexes.andThen {β : Type} {first : List UInt8 → Result β} {next : β → List UInt8 → Result α}
    (hfirst : Lexes first text) (hnext : ∀ found, Lexes (next found) [])
    (hreader : ∀ input, reader input = match first input with
      | .error failure => .error failure
      | .ok (found, rest) => next found rest) : Lexes reader text := by
  obtain ⟨read, hreads⟩ := hfirst
  cases read with
  | none =>
      refine ⟨none, fun rest hrest => ?_⟩
      have hnone := hreads rest hrest
      rw [hreader]
      cases hresult : first (text ++ rest) with
      | error failure => rfl
      | ok result =>
          rw [hresult] at hnone
          cases hnone
  | some found =>
      obtain ⟨last, hlast⟩ := hnext found
      refine ⟨last, fun rest hrest => ?_⟩
      have hsome := hreads rest hrest
      rw [hreader]
      cases hresult : first (text ++ rest) with
      | error failure =>
          rw [hresult] at hsome
          cases hsome
      | ok result =>
          rw [hresult] at hsome
          cases hsome
          exact hlast rest hrest

theorem lexes_error
    (herror : ∀ rest, Ends rest → ∃ failure, reader (text ++ rest) = .error failure) :
    Lexes reader text := by
  refine ⟨none, fun rest hrest => ?_⟩
  obtain ⟨failure, hfailure⟩ := herror rest hrest
  rw [hfailure]
  rfl

end Lexes

/-! ## Digits -/

section Digits

variable {digits tail rest : List UInt8}

theorem Ends.not_digit (hrest : Ends rest) : ∀ b ∈ rest.head?, isDigit b = false := by
  intro b hb
  cases rest with
  | nil => cases hb
  | cons c tail =>
      cases hb
      rcases hrest b tail rfl with rfl | rfl | rfl <;> rfl

/-- The digits end where something else begins. -/
theorem takeWhile_digits (hdigits : ∀ b ∈ digits, isDigit b = true)
    (htail : ∀ b ∈ tail.head?, isDigit b = false) :
    (digits ++ tail).takeWhile isDigit = digits := by
  rw [List.takeWhile_append_of_pos hdigits]
  cases tail with
  | nil => simp
  | cons b tail => simp [htail b rfl]

theorem dropWhile_digits (hdigits : ∀ b ∈ digits, isDigit b = true)
    (htail : ∀ b ∈ tail.head?, isDigit b = false) :
    (digits ++ tail).dropWhile isDigit = tail := by
  rw [List.dropWhile_append_of_pos hdigits]
  cases tail with
  | nil => rfl
  | cons b tail => simp [htail b rfl]

end Digits

/-! ## Exponents and fractions -/

/-- What can stand behind the digits of a number. -/
inductive IsExponent : List UInt8 → Prop
  | none : IsExponent []
  | signed {mark : UInt8} {sign digits : List UInt8} (hmark : isExponentMark mark = true)
      (hsign : sign = [] ∨ sign = [0x2b] ∨ sign = [0x2d])
      (hdigits : ∀ b ∈ digits, isDigit b = true) : IsExponent (mark :: (sign ++ digits))

inductive IsFraction : List UInt8 → Prop
  | none : IsFraction []
  | pointed {digits : List UInt8} (hdigits : ∀ b ∈ digits, isDigit b = true) :
      IsFraction (0x2e :: digits)

/-- The text of a number without its sign. -/
inductive IsNumeral : List UInt8 → Prop
  | mk {digits fraction exponent : List UInt8} (hsome : digits ≠ [])
      (hdigits : ∀ b ∈ digits, isDigit b = true) (hfraction : IsFraction fraction)
      (hexponent : IsExponent exponent) : IsNumeral (digits ++ (fraction ++ exponent))

theorem Ends.head {rest : List UInt8} (hrest : Ends rest) {b : UInt8} (hb : b ∈ rest.head?) :
    isDigit b = false ∧ isExponentMark b = false ∧ b ≠ 0x2e ∧ b ≠ 0x2b ∧ b ≠ 0x2d := by
  cases rest with
  | nil => cases hb
  | cons c tail =>
      cases hb
      rcases hrest b tail rfl with rfl | rfl | rfl <;> decide

theorem not_digit_of_mark {b : UInt8} (hmark : isExponentMark b = true) : isDigit b = false := by
  rcases Bool.or_eq_true_iff.mp hmark with hb | hb
  · rw [beq_iff_eq.mp hb]
    rfl
  · rw [beq_iff_eq.mp hb]
    rfl

theorem IsExponent.not_digit {exponent rest : List UInt8} (hexponent : IsExponent exponent)
    (hrest : Ends rest) : ∀ b ∈ (exponent ++ rest).head?, isDigit b = false := by
  intro b hb
  cases hexponent with
  | none => exact (hrest.head hb).1
  | signed hmark hsign hdigits =>
      cases hb
      exact not_digit_of_mark hmark

section Numbers

variable (positive : Bool) (significand : Nat) (start : Int)

theorem lexes_readFloat : Lexes (readFloat positive significand start) [] := by
  refine ⟨(scale (.ofNat significand) start 4).map fun x =>
    .float (if positive then x else x.negate), fun rest _ => ?_⟩
  simp only [readFloat, List.nil_append]
  cases scale (.ofNat significand) start 4 <;> rfl

theorem lexes_readExponentDigits (zero positiveExponent : Bool) (exponent : Nat)
    {digits : List UInt8} (hdigits : ∀ b ∈ digits, isDigit b = true) :
    Lexes (readExponentDigits positive zero positiveExponent exponent) digits := by
  induction digits generalizing exponent with
  | nil =>
      refine ⟨some (some exponent), fun rest hrest => ?_⟩
      cases rest with
      | nil => rfl
      | cons b tail =>
          have hother := hrest.not_digit b rfl
          simp [readExponentDigits, hother, Except.toOption]
  | cons d digits ih =>
      obtain ⟨hd, hmore⟩ := List.forall_mem_cons.mp hdigits
      by_cases hfits : exponent * 10 + digitValue d < 0x80000000
      · refine (ih (exponent * 10 + digitValue d) hmore).of_same fun rest _ => ?_
        simp [readExponentDigits, hd, hfits]
      · by_cases hlarge : (!zero && positiveExponent) = true
        · refine lexes_error fun rest _ => ?_
          simp [readExponentDigits, hd, hfits, hlarge]
        · refine ⟨some none, fun rest hrest => ?_⟩
          simp [readExponentDigits, hd, hfits, hlarge, dropWhile_digits hmore hrest.not_digit,
            Except.toOption]

theorem readExponent_of_unsigned {input : List UInt8}
    (hunsigned : ∀ b ∈ input.head?, b ≠ 0x2b ∧ b ≠ 0x2d) :
    readExponent positive significand start input =
      readUnsignedExponent positive significand start true input := by
  unfold readExponent
  split
  · exact absurd rfl (hunsigned _ rfl).1
  · exact absurd rfl (hunsigned _ rfl).2
  · rfl

theorem lexes_readUnsignedExponent (positiveExponent : Bool) {digits : List UInt8}
    (hdigits : ∀ b ∈ digits, isDigit b = true) :
    Lexes (readUnsignedExponent positive significand start positiveExponent) digits := by
  cases digits with
  | nil =>
      refine lexes_error fun rest hrest => ?_
      cases rest with
      | nil => exact ⟨_, rfl⟩
      | cons b tail =>
          have hother := hrest.not_digit b rfl
          exact ⟨_, by rw [List.nil_append, readUnsignedExponent, hother]; rfl⟩
  | cons d digits =>
      obtain ⟨hd, hmore⟩ := List.forall_mem_cons.mp hdigits
      have hcontinues : ∀ found : Option Nat, Lexes (fun rest => match found with
          | none => .ok (.float (if positive then .zero else .negate .zero), rest)
          | some exponent => readFloat positive significand
              (if positiveExponent then start + exponent else start - exponent) rest) [] := by
        intro found
        cases found with
        | none => exact ⟨some _, fun rest _ => rfl⟩
        | some exponent => exact lexes_readFloat positive significand _
      have hafter := (lexes_readExponentDigits positive (significand == 0) positiveExponent
        (digitValue d) hmore).andThen hcontinues fun input => rfl
      refine hafter.of_same fun rest _ => ?_
      simp only [List.cons_append, readUnsignedExponent, hd]
      cases readExponentDigits positive (significand == 0) positiveExponent (digitValue d)
        (digits ++ rest) with
      | error failure => rfl
      | ok result =>
          obtain ⟨found, left⟩ := result
          cases found <;> rfl

theorem lexes_readExponent {sign digits : List UInt8}
    (hsign : sign = [] ∨ sign = [0x2b] ∨ sign = [0x2d])
    (hdigits : ∀ b ∈ digits, isDigit b = true) :
    Lexes (readExponent positive significand start) (sign ++ digits) := by
  rcases hsign with rfl | rfl | rfl
  · have hplain := lexes_readUnsignedExponent positive significand start true hdigits
    refine hplain.of_same fun rest hrest => readExponent_of_unsigned _ _ _ fun b hb => ?_
    cases digits with
    | nil =>
        cases rest with
        | nil => cases hb
        | cons c tail =>
            cases hb
            rcases hrest b tail rfl with rfl | rfl | rfl <;> decide
    | cons d digits =>
        cases hb
        have hd := hdigits b List.mem_cons_self
        constructor
        · rintro rfl
          cases hd
        · rintro rfl
          cases hd
  · exact (lexes_readUnsignedExponent positive significand start true hdigits).of_same
      fun _ _ => rfl
  · exact (lexes_readUnsignedExponent positive significand start false hdigits).of_same
      fun _ _ => rfl

theorem lexes_readFraction {digits exponent : List UInt8}
    (hdigits : ∀ b ∈ digits, isDigit b = true) (hexponent : IsExponent exponent) :
    Lexes (readFraction positive significand start) (digits ++ exponent) := by
  by_cases hempty : digits = []
  · subst hempty
    refine lexes_error fun rest hrest => ?_
    have htail := hexponent.not_digit hrest
    rw [List.nil_append, readFraction, ← List.nil_append (exponent ++ rest),
      takeWhile_digits hdigits htail, dropWhile_digits hdigits htail]
    simp only [List.isEmpty_nil, if_true]
    split <;> exact ⟨_, rfl⟩
  · have hsome : ¬ digits.isEmpty = true := by simpa using hempty
    cases hexponent with
    | none =>
        refine (lexes_readFloat positive (absorb significand digits).1
          (start - (digits.length - (absorb significand digits).2.length : Nat))).of_same
          fun rest hrest => ?_
        rw [List.append_nil, readFraction, takeWhile_digits hdigits hrest.not_digit,
          dropWhile_digits hdigits hrest.not_digit]
        simp only [hsome]
        cases rest with
        | nil => rfl
        | cons b tail => simp [(hrest.head (b := b) rfl).2.1]
    | @signed mark sign more hmark hsign hmore =>
        refine (lexes_readExponent positive (absorb significand digits).1
          (start - (digits.length - (absorb significand digits).2.length : Nat)) hsign
          hmore).of_same fun rest hrest => ?_
        have htail : ∀ b ∈ (mark :: (sign ++ more ++ rest)).head?, isDigit b = false :=
          (IsExponent.signed hmark hsign hmore).not_digit hrest
        rw [List.append_assoc, List.cons_append, readFraction, takeWhile_digits hdigits htail,
          dropWhile_digits hdigits htail]
        simp only [hsome, hmark]
        rfl

theorem lexes_readNumberTail (dropped : Nat) {fraction exponent : List UInt8}
    (hfraction : IsFraction fraction) (hexponent : IsExponent exponent) :
    Lexes (readNumberTail positive significand dropped) (fraction ++ exponent) := by
  cases hfraction with
  | pointed hdigits =>
      exact (lexes_readFraction positive significand dropped hdigits hexponent).of_same
        fun _ _ => rfl
  | none =>
      cases hexponent with
      | @signed mark sign digits hmark hsign hdigits =>
          refine (lexes_readExponent positive significand dropped hsign hdigits).of_same
            fun rest _ => ?_
          have hpoint : mark ≠ 0x2e := by
            rintro rfl
            cases hmark
          simp only [List.nil_append, List.cons_append, readNumberTail, if_neg hpoint, hmark,
            if_true]
      | none =>
          by_cases hwhole : dropped = 0
          · refine ⟨some (integer positive significand), fun rest hrest => ?_⟩
            cases rest with
            | nil => simp [readNumberTail, hwhole, Except.toOption]
            | cons b tail =>
                obtain ⟨-, hmark, hpoint, -⟩ := hrest.head (b := b) rfl
                simp [readNumberTail, hwhole, hmark, hpoint, Except.toOption]
          · refine (lexes_readFloat positive significand dropped).of_same fun rest hrest => ?_
            cases rest with
            | nil => simp [readNumberTail, hwhole]
            | cons b tail =>
                obtain ⟨-, hmark, hpoint, -⟩ := hrest.head (b := b) rfl
                simp [readNumberTail, hwhole, hmark, hpoint]

end Numbers

theorem IsFraction.not_digit {fraction exponent rest : List UInt8} (hfraction : IsFraction fraction)
    (hexponent : IsExponent exponent) (hrest : Ends rest) :
    ∀ b ∈ (fraction ++ exponent ++ rest).head?, isDigit b = false := by
  intro b hb
  cases hfraction with
  | none => exact hexponent.not_digit hrest b hb
  | pointed hdigits =>
      cases hb
      rfl

theorem lexes_readNumber (positive : Bool) {text : List UInt8} (htext : IsNumeral text) :
    Lexes (readNumber positive) text := by
  obtain ⟨hsome, hdigits, hfraction, hexponent⟩ := htext
  next digits fraction exponent =>
  cases digits with
  | nil => exact absurd rfl hsome
  | cons d digits =>
      by_cases hzero : d = 0x30
      · subst hzero
        cases digits with
        | nil =>
            refine (lexes_readNumberTail positive 0 0 hfraction hexponent).of_same
              fun rest hrest => ?_
            have hhead := hfraction.not_digit hexponent hrest
            have hnone : ((fraction ++ exponent ++ rest).head?.any isDigit) = false := by
              rw [Option.any_eq_false]
              exact fun b hb => by simp [hhead b hb]
            simp only [List.cons_append, List.nil_append, readNumber, if_true, hnone]
            rfl
        | cons e digits =>
            have he := hdigits e (List.mem_cons_of_mem _ List.mem_cons_self)
            refine lexes_error fun rest hrest => ?_
            simp only [List.cons_append, readNumber, if_true, List.head?_cons, Option.any_some, he]
            exact ⟨_, rfl⟩
      · refine (lexes_readNumberTail positive (absorb 0 (d :: digits)).1
          (absorb 0 (d :: digits)).2.length hfraction hexponent).of_same fun rest hrest => ?_
        have hhead := hfraction.not_digit hexponent hrest
        have hd := hdigits d List.mem_cons_self
        have htake := takeWhile_digits hdigits hhead
        have hdrop := dropWhile_digits hdigits hhead
        rw [List.cons_append] at htake hdrop
        rw [List.append_assoc, List.cons_append]
        simp only [readNumber, if_neg hzero, hd, if_true, htake, hdrop]

/-! ## Signed numbers -/

/-- A number with its sign. -/
def readSigned : List UInt8 → Result Number
  | [] => .error (.brokenAt .eofValue 0)
  | b :: rest => if b = minus then readNumber false rest else readNumber true (b :: rest)

/-- A numeral begins with a digit. -/
theorem IsNumeral.head {text : List UInt8} (htext : IsNumeral text) :
    ∃ b tail, text = b :: tail ∧ isDigit b = true := by
  obtain ⟨hsome, hdigits, hfraction, hexponent⟩ := htext
  next digits fraction exponent =>
  cases digits with
  | nil => exact absurd rfl hsome
  | cons d digits => exact ⟨d, _, rfl, hdigits d List.mem_cons_self⟩

theorem readSigned_of_unsigned {text : List UInt8} (htext : IsNumeral text) (rest : List UInt8) :
    readSigned (text ++ rest) = readNumber true (text ++ rest) := by
  obtain ⟨b, tail, rfl, hdigit⟩ := htext.head
  refine if_neg ?_
  rintro rfl
  cases hdigit

theorem lexes_readSigned {text : List UInt8} (htext : IsNumeral text) :
    Lexes readSigned text :=
  (lexes_readNumber true htext).of_same fun rest _ => readSigned_of_unsigned htext rest

theorem lexes_readSigned_minus {text : List UInt8} (htext : IsNumeral text) :
    Lexes readSigned (minus :: text) :=
  (lexes_readNumber false htext).of_same fun _ _ => rfl

/-! ## Printed numbers -/

section Printing

theorem utf8EncodeChar_digit {c : Char} (hc : c.isDigit = true) :
    String.utf8EncodeChar c = [UInt8.ofNat c.toNat] ∧ isDigit (UInt8.ofNat c.toNat) = true := by
  have hrange : 48 ≤ c.toNat ∧ c.toNat ≤ 57 := by
    simp only [Char.isDigit, Bool.and_eq_true, decide_eq_true_eq] at hc
    exact hc
  refine ⟨utf8EncodeChar_of_le (by omega), ?_⟩
  simp only [isDigit, Bool.and_eq_true, decide_eq_true_eq, UInt8.le_iff_toNat_le,
    UInt8.toNat_ofNat_of_lt' (by omega : c.toNat < 256)]
  exact hrange

/-- Digits in UTF-8. -/
theorem isDigit_of_mem_bytesOf {chars : List Char} (hchars : ∀ c ∈ chars, c.isDigit = true) :
    ∀ b ∈ bytesOf chars, isDigit b = true := by
  intro b hb
  obtain ⟨c, hc, hmem⟩ := List.mem_flatMap.mp hb
  obtain ⟨hbyte, hdigit⟩ := utf8EncodeChar_digit (hchars c hc)
  rw [hbyte, List.mem_singleton] at hmem
  rw [hmem]
  exact hdigit

theorem isDigit_of_mem_toString {n : Nat} : ∀ c ∈ (toString n).toList, c.isDigit = true := by
  intro c hc
  rw [Nat.toString_eq_ofList_toDigits, String.toList_ofList] at hc
  exact Nat.isDigit_of_mem_toDigits (by decide) (by decide) hc

theorem isDigit_of_mem_zeros {n : Nat} : ∀ c ∈ (Binary64.zeros n).toList, c.isDigit = true := by
  intro c hc
  rw [Binary64.zeros, String.toList_ofList] at hc
  rw [List.eq_of_mem_replicate hc]
  rfl

theorem toList_toString_ne_nil (n : Nat) : (toString n).toList ≠ [] := by
  rw [Nat.toString_eq_ofList_toDigits, String.toList_ofList]
  exact Nat.toDigits_ne_nil

theorem bytesOf_ne_nil {chars : List Char} (hsome : chars ≠ []) : bytesOf chars ≠ [] := by
  cases chars with
  | nil => exact absurd rfl hsome
  | cons c chars => simp [bytesOf_cons, String.utf8EncodeChar_ne_nil]

theorem isDigit_of_mem_zero : ∀ c ∈ ['0'], c.isDigit = true :=
  List.forall_mem_singleton.mpr rfl

/-- Digits, a point and more digits. -/
theorem isNumeral_pointed {first second : List Char} (hsome : first ≠ [])
    (hfirst : ∀ c ∈ first, c.isDigit = true) (hsecond : ∀ c ∈ second, c.isDigit = true) :
    IsNumeral (bytesOf (first ++ '.' :: second)) := by
  have hnumeral := IsNumeral.mk (bytesOf_ne_nil hsome) (isDigit_of_mem_bytesOf hfirst)
    (.pointed (isDigit_of_mem_bytesOf hsecond)) .none
  rw [List.append_nil] at hnumeral
  rw [bytesOf_append, bytesOf_cons]
  exact hnumeral

theorem isNumeral_digits {chars : List Char} (hsome : chars ≠ [])
    (hchars : ∀ c ∈ chars, c.isDigit = true) :
    IsNumeral (bytesOf chars) := by
  have hnumeral := IsNumeral.mk (bytesOf_ne_nil hsome) (isDigit_of_mem_bytesOf hchars) .none .none
  rw [List.append_nil, List.append_nil] at hnumeral
  exact hnumeral

theorem isNumeral_toString (n : Nat) : IsNumeral (bytesOf (toString n).toList) :=
  isNumeral_digits (toList_toString_ne_nil n) isDigit_of_mem_toString

theorem isNumeral_layout_pointed {digits : List Char} (hsome : digits ≠ [])
    (hdigits : ∀ c ∈ digits, c.isDigit = true) (point : Int) :
    IsNumeral (bytesOf (Binary64.pointed digits point).toList) := by
  unfold Binary64.pointed
  split
  · have hnumeral : IsNumeral (bytesOf
        (['0'] ++ '.' :: ((Binary64.zeros point.natAbs).toList ++ digits))) :=
      isNumeral_pointed (List.cons_ne_nil _ _) isDigit_of_mem_zero
        (List.forall_mem_append.mpr ⟨isDigit_of_mem_zeros, hdigits⟩)
    simpa [String.toList_append, String.toList_ofList] using hnumeral
  · next hpoint =>
    split
    · have hnumeral : IsNumeral (bytesOf
          (digits ++ (Binary64.zeros (point - digits.length).toNat).toList ++ '.' :: ['0'])) :=
        isNumeral_pointed (List.append_ne_nil_of_left_ne_nil hsome _)
          (List.forall_mem_append.mpr ⟨hdigits, isDigit_of_mem_zeros⟩) isDigit_of_mem_zero
      simpa [String.toList_append, String.toList_ofList] using hnumeral
    · have htaken : digits.take point.toNat ≠ [] := by
        rw [Ne, List.take_eq_nil_iff]
        rintro (hzero | hnil)
        · omega
        · exact hsome hnil
      have hnumeral : IsNumeral (bytesOf
          (digits.take point.toNat ++ '.' :: digits.drop point.toNat)) :=
        isNumeral_pointed htaken (fun c hc => hdigits c (List.mem_of_mem_take hc))
          fun c hc => hdigits c (List.mem_of_mem_drop hc)
      simpa [String.toList_append, String.toList_ofList] using hnumeral

theorem isExponent_printed (negative : Bool) (n : Nat) :
    IsExponent (bytesOf ((if negative then "e-" else "e+") ++ toString n).toList) := by
  have hdigits : ∀ b ∈ bytesOf (toString n).toList, isDigit b = true :=
    isDigit_of_mem_bytesOf isDigit_of_mem_toString
  have hmark : isExponentMark 0x65 = true := rfl
  rw [String.toList_append, bytesOf_append]
  cases negative with
  | true => exact .signed hmark (.inr (.inr rfl)) hdigits
  | false => exact .signed hmark (.inr (.inl rfl)) hdigits

theorem isNumeral_layout_scientific {digits : List Char}
    (hdigits : ∀ c ∈ digits, c.isDigit = true) (point : Int) :
    IsNumeral (bytesOf (Binary64.scientific digits point).toList) := by
  have hexponent := isExponent_printed (decide (point - 1 < 0)) (point - 1).natAbs
  have hmantissa : ∀ {mantissa fraction : List Char}, mantissa ≠ [] →
      (∀ c ∈ mantissa, c.isDigit = true) →
      IsFraction (bytesOf fraction) → IsNumeral (bytesOf (mantissa ++ (fraction ++
        ((if decide (point - 1 < 0) then "e-" else "e+") ++
          toString (point - 1).natAbs).toList))) := by
    intro mantissa fraction hsome hmantissa hfraction
    rw [bytesOf_append, bytesOf_append]
    exact .mk (bytesOf_ne_nil hsome) (isDigit_of_mem_bytesOf hmantissa) hfraction hexponent
  unfold Binary64.scientific
  cases digits with
  | nil =>
      have hnumeral := @hmantissa ['0'] [] (List.cons_ne_nil _ _) isDigit_of_mem_zero .none
      simpa [String.toList_append] using hnumeral
  | cons d digits =>
      cases digits with
      | nil =>
          have hnumeral := @hmantissa [d] [] (by simp) hdigits .none
          simpa [String.toList_append] using hnumeral
      | cons e digits =>
          obtain ⟨hd, hmore⟩ := List.forall_mem_cons.mp hdigits
          have hnumeral := @hmantissa [d] ('.' :: e :: digits) (by simp) (by simpa using hd)
            (.pointed (isDigit_of_mem_bytesOf hmore))
          simpa [String.toList_append] using hnumeral

end Printing

theorem toList_toString_negSucc (n : Nat) :
    (toString (Int.negSucc n)).toList = '-' :: (toString (n + 1)).toList := by
  have hprint : toString (Int.negSucc n) = "-" ++ toString (n + 1) := rfl
  rw [hprint, String.toList_append]
  rfl

/-- The text is a numeral, which may have a sign. -/
def IsSignedNumeral (chars : List Char) : Prop :=
  ∃ text, IsNumeral (bytesOf text) ∧ (chars = text ∨ chars = '-' :: text)

theorem isSignedNumeral_toString (value : Int) : IsSignedNumeral (toString value).toList := by
  cases value with
  | ofNat n => exact ⟨_, isNumeral_toString n, .inl rfl⟩
  | negSucc n => exact ⟨_, isNumeral_toString (n + 1), .inr (toList_toString_negSucc n)⟩

/-- How a signed numeral begins, and that it is read whole. -/
theorem IsSignedNumeral.lexes {chars : List Char} (hsigned : IsSignedNumeral chars) :
    ∃ b tail, bytesOf chars = b :: tail ∧ (b = minus ∨ isDigit b = true) ∧
      Lexes readSigned (b :: tail) := by
  obtain ⟨text, hnumeral, rfl | rfl⟩ := hsigned
  · obtain ⟨b, tail, hbytes, hdigit⟩ := hnumeral.head
    exact ⟨b, tail, hbytes, .inr hdigit, hbytes ▸ lexes_readSigned hnumeral⟩
  · exact ⟨minus, bytesOf text, rfl, .inl rfl, lexes_readSigned_minus hnumeral⟩

/-- A number is printed as a numeral, unless it is none at all. -/
theorem Number.print_cases (number : Number) :
    IsSignedNumeral number.print.toList ∨ number.print = "NaN" ∨ number.print = "inf" ∨
      number.print = "-inf" := by
  cases number with
  | int value => exact .inl (isSignedNumeral_toString value)
  | float value =>
      have hlayout : ∀ (n : Nat) (point : Int), IsNumeral (bytesOf ((if -5 < point ∧ point ≤ 16 then
          Binary64.pointed (toString n).toList point
          else Binary64.scientific (toString n).toList point)).toList) := by
        intro n point
        split
        · exact isNumeral_layout_pointed (toList_toString_ne_nil n) isDigit_of_mem_toString point
        · exact isNumeral_layout_scientific isDigit_of_mem_toString point
      have hsigned : ∀ {body : String}, IsNumeral (bytesOf body.toList) →
          IsSignedNumeral (value.sign ++ body).toList := by
        intro body hbody
        refine ⟨body.toList, hbody, ?_⟩
        unfold Binary64.sign
        split
        · exact .inr (by simp [String.toList_append])
        · exact .inl (by simp)
      simp only [print, Binary64.compact, Binary64.writeWith]
      split
      · exact .inr (.inl rfl)
      · unfold Binary64.sign
        split
        · exact .inr (.inr (.inr rfl))
        · exact .inr (.inr (.inl rfl))
      · exact .inl (hsigned
          (isNumeral_pointed (List.cons_ne_nil _ _) isDigit_of_mem_zero isDigit_of_mem_zero))
      · exact .inl (hsigned (hlayout _ _))

/-- What a number is read back as. -/
def Number.reread (number : Number) : Number :=
  match readSigned (bytesOf number.print.toList) with
  | .ok (read, _) => read
  | .error _ => number

/-! ## Integers -/

theorem digitValue_bytesOf {c : Char} (hc : c.isDigit = true) :
    digitValue (UInt8.ofNat c.toNat) = c.toNat - '0'.toNat := by
  have hrange : c.toNat ≤ 57 := by
    simp only [Char.isDigit, Bool.and_eq_true, decide_eq_true_eq] at hc
    exact hc.2
  rw [digitValue, UInt8.toNat_ofNat_of_lt' (by omega : c.toNat < 256)]
  rfl

theorem le_ofDigitChars (chars : List Char) (n : Nat) : n ≤ Nat.ofDigitChars 10 chars n := by
  induction chars generalizing n with
  | nil => exact Nat.le_refl n
  | cons c chars ih =>
      rw [Nat.ofDigitChars_cons]
      have hmore := ih (10 * n + (c.toNat - '0'.toNat))
      omega

/-- Digits that fit into 64 bits are all taken. -/
theorem absorb_bytesOf {chars : List Char} (hchars : ∀ c ∈ chars, c.isDigit = true) {n : Nat}
    (hfits : Nat.ofDigitChars 10 chars n < 0x10000000000000000) :
    absorb n (bytesOf chars) = (Nat.ofDigitChars 10 chars n, []) := by
  induction chars generalizing n with
  | nil => rfl
  | cons c chars ih =>
      obtain ⟨hc, hmore⟩ := List.forall_mem_cons.mp hchars
      rw [Nat.ofDigitChars_cons] at hfits ⊢
      have hgrows := le_ofDigitChars chars (10 * n + (c.toNat - '0'.toNat))
      rw [bytesOf_cons, (utf8EncodeChar_digit hc).1, List.singleton_append, absorb,
        digitValue_bytesOf hc, Nat.mul_comm n 10, if_pos (by omega)]
      exact ih hmore hfits

theorem absorb_bytesOf_ne_nil {chars : List Char} (hchars : ∀ c ∈ chars, c.isDigit = true) {n : Nat}
    (hstart : n < 0x10000000000000000)
    (hlarge : 0x10000000000000000 ≤ Nat.ofDigitChars 10 chars n) :
    (absorb n (bytesOf chars)).2 ≠ [] := by
  induction chars generalizing n with
  | nil => exact absurd hstart (Nat.not_lt.mpr hlarge)
  | cons c chars ih =>
      obtain ⟨hc, hmore⟩ := List.forall_mem_cons.mp hchars
      rw [Nat.ofDigitChars_cons] at hlarge
      rw [bytesOf_cons, (utf8EncodeChar_digit hc).1, List.singleton_append, absorb,
        digitValue_bytesOf hc, Nat.mul_comm n 10]
      split
      · next hfits => exact ih hmore hfits hlarge
      · exact List.cons_ne_nil _ _

/-- No decimal but that of zero begins with a zero. -/
theorem eq_nil_of_toDigits {n : Nat} {digits : List Char}
    (hdigits : Nat.toDigits 10 n = '0' :: digits) : digits = [] := by
  induction n using Nat.strongRecOn generalizing digits with
  | ind n ih =>
      by_cases hsmall : n < 10
      · rw [Nat.toDigits_of_lt_base hsmall] at hdigits
        exact (List.cons.inj hdigits).2.symm
      · rw [Nat.toDigits_of_base_le (by decide) (Nat.le_of_not_lt hsmall)] at hdigits
        cases hhigh : Nat.toDigits 10 (n / 10) with
        | nil => exact absurd hhigh Nat.toDigits_ne_nil
        | cons c high =>
            rw [hhigh, List.cons_append] at hdigits
            obtain ⟨rfl, -⟩ := List.cons.inj hdigits
            have hnone := ih (n / 10) (by omega) hhigh
            have hvalue := @Nat.ofDigitChars_ten_toDigits (n / 10)
            rw [hhigh, hnone] at hvalue
            have hzero : n / 10 = 0 := hvalue.symm
            omega

theorem ofDigitChars_toString (n : Nat) : Nat.ofDigitChars 10 (toString n).toList 0 = n := by
  rw [Nat.toString_eq_ofList_toDigits, String.toList_ofList, Nat.ofDigitChars_ten_toDigits]

/-- Digits begin a number when they are a zero or begin with another digit. -/
def Leads (chars : List Char) : Prop := chars = ['0'] ∨ ∃ c more, chars = c :: more ∧ c ≠ '0'

theorem leads_toString (n : Nat) : Leads (toString n).toList := by
  cases hchars : (toString n).toList with
  | nil => exact absurd hchars (toList_toString_ne_nil n)
  | cons c chars =>
      by_cases hzero : c = '0'
      · subst hzero
        rw [Nat.toString_eq_ofList_toDigits, String.toList_ofList] at hchars
        exact .inl (congrArg _ (eq_nil_of_toDigits hchars))
      · exact .inr ⟨c, chars, rfl, hzero⟩

/-- Digits that fit into 64 bits are read whole. -/
theorem readNumber_digits (positive : Bool) {chars : List Char} (hleads : Leads chars)
    (hchars : ∀ c ∈ chars, c.isDigit = true)
    (hfits : Nat.ofDigitChars 10 chars 0 < 0x10000000000000000) {rest : List UInt8}
    (hrest : ∀ b ∈ rest.head?, isDigit b = false) :
    readNumber positive (bytesOf chars ++ rest) =
      readNumberTail positive (Nat.ofDigitChars 10 chars 0) 0 rest := by
  rcases hleads with rfl | ⟨c, chars, rfl, hzero⟩
  · have hnone : rest.head?.any isDigit = false := by
      cases rest with
      | nil => rfl
      | cons b rest => exact hrest b rfl
    change readNumber positive (0x30 :: rest) = readNumberTail positive 0 0 rest
    simp only [readNumber, hnone, if_true]
    rfl
  · have habsorb := absorb_bytesOf hchars hfits
    have hbytes := isDigit_of_mem_bytesOf hchars
    have htake := takeWhile_digits hbytes hrest
    have hdrop := dropWhile_digits hbytes hrest
    obtain ⟨hc, -⟩ := List.forall_mem_cons.mp hchars
    have hfirst := (utf8EncodeChar_digit hc).1
    rw [bytesOf_cons, hfirst, List.singleton_append] at habsorb hbytes htake hdrop ⊢
    have hb := hbytes _ List.mem_cons_self
    have hother : UInt8.ofNat c.toNat ≠ 0x30 := by
      intro hsame
      have hrange := (Char.isDigit_iff_toNat.mp hc).2
      have hnine : '9'.toNat = 57 := rfl
      have hcode := congrArg UInt8.toNat hsame
      rw [UInt8.toNat_ofNat_of_lt' (by omega : c.toNat < 256)] at hcode
      exact hzero (Char.toNat_inj.mp hcode)
    rw [List.cons_append] at htake hdrop ⊢
    simp only [readNumber, if_neg hother, hb, if_true, htake, hdrop, habsorb]
    rfl

/-- The decimal of a number that fits into 64 bits is read whole, as that number. -/
theorem readNumber_decimal (positive : Bool) {n : Nat} (hfits : n < 0x10000000000000000) :
    readNumber positive (bytesOf (toString n).toList) = .ok (integer positive n, []) := by
  have hread := @readNumber_digits positive (toString n).toList (leads_toString n)
    isDigit_of_mem_toString (by rwa [ofDigitChars_toString]) [] (by simp)
  rw [List.append_nil, ofDigitChars_toString] at hread
  exact hread

theorem readSigned_decimal {value : Int}
    (hfits : -0x8000000000000000 ≤ value ∧ value < 0x10000000000000000) :
    readSigned (bytesOf (toString value).toList) = .ok (.int value, []) := by
  cases value with
  | ofNat n =>
      have hrange : n < 0x10000000000000000 := by
        rw [Int.ofNat_eq_natCast] at hfits
        omega
      have hplain := readSigned_of_unsigned (isNumeral_toString n) []
      rw [List.append_nil] at hplain
      exact hplain.trans (readNumber_decimal true hrange)
  | negSucc n =>
      have hrange : n + 1 ≤ 0x8000000000000000 := by
        rw [Int.negSucc_eq] at hfits
        omega
      rw [toList_toString_negSucc]
      have hsigned := readNumber_decimal false (n := n + 1) (by omega)
      rw [integer, if_neg (by decide), if_neg (by omega)] at hsigned
      exact hsigned

/-- An integer of 64 bits is read back as itself. -/
theorem Number.reread_int {value : Int}
    (hfits : -0x8000000000000000 ≤ value ∧ value < 0x10000000000000000) :
    (Number.int value).reread = .int value := by
  have hread : readSigned (bytesOf (Number.int value).print.toList) = .ok (.int value, []) :=
    readSigned_decimal hfits
  rw [reread, hread]

theorem not_int_of_readFloat {positive : Bool} {significand : Nat} {exponent : Int}
    {rest left : List UInt8} {value : Int} :
    readFloat positive significand exponent rest ≠ .ok (.int value, left) := by
  unfold readFloat
  split
  · exact fun hread => by cases hread
  · exact fun hread => by cases hread

/-- Digits that are read as an integer are its own, however many there are. -/
theorem integer_of_readNumber {positive : Bool} {n : Nat} {value : Int} {left : List UInt8}
    (hread : readNumber positive (bytesOf (toString n).toList) = .ok (.int value, left)) :
    .int value = integer positive n := by
  by_cases hfits : n < 0x10000000000000000
  · have hsame := Except.ok.inj ((readNumber_decimal positive hfits).symm.trans hread)
    exact (congrArg Prod.fst hsame).symm
  · have hdigits := @isDigit_of_mem_toString n
    have hvalue := ofDigitChars_toString n
    have hleft := absorb_bytesOf_ne_nil hdigits (by omega) (hvalue.symm ▸ Nat.le_of_not_lt hfits)
    have hbytes := isDigit_of_mem_bytesOf hdigits
    generalize bytesOf (toString n).toList = bytes at hread hleft hbytes
    cases bytes with
    | nil => exact absurd rfl hleft
    | cons b bytes =>
        obtain ⟨hb, hmore⟩ := List.forall_mem_cons.mp hbytes
        by_cases hzero : b = 0x30
        · subst hzero
          cases bytes with
          | nil => exact absurd rfl hleft
          | cons d bytes =>
              have hd := hmore d List.mem_cons_self
              simp [readNumber, hd] at hread
        · have htake := @takeWhile_digits _ [] hbytes (by simp)
          have hdrop := @dropWhile_digits _ [] hbytes (by simp)
          rw [List.append_nil] at htake hdrop
          generalize habsorb : absorb 0 (b :: bytes) = taken at hleft
          have hdropped : taken.2.length ≠ 0 :=
            fun hnone => hleft (List.length_eq_zero_iff.mp hnone)
          simp only [readNumber, if_neg hzero, hb, if_true, htake, hdrop, habsorb, readNumberTail,
            if_neg hdropped] at hread
          exact absurd hread not_int_of_readFloat

/-- What is read back as an integer is that integer. -/
theorem Number.eq_of_reread {value read : Int} (hreread : (Number.int value).reread = .int read) :
    read = value := by
  unfold reread at hreread
  split at hreread
  · next found left hread =>
      rw [hreread] at hread
      cases value with
      | ofNat n =>
          have hplain := readSigned_of_unsigned (isNumeral_toString n) []
          rw [List.append_nil] at hplain
          exact Number.int.inj (integer_of_readNumber (hplain.symm.trans hread))
      | negSucc n =>
          have hsigned : readNumber false (bytesOf (toString (n + 1)).toList) =
              .ok (.int read, left) := by
            rw [print, toList_toString_negSucc] at hread
            exact hread
          have hsame := integer_of_readNumber hsigned
          rw [integer, if_neg (by decide)] at hsame
          split at hsame
          · cases hsame
          · exact Number.int.inj hsame
  · exact (Number.int.inj hreread).symm

end DebugBridge.Json
