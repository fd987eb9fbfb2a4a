import DebugBridge.Proofs.Framing.Arriving
import DebugBridge.Proofs.Framing.Header
import Mathlib.Data.List.DropRight

/-!
# Lines of a stream

A stream that has ended consists of lines, each of which the reader takes as one of four things: it
cannot be read, it is blank, it tells the length of a body, or it says nothing.  Which of them a
line is depends on nothing but the line.
-/

namespace DebugBridge

open Text

/-! ## Characters of a line -/

namespace Text

section Ends

variable {p q : Char → Bool} {cs front behind : List Char}

theorem dropEndWhile_eq_nil_iff : dropEndWhile p cs = [] ↔ ∀ c ∈ cs, p c = true :=
  List.rdropWhile_eq_nil_iff

theorem dropEndWhile_append_cons (front behind : List Char) {c : Char} (hc : p c = false) :
    dropEndWhile p (front ++ c :: behind) = front ++ c :: dropEndWhile p behind := by
  have hreversed : (front ++ c :: behind).reverse = behind.reverse ++ c :: front.reverse := by simp
  rw [dropEndWhile, dropEndWhile, hreversed, List.dropWhile_append]
  cases hrest : behind.reverse.dropWhile p with
  | nil => simp [hc]
  | cons d rest => simp

theorem dropEndWhile_cons (c : Char) (cs : List Char) :
    dropEndWhile p (c :: cs) =
      if dropEndWhile p cs = [] ∧ p c = true then [] else c :: dropEndWhile p cs := by
  rw [dropEndWhile, dropEndWhile, List.reverse_cons, List.dropWhile_append]
  cases cs.reverse.dropWhile p with
  | nil => cases hc : p c <;> simp [hc]
  | cons d rest => simp

/-- What is dropped at both ends may be dropped from the end first. -/
theorem dropWhile_dropEndWhile (hpq : ∀ c, p c = true → q c = true) (cs : List Char) :
    (dropEndWhile p cs).dropWhile q = dropEndWhile p (cs.dropWhile q) := by
  induction cs with
  | nil => rfl
  | cons c cs ih =>
      cases hc : q c with
      | true =>
          rw [dropEndWhile_cons, List.dropWhile_cons_of_pos hc]
          split
          · next hnone =>
              rw [← ih, hnone.1]
          · rw [List.dropWhile_cons_of_pos hc, ih]
      | false =>
          have hp : p c = false := by
            cases hp : p c with
            | false => rfl
            | true => rw [hpq c hp] at hc; cases hc
          have hwhole := dropEndWhile_append_cons [] cs hp
          rw [List.nil_append, List.nil_append] at hwhole
          rw [List.dropWhile_cons_of_neg (by simp [hc]), hwhole,
            List.dropWhile_cons_of_neg (by simp [hc])]

/-- What is dropped anyway may be dropped before. -/
theorem dropEndWhile_dropEndWhile (hpq : ∀ c, p c = true → q c = true) (cs : List Char) :
    dropEndWhile q (dropEndWhile p cs) = dropEndWhile q cs := by
  have hdrop : ∀ cs : List Char, (cs.dropWhile p).dropWhile q = cs.dropWhile q := by
    intro cs
    induction cs with
    | nil => rfl
    | cons c cs ih =>
        cases hc : p c with
        | true => rw [List.dropWhile_cons_of_pos hc, ih, List.dropWhile_cons_of_pos (hpq c hc)]
        | false => rw [List.dropWhile_cons_of_neg (by simp [hc])]
  rw [dropEndWhile, dropEndWhile, dropEndWhile, List.reverse_reverse, hdrop]

end Ends

theorem decodeUtf8?_eq_some {bytes : List UInt8} {text : String}
    (hdecode : decodeUtf8? bytes = some text) : bytes = bytesOf text.toList := by
  rw [decodeUtf8?, String.fromUTF8?] at hdecode
  split at hdecode
  · next hvalid =>
      obtain rfl := Option.some.inj hdecode
      have hbytes := encodeUtf8_ofList (String.fromUTF8 ⟨bytes.toArray⟩ hvalid).toList
      rw [String.ofList_toList] at hbytes
      rw [← hbytes]
      rfl
  · cases hdecode

end Text

namespace Framing

/-! ## Lines -/

/-- The lines of a stream: each ends at a line feed, and the last one at the end of the stream. -/
def splitLines : List UInt8 → List (List UInt8)
  | [] => []
  | b :: rest =>
    if b = 0x0a then [b] :: splitLines rest
    else match splitLines rest with
      | line :: lines => (b :: line) :: lines
      | [] => [[b]]

section Lines

variable {input line : List UInt8} {lines : List (List UInt8)}

theorem splitLines_eq_nil_iff : splitLines input = [] ↔ input = [] := by
  cases input with
  | nil => simp [splitLines]
  | cons b rest =>
      rw [splitLines]
      split
      · simp
      · split <;> simp

/-- The first line, and what is behind it. -/
theorem of_splitLines_cons (hlines : splitLines input = line :: lines) :
    input = line ++ lines.flatten ∧ splitLines lines.flatten = lines ∧
      ((∃ content, (∀ b ∈ content, b ≠ 0x0a) ∧ line = content ++ [0x0a]) ∨
        (∀ b ∈ line, b ≠ 0x0a) ∧ lines = []) := by
  induction input generalizing line lines with
  | nil => cases hlines
  | cons b rest ih =>
      rw [splitLines] at hlines
      split at hlines
      · next hfeed =>
          obtain ⟨rfl, rfl⟩ := List.cons.inj hlines
          have hflatten : (splitLines rest).flatten = rest := by
            cases hrest : splitLines rest with
            | nil => exact (splitLines_eq_nil_iff.mp hrest).symm
            | cons first others => exact (ih hrest).1.symm
          rw [hflatten]
          exact ⟨rfl, rfl, .inl ⟨[], by simp, by rw [hfeed]; rfl⟩⟩
      · next hfeed =>
          split at hlines
          · next first others hrest =>
              obtain ⟨rfl, rfl⟩ := List.cons.inj hlines
              obtain ⟨hwhole, hagain, hline⟩ := ih hrest
              refine ⟨congrArg (b :: ·) hwhole, hagain, ?_⟩
              rcases hline with ⟨content, hplain, rfl⟩ | ⟨hplain, hlast⟩
              · exact .inl ⟨b :: content, List.forall_mem_cons.mpr ⟨hfeed, hplain⟩, rfl⟩
              · exact .inr ⟨List.forall_mem_cons.mpr ⟨hfeed, hplain⟩, hlast⟩
          · next hrest =>
              obtain ⟨rfl, rfl⟩ := List.cons.inj hlines
              rw [splitLines_eq_nil_iff.mp hrest]
              exact ⟨rfl, rfl, .inr ⟨by simpa using hfeed, rfl⟩⟩

/-- Nothing of a stream is lost between its lines. -/
theorem flatten_splitLines (input : List UInt8) : (splitLines input).flatten = input := by
  cases hlines : splitLines input with
  | nil => exact (splitLines_eq_nil_iff.mp hlines).symm
  | cons line lines => exact (of_splitLines_cons hlines).1.symm

/-- A line that has room enough is read whole. -/
theorem readLine_of_short (hlines : splitLines input = line :: lines)
    (hshort : line.length ≤ maxHeaderLineBytes) :
    readLine input .closed = .line line lines.flatten := by
  obtain ⟨rfl, -, ⟨content, hplain, rfl⟩ | ⟨hplain, rfl⟩⟩ := of_splitLines_cons hlines
  · rw [List.length_append, List.length_singleton] at hshort
    have hcontent : content.length < maxHeaderLineBytes := hshort
    rw [List.append_assoc, List.singleton_append]
    exact readLine_line hplain hcontent lines.flatten .closed
  · have hsome : line ≠ [] := by
      rintro rfl
      cases hlines
    rw [List.flatten_nil, List.append_nil]
    simp only [readLine, lineLength?_eq_none _ hplain]
    rw [if_neg (Nat.not_lt_of_le hshort), if_neg (by simpa using hsome)]

/-- Of a line that is too long, no more is read than shows that it is. -/
theorem readLine_of_long (hlines : splitLines input = line :: lines)
    (hlong : maxHeaderLineBytes < line.length) :
    readLine input .closed =
      .failed tooLong (line.drop (maxHeaderLineBytes + 1) ++ lines.flatten) := by
  obtain ⟨hwhole, -, hends⟩ := of_splitLines_cons hlines
  have hdrop : input.drop (maxHeaderLineBytes + 1) =
      line.drop (maxHeaderLineBytes + 1) ++ lines.flatten := by
    rw [hwhole, List.drop_append_of_le_length hlong]
  have hbeyond : maxHeaderLineBytes < input.length := by
    rw [hwhole, List.length_append]
    omega
  have hnone : lineLength? (maxHeaderLineBytes + 1) input = none →
      readLine input .closed = .failed tooLong (input.drop (maxHeaderLineBytes + 1)) := by
    intro hnone
    simp only [readLine, hnone]
    rw [if_pos hbeyond]
  rw [← hdrop]
  rcases hends with ⟨content, hplain, rfl⟩ | ⟨hplain, rfl⟩
  · rw [List.length_append, List.length_singleton] at hlong
    rw [List.append_assoc, List.singleton_append] at hwhole
    by_cases hlast : content.length < maxHeaderLineBytes + 1
    · have hlength : content.length = maxHeaderLineBytes := by omega
      have hfound := lineLength?_line hplain hlast lines.flatten
      rw [← hwhole, hlength] at hfound
      simp only [readLine, hfound]
      rw [if_pos (Nat.lt_succ_self _)]
    · refine hnone ?_
      rw [hwhole]
      exact lineLength?_append_of_long (lineLength?_eq_none _ hplain) (Nat.le_of_not_lt hlast) _
  · rw [List.flatten_nil, List.append_nil] at hwhole
    exact hnone (hwhole ▸ lineLength?_eq_none _ hplain)

end Lines

/-! ## What a line says -/

/-- A line of line ends only. -/
def IsBlank (line : List UInt8) : Prop := ∀ b ∈ line, b = 0x0d ∨ b = 0x0a

/-- A line with the name of the length in front of its first colon, and with this value behind it.
Neither the case of the name nor the blanks around name and value matter. -/
def TellsLength (line : List UInt8) (value : List Char) : Prop :=
  ∃ name behind, line = bytesOf (name ++ ':' :: behind) ∧ ':' ∉ name ∧
    asciiLower (trimChars name) = asciiLower "Content-Length".toList ∧ value = trimChars behind

/-- A number in decimal digits, perhaps behind a plus sign. -/
def IsNumber (value : List Char) (n : Nat) : Prop :=
  ∃ digits, (value = digits ∨ value = '+' :: digits) ∧ digits ≠ [] ∧
    (∀ c ∈ digits, c.isDigit = true) ∧ Nat.ofDigitChars 10 digits 0 = n

/-- A line that can be read. -/
structure Sound (line : List UInt8) : Prop where
  short : line.length ≤ maxHeaderLineBytes
  text : ∃ chars, line = bytesOf chars
  length : ∀ value, TellsLength line value → ∃ n, IsNumber value n ∧ n ≤ maxMessageBytes

instance (line : List UInt8) : Decidable (IsBlank line) :=
  List.decidableBAll (fun b => b = 0x0d ∨ b = 0x0a) line

section Numbers

variable {digits value : List Char} {start n : Nat}

theorem readDigits_eq_ok_iff (hstart : start ≤ greatestLength) :
    readDigits start digits = .ok n ↔
      (∀ c ∈ digits, c.isDigit = true) ∧ Nat.ofDigitChars 10 digits start = n ∧
        n ≤ greatestLength := by
  induction digits generalizing start with
  | nil =>
      rw [readDigits, Nat.ofDigitChars_nil, Except.ok.injEq]
      refine ⟨fun hsame => ⟨by simp, hsame, hsame ▸ hstart⟩, fun hall => hall.2.1⟩
  | cons c digits ih =>
      rw [readDigits, List.forall_mem_cons, Nat.ofDigitChars_cons]
      dsimp only
      split
      · next hc =>
          have hgrows := Json.le_ofDigitChars digits (10 * start + (c.toNat - '0'.toNat))
          split
          · next hlarge =>
              refine iff_of_false (by simp) ?_
              rintro ⟨-, rfl, hfits⟩
              omega
          · next hsmall =>
              rw [ih (Nat.le_of_not_lt hsmall)]
              simp [hc]
      · next hc => exact iff_of_false (by simp) fun hall => hc hall.1.1

/-- Behind a plus sign stand the digits. -/
theorem isNumber_plus_iff :
    IsNumber ('+' :: digits) n ↔
      digits ≠ [] ∧ (∀ c ∈ digits, c.isDigit = true) ∧ Nat.ofDigitChars 10 digits 0 = n := by
  constructor
  · rintro ⟨others, rfl | hvalue, hsome, hdigits, hn⟩
    · exact absurd (hdigits '+' List.mem_cons_self) (by decide)
    · obtain rfl := (List.cons.inj hvalue).2
      exact ⟨hsome, hdigits, hn⟩
  · rintro ⟨hsome, hdigits, hn⟩
    exact ⟨digits, .inr rfl, hsome, hdigits, hn⟩

theorem isNumber_iff (hplus : ∀ rest, value ≠ '+' :: rest) :
    IsNumber value n ↔
      value ≠ [] ∧ (∀ c ∈ value, c.isDigit = true) ∧ Nat.ofDigitChars 10 value 0 = n := by
  constructor
  · rintro ⟨digits, rfl | hvalue, hsome, hdigits, hn⟩
    · exact ⟨hsome, hdigits, hn⟩
    · exact absurd hvalue (hplus digits)
  · rintro ⟨hsome, hdigits, hn⟩
    exact ⟨value, .inl rfl, hsome, hdigits, hn⟩

theorem IsNumber.unique {m : Nat} (hnumber : IsNumber value n) (hother : IsNumber value m) :
    n = m := by
  by_cases hplus : ∃ digits, value = '+' :: digits
  · obtain ⟨digits, rfl⟩ := hplus
    rw [isNumber_plus_iff] at hnumber hother
    rw [← hnumber.2.2, ← hother.2.2]
  · rw [isNumber_iff (not_exists.mp hplus)] at hnumber hother
    rw [← hnumber.2.2, ← hother.2.2]

theorem readLength_eq_ok_iff :
    readLength value = .ok n ↔ IsNumber value n ∧ n ≤ greatestLength := by
  by_cases hplus : ∃ digits, value = '+' :: digits
  · obtain ⟨digits, rfl⟩ := hplus
    rw [isNumber_plus_iff]
    cases digits with
    | nil => simp [readLength]
    | cons c digits =>
        have hread : readLength ('+' :: c :: digits) = readDigits 0 (c :: digits) := rfl
        rw [hread, readDigits_eq_ok_iff (Nat.zero_le _)]
        simp [and_assoc]
  · have hnone : ∀ rest, value ≠ '+' :: rest := not_exists.mp hplus
    rw [isNumber_iff hnone]
    cases value with
    | nil => simp [readLength]
    | cons c digits =>
        have hc : c ≠ '+' := by
          rintro rfl
          exact hnone digits rfl
        have hread : readLength (c :: digits) = readDigits 0 (c :: digits) := by
          rw [readLength] <;> simp [hc]
        rw [hread, readDigits_eq_ok_iff (Nat.zero_le _)]
        simp [and_assoc]

/-- A length is taken if it is a number and not too large. -/
theorem checkLength_eq_ok_iff :
    checkLength value = .ok n ↔ IsNumber value n ∧ n ≤ maxMessageBytes := by
  rw [checkLength]
  cases hread : readLength value with
  | error fault =>
      refine iff_of_false (by simp) ?_
      rintro ⟨hnumber, hsmall⟩
      rw [readLength_eq_ok_iff.mpr ⟨hnumber, fits_of_small hsmall⟩] at hread
      cases hread
  | ok length =>
      have hnumber := (readLength_eq_ok_iff.mp hread).1
      dsimp only
      split
      · next hlarge =>
          refine iff_of_false (by simp) ?_
          rintro ⟨hother, hsmall⟩
          rw [readLength_eq_ok_iff.mpr ⟨hother, fits_of_small hsmall⟩] at hread
          obtain rfl := Except.ok.inj hread
          exact Nat.not_lt_of_le hsmall hlarge
      · next hsmall =>
          rw [Except.ok.injEq]
          constructor
          · rintro rfl
            exact ⟨hnumber, Nat.le_of_not_lt hsmall⟩
          · rintro ⟨hother, hallowed⟩
            rw [readLength_eq_ok_iff.mpr ⟨hother, fits_of_small hallowed⟩] at hread
            exact (Except.ok.inj hread).symm

/-- A length that is refused is refused for what the sender wrote. -/
theorem protocol_of_checkLength {fault : FrameFault} (hrefused : checkLength value = .error fault) :
    ∃ text, fault = .protocol text := by
  rw [checkLength] at hrefused
  split at hrefused
  · exact ⟨_, (Except.error.inj hrefused).symm⟩
  · split at hrefused
    · exact ⟨_, (Except.error.inj hrefused).symm⟩
    · cases hrefused

end Numbers

section Headers

variable {line : List UInt8} {value chars name behind : List Char} {n : Nat}

theorem isBlank_of_isLineEnd {c : Char} (hc : isLineEnd c = true) : isBlank c = true := by
  simp only [isLineEnd, Bool.or_eq_true, beq_iff_eq] at hc
  rcases hc with rfl | rfl <;> decide

/-- The end of a line is trimmed off the value of a header. -/
theorem trimChars_dropEndWhile (cs : List Char) :
    trimChars (dropEndWhile isLineEnd cs) = trimChars cs := by
  rw [trimChars, dropWhile_dropEndWhile (fun _ => isBlank_of_isLineEnd),
    dropEndWhile_dropEndWhile (fun _ => isBlank_of_isLineEnd), trimChars]

theorem interpretLine_bytesOf (chars : List Char) :
    interpretLine (bytesOf chars) =
      if (dropEndWhile isLineEnd chars).isEmpty then .ok .blank
      else interpretHeader (dropEndWhile isLineEnd chars) := by
  rw [interpretLine, decodeUtf8?_bytesOf]
  dsimp only
  rw [String.toList_ofList]

/-- A name in front of the first colon. -/
theorem split_colon (hname : ':' ∉ name) (behind : List Char) :
    (name ++ ':' :: behind).takeWhile (· != ':') = name ∧
      (name ++ ':' :: behind).dropWhile (· != ':') = ':' :: behind := by
  have hplain : ∀ c ∈ name, (c != ':') = true := by
    intro c hc
    rw [bne_iff_ne]
    rintro rfl
    exact hname hc
  rw [List.takeWhile_append_of_pos hplain, List.dropWhile_append_of_pos hplain,
    List.takeWhile_cons_of_neg (by simp), List.dropWhile_cons_of_neg (by simp), List.append_nil]
  exact ⟨rfl, rfl⟩

theorem TellsLength.unique {other : List Char} (htells : TellsLength line value)
    (hother : TellsLength line other) : value = other := by
  obtain ⟨name, behind, rfl, hname, -, rfl⟩ := htells
  obtain ⟨name', behind', hsame, hname', -, rfl⟩ := hother
  have hchars := congrArg decodeUtf8? hsame
  rw [decodeUtf8?_bytesOf, decodeUtf8?_bytesOf, Option.some.injEq, String.ofList_inj] at hchars
  have hbehind := congrArg (List.dropWhile (· != ':')) hchars
  rw [(split_colon hname behind).2, (split_colon hname' behind').2] at hbehind
  rw [(List.cons.inj hbehind).2]

theorem interpretHeader_colon (hname : ':' ∉ name) (behind : List Char) :
    interpretHeader (name ++ ':' :: behind) =
      if asciiLower (trimChars name) = lengthHeader then
        (checkLength (trimChars behind)).map .length
      else .ok .other := by
  obtain ⟨htake, hdrop⟩ := split_colon hname behind
  rw [interpretHeader, hdrop, htake]

theorem isLineEnd_colon : isLineEnd ':' = false := by decide

/-- A line that tells a length is read as one. -/
theorem interpretLine_of_tellsLength (htells : TellsLength line value) :
    interpretLine line = (checkLength value).map .length := by
  obtain ⟨name, behind, rfl, hname, hlabel, rfl⟩ := htells
  have hlabelled : asciiLower (trimChars name) = lengthHeader := hlabel
  rw [interpretLine_bytesOf, dropEndWhile_append_cons name behind isLineEnd_colon,
    if_neg (by simp), interpretHeader_colon hname, if_pos hlabelled, trimChars_dropEndWhile]

theorem interpretHeader_of_not_mem (hcolon : ':' ∉ chars) : interpretHeader chars = .ok .other := by
  have hnone : chars.dropWhile (· != ':') = [] := by
    rw [List.dropWhile_eq_nil_iff]
    intro c hc
    rw [bne_iff_ne]
    rintro rfl
    exact hcolon hc
  rw [interpretHeader, hnone]

/-- Any other line that is not blank says nothing. -/
theorem interpretLine_of_not_tellsLength
    (hother : ∀ value, ¬ TellsLength (bytesOf chars) value)
    (hsome : dropEndWhile isLineEnd chars ≠ []) : interpretLine (bytesOf chars) = .ok .other := by
  rw [interpretLine_bytesOf, if_neg (by simpa using hsome)]
  by_cases hcolon : ':' ∈ chars
  · obtain ⟨name, behind, rfl, hname⟩ := List.eq_append_cons_of_mem hcolon
    rw [dropEndWhile_append_cons name behind isLineEnd_colon, interpretHeader_colon hname]
    exact if_neg fun hlabel => hother _ ⟨name, behind, rfl, hname, hlabel, rfl⟩
  · exact interpretHeader_of_not_mem fun hmem =>
      hcolon ((List.rdropWhile_prefix isLineEnd _).subset hmem)

/-- Line ends are one byte each. -/
theorem isBlank_bytesOf_iff : IsBlank (bytesOf chars) ↔ dropEndWhile isLineEnd chars = [] := by
  rw [dropEndWhile_eq_nil_iff]
  constructor
  · intro hblank c hc
    have hbytes : ∀ b ∈ String.utf8EncodeChar c, b = 0x0d ∨ b = 0x0a := fun b hb =>
      hblank b (List.mem_flatMap.mpr ⟨c, hc, hb⟩)
    by_cases hsmall : c.toNat ≤ 127
    · rw [utf8EncodeChar_of_le hsmall, List.forall_mem_singleton, ← UInt8.toNat_inj,
        ← UInt8.toNat_inj, UInt8.toNat_ofNat_of_lt' (by omega : c.toNat < 256)] at hbytes
      have hcode : c = Char.ofNat 13 ∨ c = Char.ofNat 10 := by
        rw [← Char.ofNat_toNat c]
        exact hbytes.imp (congrArg Char.ofNat) (congrArg Char.ofNat)
      rcases hcode with rfl | rfl <;> rfl
    · obtain ⟨b, others, hcons⟩ := List.exists_cons_of_ne_nil (@String.utf8EncodeChar_ne_nil c)
      have hb : b ∈ String.utf8EncodeChar c := hcons ▸ List.mem_cons_self
      have hlarge := le_of_mem_utf8EncodeChar (Nat.lt_of_not_le hsmall) hb
      rcases hbytes b hb with rfl | rfl <;> exact absurd hlarge (by decide)
  · intro hends b hb
    obtain ⟨c, hc, hmem⟩ := List.mem_flatMap.mp hb
    have hend := hends c hc
    simp only [isLineEnd, Bool.or_eq_true, beq_iff_eq] at hend
    have hreturn : String.utf8EncodeChar '\r' = [0x0d] := rfl
    have hfeed : String.utf8EncodeChar '\n' = [0x0a] := rfl
    rcases hend with rfl | rfl
    · rw [hreturn] at hmem
      exact .inl (List.mem_singleton.mp hmem)
    · rw [hfeed] at hmem
      exact .inr (List.mem_singleton.mp hmem)

end Headers

/-! ## Judging a line -/

/-- What the reader makes of a line. -/
def judgeLine (line : List UInt8) : Except FrameFault HeaderLine :=
  if maxHeaderLineBytes < line.length then .error tooLong else interpretLine line

section Judging

variable {line : List UInt8} {value : List Char} {n : Nat}

theorem judgeLine_of_short (hshort : line.length ≤ maxHeaderLineBytes) :
    judgeLine line = interpretLine line := if_neg (Nat.not_lt_of_le hshort)

theorem judgeLine_blank (hsound : Sound line) (hblank : IsBlank line) :
    judgeLine line = .ok .blank := by
  obtain ⟨chars, rfl⟩ := hsound.text
  rw [judgeLine_of_short hsound.short, interpretLine_bytesOf, isBlank_bytesOf_iff.mp hblank]
  rfl

theorem judgeLine_length (hsound : Sound line) (htells : TellsLength line value)
    (hnumber : IsNumber value n) (hsmall : n ≤ maxMessageBytes) :
    judgeLine line = .ok (.length n) := by
  rw [judgeLine_of_short hsound.short, interpretLine_of_tellsLength htells,
    checkLength_eq_ok_iff.mpr ⟨hnumber, hsmall⟩]
  rfl

theorem judgeLine_other (hsound : Sound line) (hblank : ¬ IsBlank line)
    (hother : ∀ value, ¬ TellsLength line value) : judgeLine line = .ok .other := by
  obtain ⟨chars, rfl⟩ := hsound.text
  rw [judgeLine_of_short hsound.short]
  exact interpretLine_of_not_tellsLength hother (mt isBlank_bytesOf_iff.mpr hblank)

/-- A line that cannot be read is a fault of the protocol. -/
theorem judgeLine_of_not_sound (hunsound : ¬ Sound line) :
    ∃ text, judgeLine line = .error (.protocol text) := by
  by_cases hshort : line.length ≤ maxHeaderLineBytes
  · rw [judgeLine_of_short hshort]
    by_cases htext : ∃ chars, line = bytesOf chars
    · obtain ⟨value, htells, hnone⟩ : ∃ value, TellsLength line value ∧
          ¬ ∃ n, IsNumber value n ∧ n ≤ maxMessageBytes := by
        by_contra hall
        refine hunsound ⟨hshort, htext, fun value htells => ?_⟩
        by_contra hnone
        exact hall ⟨value, htells, hnone⟩
      rw [interpretLine_of_tellsLength htells]
      cases hchecked : checkLength value with
      | ok n => exact absurd ⟨n, checkLength_eq_ok_iff.mp hchecked⟩ hnone
      | error fault =>
          obtain ⟨text, rfl⟩ := protocol_of_checkLength hchecked
          exact ⟨text, rfl⟩
    · refine ⟨"header line is not UTF-8", ?_⟩
      rw [interpretLine]
      cases hdecode : decodeUtf8? line with
      | none => rfl
      | some text => exact absurd ⟨_, decodeUtf8?_eq_some hdecode⟩ htext
  · exact ⟨_, if_pos (Nat.lt_of_not_le hshort)⟩

/-- Every line is one of four things. -/
theorem line_cases (line : List UInt8) :
    ¬ Sound line ∨ Sound line ∧ (IsBlank line ∨
      ¬ IsBlank line ∧ ((∃ value n, TellsLength line value ∧ IsNumber value n ∧
        judgeLine line = .ok (.length n)) ∨
        (∀ value, ¬ TellsLength line value) ∧ judgeLine line = .ok .other)) := by
  by_cases hsound : Sound line
  · refine .inr ⟨hsound, ?_⟩
    by_cases hblank : IsBlank line
    · exact .inl hblank
    · refine .inr ⟨hblank, ?_⟩
      by_cases htells : ∃ value, TellsLength line value
      · obtain ⟨value, htells⟩ := htells
        obtain ⟨n, hnumber, hsmall⟩ := hsound.length value htells
        exact .inl ⟨value, n, htells, hnumber, judgeLine_length hsound htells hnumber hsmall⟩
      · have hother := not_exists.mp htells
        exact .inr ⟨hother, judgeLine_other hsound hblank hother⟩
  · exact .inl hsound

/-- A line can be read if something is made of it. -/
theorem sound_iff : Sound line ↔ (judgeLine line).isOk = true := by
  rcases line_cases line with
    hunsound | ⟨hsound, hblank | ⟨-, ⟨value, n, -, -, hjudged⟩ | ⟨-, hjudged⟩⟩⟩
  · obtain ⟨text, hjudged⟩ := judgeLine_of_not_sound hunsound
    rw [hjudged]
    exact iff_of_false hunsound (by simp [Except.isOk, Except.toBool])
  · rw [judgeLine_blank hsound hblank]
    exact iff_of_true hsound rfl
  · rw [hjudged]
    exact iff_of_true hsound rfl
  · rw [hjudged]
    exact iff_of_true hsound rfl

instance (line : List UInt8) : Decidable (Sound line) := decidable_of_iff _ sound_iff.symm

end Judging

end Framing

end DebugBridge
