import DebugBridge.Framing.Frame
import DebugBridge.Proofs.Json.RoundTrip

/-!
# Reading a frame back

The header block that is written in front of a body is read as the length of that body, so the
reader takes the body whole and stops right behind it.  Anything less than the whole frame makes the
reader wait.
-/

namespace DebugBridge

open Text

namespace Text

/-- What satisfies `p` is dropped from the end, up to a character that does not. -/
theorem dropEndWhile_append {p : Char → Bool} {chars ending : List Char}
    (hending : ∀ c ∈ ending, p c = true) (hlast : ∀ c ∈ chars.getLast?, p c = false) :
    dropEndWhile p (chars ++ ending) = chars := by
  have hreversed : ∀ c ∈ ending.reverse, p c = true := by
    intro c hc
    exact hending c (List.mem_reverse.mp hc)
  rw [dropEndWhile, List.reverse_append, List.dropWhile_append_of_pos hreversed]
  cases hchars : chars.reverse with
  | nil => rw [List.dropWhile_nil, ← hchars, List.reverse_reverse]
  | cons c before =>
      have hc : p c = false := by
        refine hlast c ?_
        rw [← List.head?_reverse, hchars]
        rfl
      rw [List.dropWhile_cons_of_neg (by simp [hc]), ← hchars, List.reverse_reverse]

theorem isBlank_of_isDigit {c : Char} (hc : c.isDigit = true) : isBlank c = false := by
  obtain ⟨hlow, hhigh⟩ := Char.isDigit_iff_toNat.mp hc
  have hzero : '0'.toNat = 48 := rfl
  have hnine : '9'.toNat = 57 := rfl
  simp only [isBlank, inRanges, blank, List.any_cons, List.any_nil, Bool.or_false,
    Bool.or_eq_false_iff, Bool.and_eq_false_iff, decide_eq_false_iff_not]
  omega

/-- Nothing is trimmed off a row of digits but the blank before it. -/
theorem trimChars_digits {digits : List Char} (hdigits : ∀ c ∈ digits, c.isDigit = true) :
    trimChars (' ' :: digits) = digits := by
  have hnone : ∀ c ∈ digits, isBlank c = false := fun c hc => isBlank_of_isDigit (hdigits c hc)
  have hstart : (' ' :: digits).dropWhile isBlank = digits := by
    rw [List.dropWhile_cons_of_pos (by decide)]
    cases digits with
    | nil => rfl
    | cons c digits => rw [List.dropWhile_cons_of_neg (by simp [hnone])]
  have hend := @dropEndWhile_append isBlank digits [] (by simp)
    fun c hc => hnone c (List.mem_of_getLast? hc)
  rw [List.append_nil] at hend
  rw [trimChars, hstart, hend]

end Text

namespace Framing

/-! ## Lines -/

section Lines

variable {line : List UInt8}

theorem lineLength?_line {window : Nat} (hplain : ∀ b ∈ line, b ≠ 0x0a)
    (hwindow : line.length < window) (rest : List UInt8) :
    lineLength? window (line ++ 0x0a :: rest) = some (line.length + 1) := by
  induction line generalizing window with
  | nil =>
      cases window with
      | zero => exact absurd hwindow (Nat.not_lt_zero _)
      | succ window => rfl
  | cons b line ih =>
      obtain ⟨hb, hline⟩ := List.forall_mem_cons.mp hplain
      cases window with
      | zero => exact absurd hwindow (Nat.not_lt_zero _)
      | succ window =>
          rw [List.cons_append, lineLength?, if_neg hb,
            ih hline (Nat.lt_of_succ_lt_succ hwindow)]
          rfl

theorem lineLength?_eq_none (window : Nat) (hplain : ∀ b ∈ line, b ≠ 0x0a) :
    lineLength? window line = none := by
  induction line generalizing window with
  | nil => cases window <;> rfl
  | cons b line ih =>
      obtain ⟨hb, hline⟩ := List.forall_mem_cons.mp hplain
      cases window with
      | zero => rfl
      | succ window =>
          rw [lineLength?, if_neg hb, ih window hline]
          rfl

/-- A line that is not too long is read with its line feed, and nothing behind it. -/
theorem readLine_line (hplain : ∀ b ∈ line, b ≠ 0x0a) (hshort : line.length < maxHeaderLineBytes)
    (rest : List UInt8) (ending : StreamEnd) :
    readLine (line ++ 0x0a :: rest) ending = .line (line ++ [0x0a]) rest := by
  have hsplit : line ++ 0x0a :: rest = (line ++ [0x0a]) ++ rest := by simp
  have hlength : (line ++ [0x0a]).length = line.length + 1 := by simp
  simp only [readLine, lineLength?_line hplain (Nat.lt_succ_of_lt hshort)]
  rw [if_neg (by omega), hsplit, ← hlength, List.take_left, List.drop_left]

/-- A line that may still grow is waited for. -/
theorem readLine_unfinished (hplain : ∀ b ∈ line, b ≠ 0x0a)
    (hshort : line.length < maxHeaderLineBytes) : readLine line .unfinished = .waiting := by
  simp only [readLine, lineLength?_eq_none _ hplain]
  rw [if_neg (by omega)]

end Lines

/-! ## The length -/

theorem readDigits_digits {digits : List Char} (hdigits : ∀ c ∈ digits, c.isDigit = true) {n : Nat}
    (hfits : Nat.ofDigitChars 10 digits n ≤ greatestLength) :
    readDigits n digits = .ok (Nat.ofDigitChars 10 digits n) := by
  induction digits generalizing n with
  | nil => rfl
  | cons c digits ih =>
      obtain ⟨hc, hmore⟩ := List.forall_mem_cons.mp hdigits
      rw [Nat.ofDigitChars_cons] at hfits ⊢
      have hgrows := Json.le_ofDigitChars digits (10 * n + (c.toNat - '0'.toNat))
      rw [readDigits, if_pos hc]
      dsimp only
      rw [if_neg (by omega)]
      exact ih hmore hfits

theorem readLength_toString {n : Nat} (hfits : n ≤ greatestLength) :
    readLength (toString n).toList = .ok n := by
  have hdigits := @Json.isDigit_of_mem_toString n
  have hvalue : Nat.ofDigitChars 10 (toString n).toList 0 = n := by
    rw [Nat.toString_eq_ofList_toDigits, String.toList_ofList, Nat.ofDigitChars_ten_toDigits]
  have hread := readDigits_digits hdigits (hvalue.symm ▸ hfits)
  rw [hvalue] at hread
  cases hchars : (toString n).toList with
  | nil => exact absurd hchars (Json.toList_toString_ne_nil n)
  | cons c digits =>
      have hplus : c ≠ '+' := by
        rintro rfl
        have hdigit := hdigits '+' (hchars ▸ List.mem_cons_self)
        exact absurd hdigit (by decide)
      rw [hchars] at hread
      rw [readLength] <;> simp [hplus, hread]

/-- What stands before the length of a body. -/
def lengthLabel : List Char :=
  ['C', 'o', 'n', 't', 'e', 'n', 't', '-', 'L', 'e', 'n', 'g', 't', 'h', ':', ' ']

/-- The line that tells the length of a body, without its end. -/
def lengthLine (length : Nat) : List Char := lengthLabel ++ (toString length).toList

theorem fits_of_small {n : Nat} (hsmall : n ≤ maxMessageBytes) : n ≤ greatestLength :=
  Nat.le_trans hsmall (by decide)

theorem checkLength_toString {n : Nat} (hsmall : n ≤ maxMessageBytes) :
    checkLength (toString n).toList = .ok n := by
  rw [checkLength, readLength_toString (fits_of_small hsmall)]
  dsimp only
  rw [if_neg (Nat.not_lt_of_le hsmall)]

theorem interpretHeader_lengthLine (n : Nat) :
    interpretHeader (lengthLine n) = (checkLength (toString n).toList).map .length := by
  have hcolon : (lengthLine n).dropWhile (· != ':') = ':' :: ' ' :: (toString n).toList := rfl
  have hname : asciiLower (trimChars ((lengthLine n).takeWhile (· != ':'))) = lengthHeader := rfl
  rw [interpretHeader, hcolon]
  dsimp only
  rw [if_pos hname, trimChars_digits Json.isDigit_of_mem_toString]

theorem getLast?_lengthLine (n : Nat) :
    ∀ c ∈ (lengthLine n).getLast?, c.isDigit = true := by
  intro c hc
  rw [lengthLine, List.getLast?_append_of_ne_nil _ (Json.toList_toString_ne_nil n)] at hc
  exact Json.isDigit_of_mem_toString c (List.mem_of_getLast? hc)

theorem isLineEnd_of_isDigit {c : Char} (hc : c.isDigit = true) : isLineEnd c = false := by
  cases hend : isLineEnd c with
  | false => rfl
  | true =>
      simp only [isLineEnd, Bool.or_eq_true, beq_iff_eq] at hend
      rcases hend with rfl | rfl <;> exact absurd hc (by decide)

theorem interpretLine_lengthLine (n : Nat) :
    interpretLine (bytesOf (lengthLine n ++ ['\r', '\n'])) =
      (checkLength (toString n).toList).map .length := by
  have hline : dropEndWhile isLineEnd (lengthLine n ++ ['\r', '\n']) = lengthLine n :=
    dropEndWhile_append (by simp [isLineEnd])
      fun c hc => isLineEnd_of_isDigit (getLast?_lengthLine n c hc)
  have hsome : (lengthLine n).isEmpty = false := rfl
  rw [interpretLine, decodeUtf8?_bytesOf]
  dsimp only
  rw [String.toList_ofList, hline, hsome]
  exact interpretHeader_lengthLine n

/-! ## The header block -/

/-- The first line of a header block, without its line feed. -/
def headerLine (length : Nat) : List UInt8 := bytesOf (lengthLine length ++ ['\r'])

/-- All that stands before a body. -/
def headerBlock (length : Nat) : List UInt8 := headerLine length ++ [0x0a, 0x0d, 0x0a]

theorem frame_eq (body : List UInt8) : frame body = headerBlock body.length ++ body := by
  have htext : "Content-Length: " ++ toString body.length ++ "\r\n\r\n" =
      String.ofList (lengthLine body.length ++ ['\r', '\n', '\r', '\n']) := by
    rw [String.ext_iff]
    simp [lengthLine, lengthLabel]
  have hchars : lengthLine body.length ++ ['\r', '\n', '\r', '\n'] =
      (lengthLine body.length ++ ['\r']) ++ ['\n', '\r', '\n'] := by simp
  have hend : bytesOf ['\n', '\r', '\n'] = [0x0a, 0x0d, 0x0a] := rfl
  rw [frame, htext, encodeUtf8_ofList, hchars, bytesOf_append, hend]
  rfl

theorem plain_headerLine (n : Nat) : ∀ b ∈ headerLine n, b ≠ 0x0a := by
  intro b hb
  rw [headerLine, lengthLine, bytesOf_append, bytesOf_append, List.mem_append,
    List.mem_append] at hb
  have hplain : ∀ bytes : List UInt8, bytes.all (· != 0x0a) = true → ∀ b ∈ bytes, b ≠ 0x0a :=
    fun bytes hall b hmem => bne_iff_ne.mp (List.all_eq_true.mp hall b hmem)
  rcases hb with (hname | hdigit) | hreturn
  · exact hplain _ (by decide) b hname
  · have hb := Json.isDigit_of_mem_bytesOf Json.isDigit_of_mem_toString b hdigit
    rintro rfl
    exact absurd hb (by decide)
  · exact hplain _ (by decide) b hreturn

theorem length_headerLine_lt {n : Nat} (hfits : n ≤ greatestLength) :
    (headerLine n).length < maxHeaderLineBytes := by
  have hdigits : ((toString n).toList).length ≤ 20 := by
    rw [Nat.toString_eq_ofList_toDigits, String.toList_ofList,
      Nat.length_toDigits_le_iff (by decide) (by decide)]
    exact Nat.lt_of_le_of_lt hfits (by decide)
  have hbytes : ∀ chars : List Char, (∀ c ∈ chars, c.isDigit = true) →
      (bytesOf chars).length = chars.length := by
    intro chars hchars
    induction chars with
    | nil => rfl
    | cons c chars ih =>
        obtain ⟨hc, hmore⟩ := List.forall_mem_cons.mp hchars
        rw [bytesOf_cons, (Json.utf8EncodeChar_digit hc).1, List.singleton_append,
          List.length_cons, ih hmore, List.length_cons]
  have hname : (bytesOf lengthLabel).length = 16 := by decide
  have hreturn : (bytesOf ['\r']).length = 1 := by decide
  rw [headerLine, lengthLine, bytesOf_append, bytesOf_append, List.length_append,
    List.length_append, hname, hreturn, hbytes _ Json.isDigit_of_mem_toString]
  have hlimit : maxHeaderLineBytes = 8192 := rfl
  omega

theorem headerLine_feed (n : Nat) :
    headerLine n ++ [0x0a] = bytesOf (lengthLine n ++ ['\r', '\n']) := by
  rw [headerLine, bytesOf_append, bytesOf_append, List.append_assoc]
  rfl

/-- The line that tells the length is taken note of. -/
theorem readBlock_headerLine {n : Nat} (hsmall : n ≤ maxMessageBytes) (fuel : Nat)
    (rest : List UInt8) (ending : StreamEnd) :
    readBlock (fuel + 1) {} (headerLine n ++ 0x0a :: rest) ending =
      readBlock fuel { begun := true, length := some n } rest ending := by
  rw [readBlock, readLine_line (plain_headerLine n) (length_headerLine_lt (fits_of_small hsmall)),
    headerLine_feed]
  dsimp only
  rw [interpretLine_lengthLine, checkLength_toString hsmall]
  rfl

/-- A length that is refused ends the reading. -/
theorem readBlock_refused {n : Nat} {fault : FrameFault} (hfits : n ≤ greatestLength)
    (hrefused : checkLength (toString n).toList = .error fault) (fuel : Nat) (rest : List UInt8)
    (ending : StreamEnd) :
    readBlock (fuel + 1) {} (headerLine n ++ 0x0a :: rest) ending = .failed fault rest := by
  rw [readBlock, readLine_line (plain_headerLine n) (length_headerLine_lt hfits), headerLine_feed]
  dsimp only
  rw [interpretLine_lengthLine, hrefused]
  rfl

/-- The blank line ends the block. -/
theorem readBlock_blank (fuel n : Nat) (rest : List UInt8) (ending : StreamEnd) :
    readBlock (fuel + 1) { begun := true, length := some n } (0x0d :: 0x0a :: rest) ending =
      .body n rest := by
  have hline : readLine (0x0d :: 0x0a :: rest) ending = .line [0x0d, 0x0a] rest :=
    @readLine_line [0x0d] (by simp) (by decide) rest ending
  have hblank : interpretLine [0x0d, 0x0a] = .ok .blank := by
    have hchars := decodeUtf8?_bytesOf ['\r', '\n']
    have hbytes : bytesOf ['\r', '\n'] = [0x0d, 0x0a] := rfl
    rw [hbytes] at hchars
    rw [interpretLine, hchars]
    dsimp only
    rw [String.toList_ofList]
    rfl
  rw [readBlock, hline]
  dsimp only
  rw [hblank]
  rfl

/-- The header block of a frame is read as the length of its body. -/
theorem readBlock_headerBlock {n : Nat} (hsmall : n ≤ maxMessageBytes) (rest : List UInt8)
    (ending : StreamEnd) :
    readBlock ((headerBlock n ++ rest).length + 1) {} (headerBlock n ++ rest) ending =
      .body n rest := by
  have hfuel : 2 ≤ (headerBlock n ++ rest).length + 1 := by
    simp only [headerBlock, List.length_append, List.length_cons]
    omega
  obtain ⟨fuel, hfuel⟩ := Nat.exists_eq_add_of_le' hfuel
  rw [hfuel, headerBlock, List.append_assoc, List.cons_append, readBlock_headerLine hsmall,
    List.cons_append, List.cons_append, List.nil_append, readBlock_blank]

/-- A block that has not arrived whole is waited for. -/
theorem readBlock_unfinished {n fuel : Nat} (hsmall : n ≤ maxMessageBytes) (hfuel : fuel ≠ 0)
    {input later : List UInt8} (hinput : input ++ later = headerBlock n)
    (hlater : later ≠ []) : readBlock fuel {} input .unfinished = .waiting := by
  have hwaits : ∀ (fuel : Nat) (block : Block) (line : List UInt8),
      (∀ b ∈ line, b ≠ 0x0a) → line.length < maxHeaderLineBytes →
        readBlock fuel block line .unfinished = .waiting := by
    intro fuel block line hplain hshort
    cases fuel with
    | zero => rfl
    | succ fuel => rw [readBlock, readLine_unfinished hplain hshort]
  obtain ⟨fuel, rfl⟩ := Nat.exists_eq_succ_of_ne_zero hfuel
  rcases List.append_eq_append_iff.mp hinput with ⟨line, hline, -⟩ | ⟨begun, rfl, hbegun⟩
  · have hpart : ∀ b ∈ input, b ∈ headerLine n := by
      intro b hb
      rw [hline]
      exact List.mem_append_left _ hb
    have hlength : input.length ≤ (headerLine n).length := by
      rw [hline, List.length_append]
      omega
    exact hwaits _ _ _ (fun b hb => plain_headerLine n b (hpart b hb))
      (Nat.lt_of_le_of_lt hlength (length_headerLine_lt (fits_of_small hsmall)))
  · match begun, hbegun with
    | [], _ =>
        rw [List.append_nil]
        exact hwaits _ _ _ (plain_headerLine n) (length_headerLine_lt (fits_of_small hsmall))
    | [b], hbegun =>
        obtain ⟨rfl, -⟩ := List.cons.inj hbegun
        rw [readBlock_headerLine hsmall]
        exact hwaits _ _ _ (by simp) (by decide)
    | [b, c], hbegun =>
        obtain ⟨rfl, hmore⟩ := List.cons.inj hbegun
        obtain ⟨rfl, -⟩ := List.cons.inj hmore
        rw [readBlock_headerLine hsmall]
        exact hwaits _ _ _ (by simp) (by decide)
    | b :: c :: d :: begun, hbegun =>
        have hlength := congrArg List.length hbegun
        have hsome := List.length_pos_of_ne_nil hlater
        simp only [List.cons_append, List.length_cons, List.length_append, List.length_nil]
          at hlength
        omega

/-! ## The frame -/

/-- What a body comes to in front of `rest`: its value, or one fault. -/
def bodyResult (body rest : List UInt8) : ReadResult Json :=
  match readBody body with
  | .ok value => .value value rest
  | .error fault => .failed fault rest

/-- A frame is read as its body says, and nothing behind it is touched. -/
theorem nextValue_frame {body : List UInt8} (hsmall : body.length ≤ maxMessageBytes)
    (rest : List UInt8) (ending : StreamEnd) :
    nextValue (frame body ++ rest) ending = bodyResult body rest := by
  rw [frame_eq, List.append_assoc]
  simp only [nextValue, readBlock_headerBlock hsmall]
  rw [if_pos (by simp), List.take_left, List.drop_left]
  rfl

/-- A body that has not arrived whole is waited for. -/
theorem nextValue_headerBlock {n : Nat} (hsmall : n ≤ maxMessageBytes) {part : List UInt8}
    (hpart : part.length < n) : nextValue (headerBlock n ++ part) .unfinished = .waiting := by
  simp only [nextValue, readBlock_headerBlock hsmall]
  rw [if_neg (Nat.not_le_of_lt hpart)]

/-- A frame that has not arrived whole is waited for. -/
theorem nextValue_unfinished {body input later : List UInt8}
    (hsmall : body.length ≤ maxMessageBytes) (hinput : input ++ later = frame body)
    (hlater : later ≠ []) : nextValue input .unfinished = .waiting := by
  have hsome := List.length_pos_of_ne_nil hlater
  rw [frame_eq] at hinput
  rcases List.append_eq_append_iff.mp hinput with ⟨missing, hblock, hrest⟩ | ⟨part, rfl, hrest⟩
  · cases missing with
    | nil =>
        rw [List.append_nil] at hblock
        rw [List.nil_append] at hrest
        rw [← hblock, ← List.append_nil (headerBlock _)]
        exact nextValue_headerBlock hsmall (hrest ▸ hsome)
    | cons b missing =>
        simp only [nextValue, readBlock_unfinished hsmall (Nat.succ_ne_zero _) hblock.symm
          (List.cons_ne_nil b missing)]
  · have hlength := congrArg List.length hrest
    rw [List.length_append] at hlength
    exact nextValue_headerBlock hsmall (by omega)

end Framing

end DebugBridge
