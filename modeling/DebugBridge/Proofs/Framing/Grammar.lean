import DebugBridge.Proofs.Framing.Lines

/-!
# The grammar of frames

What a stream that has ended is read as is told by its lines: blank lines are skipped, the lines up
to the next blank one are the header, the last length in the header is the length of the body, and
the body is what follows.  It does not matter how the stream arrives, and nothing behind the body or
behind a line that cannot be read is touched.
-/

namespace DebugBridge.Framing

open Text

/-! ## The grammar -/

/-- The last line that tells a length tells this one. -/
def LastLength (header : List (List UInt8)) (n : Nat) : Prop :=
  ∃ front line behind value, header = front ++ line :: behind ∧ TellsLength line value ∧
    IsNumber value n ∧ ∀ other ∈ behind, ∀ value, ¬ TellsLength other value

/-- The lines of a header, and the blank line that ends it. -/
structure IsBlock (header : List (List UInt8)) (blank : List UInt8) : Prop where
  header : ∀ line ∈ header, ¬ IsBlank line ∧ Sound line
  blank : IsBlank blank ∧ Sound blank

/-- Bytes that begin with the frame of a value, behind blank lines, and what is left behind it. -/
inductive Framed (input : List UInt8) : Json → List UInt8 → Prop
  | intro {skipped header others : List (List UInt8)} {blank body rest : List UInt8} {value : Json}
      (hlines : splitLines input = skipped ++ (header ++ blank :: others))
      (hskipped : ∀ line ∈ skipped, IsBlank line ∧ Sound line) (hblock : IsBlock header blank)
      (hlength : LastLength header body.length) (hbehind : others.flatten = body ++ rest)
      (hbody : Json.parse body = .ok value) : Framed input value rest

/-! ## Reading lines -/

/-- The header block of a stream that consists of these lines. -/
def readLines (block : Block) : List (List UInt8) → BlockResult
  | [] =>
    if block.begun then .failed (.protocol "stream ended inside a header block") [] else .finished
  | line :: lines =>
    match judgeLine line with
    | .error fault => .failed fault (line.drop (maxHeaderLineBytes + 1) ++ lines.flatten)
    | .ok .blank =>
      if !block.begun then readLines block lines
      else match block.length with
        | some length => .body length lines.flatten
        | none => .failed (.protocol "missing Content-Length header") lines.flatten
    | .ok (.length length) => readLines { begun := true, length := some length } lines
    | .ok .other => readLines { block with begun := true } lines

/-- The reader goes from line to line. -/
theorem readBlock_eq_readLines {fuel : Nat} {input : List UInt8} (hfuel : input.length < fuel)
    (block : Block) : readBlock fuel block input .closed = readLines block (splitLines input) := by
  -- Each line takes at least one byte away, so what is left of the fuel suffices for what is left.
  induction fuel generalizing block input with
  | zero => exact absurd hfuel (Nat.not_lt_zero _)
  | succ fuel ih =>
      cases hlines : splitLines input with
      | nil =>
          rw [splitLines_eq_nil_iff.mp hlines]
          rfl
      | cons line lines =>
          by_cases hshort : line.length ≤ maxHeaderLineBytes
          · have hread := readLine_of_short hlines hshort
            have hless := length_lt_of_readLine hread
            have hagain := (of_splitLines_cons hlines).2.1
            have hnext : ∀ block,
                readBlock fuel block lines.flatten .closed = readLines block lines := by
              intro block
              rw [ih (by omega), hagain]
            have hjudged := judgeLine_of_short hshort
            have hdrop : line.drop (maxHeaderLineBytes + 1) = [] :=
              List.drop_eq_nil_of_le (Nat.le_succ_of_le hshort)
            cases hsaid : interpretLine line with
            | error fault =>
                simp only [readBlock, readLines, hread, hjudged, hsaid, hdrop, List.nil_append]
            | ok said =>
                cases said with
                | blank =>
                    cases block with
                    | mk begun length =>
                        cases begun <;> cases length <;>
                          simp [readBlock, readLines, hread, hjudged, hsaid, hnext]
                | length n => simp only [readBlock, readLines, hread, hjudged, hsaid, hnext]
                | other => simp only [readBlock, readLines, hread, hjudged, hsaid, hnext]
          · have hlong := Nat.lt_of_not_le hshort
            have hjudged : judgeLine line = .error tooLong := if_pos hlong
            simp only [readBlock, readLines, readLine_of_long hlines hlong, hjudged]

section Lines

variable {header skipped lines others : List (List UInt8)} {line blank rest : List UInt8}
variable {length : Option Nat} {n : Nat}

/-- The length that is known at the end of a header: the last one in it, or else the one before. -/
def Known (length : Option Nat) (header : List (List UInt8)) (n : Nat) : Prop :=
  LastLength header n ∨ length = some n ∧ ∀ line ∈ header, ∀ value, ¬ TellsLength line value

theorem not_lastLength_nil : ¬ LastLength [] n := by
  rintro ⟨front, line, behind, value, hheader, -⟩
  simp at hheader

theorem known_nil_iff : Known length [] n ↔ length = some n := by
  simp [Known, not_lastLength_nil]

theorem known_cons_of_other (hother : ∀ value, ¬ TellsLength line value) :
    Known length (line :: header) n ↔ Known length header n := by
  have hlast : LastLength (line :: header) n ↔ LastLength header n := by
    constructor
    · rintro ⟨front, last, behind, value, hheader, htells, hrest⟩
      cases front with
      | nil =>
          obtain ⟨rfl, -⟩ := List.cons.inj hheader
          exact absurd htells (hother value)
      | cons first front =>
          exact ⟨front, last, behind, value, (List.cons.inj hheader).2, htells, hrest⟩
    · rintro ⟨front, last, behind, value, rfl, hrest⟩
      exact ⟨line :: front, last, behind, value, rfl, hrest⟩
  rw [Known, Known, hlast, List.forall_mem_cons]
  simp [hother]

theorem known_cons_of_length {value : List Char} {m : Nat} (htells : TellsLength line value)
    (hnumber : IsNumber value m) :
    Known length (line :: header) n ↔ Known (some m) header n := by
  have hnone : ¬ ∀ value, ¬ TellsLength line value := fun hall => hall value htells
  rw [Known, Known, List.forall_mem_cons]
  constructor
  · rintro (⟨front, last, behind, other, hheader, hlast, hn, hbehind⟩ | ⟨-, hall, -⟩)
    · cases front with
      | nil =>
          obtain ⟨rfl, rfl⟩ := List.cons.inj hheader
          obtain rfl := htells.unique hlast
          exact .inr ⟨congrArg some (hnumber.unique hn), hbehind⟩
      | cons first front =>
          exact .inl ⟨front, last, behind, other, (List.cons.inj hheader).2, hlast, hn, hbehind⟩
    · exact absurd hall hnone
  · rintro (⟨front, last, behind, other, rfl, hrest⟩ | ⟨hm, hall⟩)
    · exact .inl ⟨line :: front, last, behind, other, rfl, hrest⟩
    · obtain rfl := Option.some.inj hm
      exact .inl ⟨[], line, header, value, rfl, htells, hnumber, hall⟩

theorem readLines_blank (hblank : IsBlank line) (hsound : Sound line) (block : Block) :
    readLines block (line :: lines) =
      if !block.begun then readLines block lines
      else match block.length with
        | some length => .body length lines.flatten
        | none => .failed (.protocol "missing Content-Length header") lines.flatten := by
  rw [readLines, judgeLine_blank hsound hblank]

theorem readLines_not_sound (hunsound : ¬ Sound line) (lines : List (List UInt8)) (block : Block) :
    ∃ text, readLines block (line :: lines) =
      .failed (.protocol text) (line.drop (maxHeaderLineBytes + 1) ++ lines.flatten) := by
  obtain ⟨text, hjudged⟩ := judgeLine_of_not_sound hunsound
  exact ⟨text, by rw [readLines, hjudged]⟩

/-- A line of the header changes at most what is known of the length. -/
theorem readLines_header (hblank : ¬ IsBlank line) (hsound : Sound line) (length : Option Nat) :
    ∃ next, (∀ header n, Known length (line :: header) n ↔ Known next header n) ∧
      ∀ begun lines, readLines { begun, length } (line :: lines) =
        readLines { begun := true, length := next } lines := by
  rcases line_cases line with hunsound | ⟨-, hall | ⟨-, hsaid⟩⟩
  · exact absurd hsound hunsound
  · exact absurd hall hblank
  · rcases hsaid with ⟨value, m, htells, hnumber, hjudged⟩ | ⟨hother, hjudged⟩
    · refine ⟨some m, fun header n => known_cons_of_length htells hnumber, fun begun lines => ?_⟩
      rw [readLines, hjudged]
    · refine ⟨length, fun header n => known_cons_of_other hother, fun begun lines => ?_⟩
      rw [readLines, hjudged]

/-- A block is read as the length that is known at its end. -/
theorem readLines_block (hblock : IsBlock header blank) (hknown : Known length header n)
    (others : List (List UInt8)) :
    readLines { begun := true, length } (header ++ blank :: others) = .body n others.flatten := by
  induction header generalizing length with
  | nil =>
      rw [List.nil_append, readLines_blank hblock.blank.1 hblock.blank.2, known_nil_iff.mp hknown]
      rfl
  | cons line header ih =>
      obtain ⟨⟨hblank, hsound⟩, hmore⟩ := List.forall_mem_cons.mp hblock.header
      obtain ⟨next, hnext, hread⟩ := readLines_header hblank hsound length
      rw [List.cons_append, hread]
      exact ih ⟨hmore, hblock.blank⟩ ((hnext header n).mp hknown)

/-- What is read as a length is a block. -/
theorem block_of_readLines
    (hread : readLines { begun := true, length } lines = .body n rest) :
    ∃ header blank others, lines = header ++ blank :: others ∧ IsBlock header blank ∧
      Known length header n ∧ rest = others.flatten := by
  -- What is known of the length goes along: a line of the header replaces it, if it tells one.
  induction lines generalizing length with
  | nil => cases hread
  | cons line lines ih =>
      by_cases hsound : Sound line
      · by_cases hblank : IsBlank line
        · rw [readLines_blank hblank hsound] at hread
          cases length with
          | none => cases hread
          | some known =>
              cases hread
              exact ⟨[], line, lines, rfl, ⟨by simp, hblank, hsound⟩, known_nil_iff.mpr rfl, rfl⟩
        · obtain ⟨next, hnext, hsame⟩ := readLines_header hblank hsound length
          rw [hsame] at hread
          obtain ⟨header, blank, others, rfl, hblock, hknown, hrest⟩ := ih hread
          have hheader : ∀ other ∈ line :: header, ¬ IsBlank other ∧ Sound other :=
            List.forall_mem_cons.mpr ⟨⟨hblank, hsound⟩, hblock.header⟩
          exact ⟨line :: header, blank, others, rfl, ⟨hheader, hblock.blank⟩,
            (hnext header n).mpr hknown, hrest⟩
      · obtain ⟨text, hfailed⟩ := readLines_not_sound hsound lines { begun := true, length }
        rw [hfailed] at hread
        cases hread

theorem readLines_ne_waiting (block : Block) (lines : List (List UInt8)) :
    readLines block lines ≠ .waiting := by
  induction lines generalizing block with
  | nil =>
      rw [readLines]
      split <;> simp
  | cons line lines ih =>
      rw [readLines]
      split
      · simp
      · split
        · exact ih block
        · split <;> simp
      · exact ih _
      · exact ih _

theorem readLines_begun_ne_finished (length : Option Nat) (lines : List (List UInt8)) :
    readLines { begun := true, length } lines ≠ .finished := by
  induction lines generalizing length with
  | nil => simp [readLines]
  | cons line lines ih =>
      by_cases hsound : Sound line
      · by_cases hblank : IsBlank line
        · rw [readLines_blank hblank hsound]
          cases length <;> simp
        · obtain ⟨next, -, hsame⟩ := readLines_header hblank hsound length
          rw [hsame]
          exact ih next
      · obtain ⟨text, hfailed⟩ := readLines_not_sound hsound lines { begun := true, length }
        simp [hfailed]

/-- Blank lines in front of a block are skipped. -/
theorem readLines_skipped (hskipped : ∀ line ∈ skipped, IsBlank line ∧ Sound line)
    (lines : List (List UInt8)) : readLines {} (skipped ++ lines) = readLines {} lines := by
  induction skipped with
  | nil => rfl
  | cons line skipped ih =>
      obtain ⟨⟨hblank, hsound⟩, hmore⟩ := List.forall_mem_cons.mp hskipped
      rw [List.cons_append, readLines_blank hblank hsound]
      exact ih hmore

/-- A block begins with the first line that is not skipped. -/
theorem exists_skipped (lines : List (List UInt8)) :
    ∃ skipped rest, lines = skipped ++ rest ∧ (∀ line ∈ skipped, IsBlank line ∧ Sound line) ∧
      ∀ line ∈ rest.head?, ¬ (IsBlank line ∧ Sound line) := by
  induction lines with
  | nil => exact ⟨[], [], rfl, by simp, by simp⟩
  | cons line lines ih =>
      by_cases hline : IsBlank line ∧ Sound line
      · obtain ⟨skipped, rest, rfl, hskipped, hrest⟩ := ih
        exact ⟨line :: skipped, rest, rfl, List.forall_mem_cons.mpr ⟨hline, hskipped⟩, hrest⟩
      · exact ⟨[], line :: lines, rfl, by simp, by simpa using hline⟩

/-- A line that is not skipped begins the block. -/
theorem readLines_begin (hline : ¬ (IsBlank line ∧ Sound line)) (lines : List (List UInt8)) :
    readLines {} (line :: lines) = readLines { begun := true } (line :: lines) := by
  by_cases hsound : Sound line
  · obtain ⟨next, -, hsame⟩ := readLines_header (fun hblank => hline ⟨hblank, hsound⟩) hsound none
    rw [hsame, hsame]
  · obtain ⟨text, hjudged⟩ := judgeLine_of_not_sound hsound
    simp only [readLines, hjudged]

/-- Nothing is read from a stream of blank lines only. -/
theorem readLines_eq_finished_iff :
    readLines {} lines = .finished ↔ ∀ line ∈ lines, IsBlank line ∧ Sound line := by
  constructor
  · obtain ⟨skipped, rest, rfl, hskipped, hrest⟩ := exists_skipped lines
    rw [readLines_skipped hskipped]
    cases rest with
    | nil => simpa using fun _ => hskipped
    | cons line rest =>
        rw [readLines_begin (hrest line rfl)]
        exact fun hread => absurd hread (readLines_begun_ne_finished none (line :: rest))
  · intro hblank
    have hread := readLines_skipped hblank []
    rw [List.append_nil] at hread
    exact hread

/-- The length of a body is read exactly where a block tells it. -/
theorem readLines_eq_body_iff :
    readLines {} lines = .body n rest ↔
      ∃ skipped header blank others, lines = skipped ++ (header ++ blank :: others) ∧
        (∀ line ∈ skipped, IsBlank line ∧ Sound line) ∧ IsBlock header blank ∧
        LastLength header n ∧ rest = others.flatten := by
  constructor
  · intro hread
    obtain ⟨skipped, behind, rfl, hskipped, hbehind⟩ := exists_skipped lines
    rw [readLines_skipped hskipped] at hread
    cases behind with
    | nil => cases hread
    | cons line behind =>
        rw [readLines_begin (hbehind line rfl)] at hread
        obtain ⟨header, blank, others, hlines, hblock, hknown, hrest⟩ := block_of_readLines hread
        rw [hlines]
        exact ⟨skipped, header, blank, others, rfl, hskipped, hblock,
          hknown.resolve_right fun hnone => absurd hnone.1 (by simp), hrest⟩
  · rintro ⟨skipped, header, blank, others, rfl, hskipped, hblock, hlength, rfl⟩
    rw [readLines_skipped hskipped]
    cases header with
    | nil => exact absurd hlength not_lastLength_nil
    | cons line header =>
        have hline := (hblock.header line List.mem_cons_self).1
        rw [List.cons_append, readLines_begin fun hall => hline hall.1, ← List.cons_append]
        exact readLines_block hblock (.inl hlength) others

/-- A line that cannot be read ends the reading, if the block has not ended before. -/
theorem readLines_unsound (hskipped : ∀ line ∈ skipped, IsBlank line ∧ Sound line)
    (hheader : ∀ line ∈ header, ¬ IsBlank line ∧ Sound line) (hunsound : ¬ Sound line)
    (others : List (List UInt8)) :
    ∃ text, readLines {} (skipped ++ (header ++ line :: others)) =
      .failed (.protocol text) (line.drop (maxHeaderLineBytes + 1) ++ others.flatten) := by
  rw [readLines_skipped hskipped]
  have hany : ∀ block, ∃ text, readLines block (header ++ line :: others) =
      .failed (.protocol text) (line.drop (maxHeaderLineBytes + 1) ++ others.flatten) := by
    induction header with
    | nil => exact readLines_not_sound hunsound others
    | cons first header ih =>
        rintro ⟨begun, length⟩
        obtain ⟨⟨hblank, hsound⟩, hmore⟩ := List.forall_mem_cons.mp hheader
        obtain ⟨next, -, hsame⟩ := readLines_header hblank hsound length
        rw [List.cons_append, hsame]
        exact ih hmore _
  exact hany {}

end Lines

/-! ## Reading a value -/

/-- Tries to read a value after each chunk that arrives, and when the stream ends behind the last
one.  Chunks that have not arrived when the value is read are left as well. -/
def readArriving : (chunks : List (List UInt8)) → (buffer : List UInt8) → ReadResult Json
  | [], buffer => nextValue buffer .closed
  | chunk :: chunks, buffer =>
    match nextValue (buffer ++ chunk) .unfinished with
    | .waiting => readArriving chunks (buffer ++ chunk)
    | result => result.extend chunks.flatten

section Values

variable {input rest : List UInt8} {value : Json}

/-- It does not matter how a stream arrives. -/
theorem readArriving_eq (chunks : List (List UInt8)) (buffer : List UInt8) :
    readArriving chunks buffer = nextValue (buffer ++ chunks.flatten) .closed := by
  induction chunks generalizing buffer with
  | nil => rw [readArriving, List.flatten_nil, List.append_nil]
  | cons chunk chunks ih =>
      rw [List.flatten_cons, ← List.append_assoc, readArriving]
      by_cases hwaiting : nextValue (buffer ++ chunk) .unfinished = .waiting
      · rw [hwaiting]
        exact ih (buffer ++ chunk)
      · rw [nextValue_append hwaiting]
        cases hread : nextValue (buffer ++ chunk) .unfinished with
        | waiting => exact absurd hread hwaiting
        | finished => rfl
        | failed fault rest => rfl
        | value value rest => rfl

theorem nextValue_eq (input : List UInt8) :
    nextValue input .closed =
      match readLines {} (splitLines input) with
      | .waiting => .waiting
      | .finished => .finished
      | .failed fault rest => .failed fault rest
      | .body length rest =>
        if length ≤ rest.length then bodyResult (rest.take length) (rest.drop length)
        else .failed earlyEnd [] := by
  rw [nextValue, readBlock_eq_readLines (Nat.lt_succ_self _)]
  cases readLines {} (splitLines input) <;> rfl

/-- A stream that has ended is always read as something. -/
theorem nextValue_closed_ne_waiting (input : List UInt8) : nextValue input .closed ≠ .waiting := by
  rw [nextValue_eq]
  split
  · next hread => exact absurd hread (readLines_ne_waiting {} _)
  · simp
  · simp
  · split
    · rw [bodyResult]
      split <;> simp
    · simp

theorem nextValue_eq_finished_iff :
    nextValue input .closed = .finished ↔
      ∀ line ∈ splitLines input, IsBlank line ∧ Sound line := by
  rw [nextValue_eq, ← readLines_eq_finished_iff]
  cases readLines {} (splitLines input) with
  | waiting => simp
  | finished => simp
  | failed fault rest => simp
  | body length rest =>
      refine iff_of_false ?_ (by simp)
      dsimp only
      split
      · rw [bodyResult]
        split <;> simp
      · simp

/-- A value is read exactly where its frame is. -/
theorem nextValue_eq_value_iff :
    nextValue input .closed = .value value rest ↔ Framed input value rest := by
  rw [nextValue_eq]
  constructor
  · intro hread
    split at hread
    · cases hread
    · cases hread
    · cases hread
    · next length behind hblock =>
        obtain ⟨skipped, header, blank, others, hlines, hskipped, hisBlock, hlength, rfl⟩ :=
          readLines_eq_body_iff.mp hblock
        split at hread
        · next hwhole =>
            have hlast : LastLength header (others.flatten.take length).length := by
              rw [List.length_take, Nat.min_eq_left hwhole]
              exact hlength
            rw [bodyResult, readBody] at hread
            cases hparse : Json.parse (others.flatten.take length) with
            | error failure =>
                rw [hparse] at hread
                cases hread
            | ok parsed =>
                rw [hparse] at hread
                cases hread
                exact .intro hlines hskipped hisBlock hlast
                  (List.take_append_drop length _).symm hparse
        · cases hread
  · rintro ⟨hlines, hskipped, hblock, hlength, hbehind, hbody⟩
    next skipped header others blank body =>
    rw [readLines_eq_body_iff.mpr ⟨skipped, header, blank, others, hlines, hskipped, hblock,
      hlength, rfl⟩, hbehind]
    dsimp only
    rw [if_pos (by simp), List.take_left, List.drop_left, bodyResult, readBody, hbody]

/-- A frame is used up from the first blank line in front of it to the end of its body. -/
theorem Framed.bytes (hframed : Framed input value rest) :
    ∃ (lines : List (List UInt8)) (body : List UInt8),
      input = lines.flatten ++ body ++ rest ∧ Json.parse body = .ok value := by
  cases hframed with
  | @intro skipped header others blank body _ _ hlines _ _ _ hbehind hbody =>
      refine ⟨skipped ++ (header ++ [blank]), body, ?_, hbody⟩
      rw [← flatten_splitLines input, hlines]
      simp [hbehind]

/-- What the writer makes of a body is a frame. -/
theorem framed_frame {body : List UInt8} (hsmall : body.length ≤ maxMessageBytes)
    (hbody : Json.parse body = .ok value) (rest : List UInt8) :
    Framed (frame body ++ rest) value rest := by
  rw [← nextValue_eq_value_iff, nextValue_frame hsmall, bodyResult, readBody, hbody]

end Values

/-- However a stream arrives that ends, one reading of it gives a clean end exactly if it consists
of blank lines that can be read, a value exactly if it begins with a frame of the value behind such
lines, all that is behind the frame being left, and otherwise a fault.  A line that cannot be read,
and that a block has not ended before, is a fault of the protocol, and no more is read than shows
it. -/
theorem readArriving_grammar (chunks : List (List UInt8)) :
    readArriving chunks [] ≠ .waiting ∧
    (readArriving chunks [] = .finished ↔
      ∀ line ∈ splitLines chunks.flatten, IsBlank line ∧ Sound line) ∧
    (∀ value rest, readArriving chunks [] = .value value rest ↔
      Framed chunks.flatten value rest) ∧
    (∀ skipped header line others,
      splitLines chunks.flatten = skipped ++ (header ++ line :: others) →
      (∀ line ∈ skipped, IsBlank line ∧ Sound line) →
      (∀ line ∈ header, ¬ IsBlank line ∧ Sound line) → ¬ Sound line →
        ∃ text, readArriving chunks [] =
          .failed (.protocol text) (line.drop (maxHeaderLineBytes + 1) ++ others.flatten)) := by
  have hwhole : readArriving chunks [] = nextValue chunks.flatten .closed :=
    readArriving_eq chunks []
  rw [hwhole]
  refine ⟨nextValue_closed_ne_waiting _, nextValue_eq_finished_iff,
    fun value rest => nextValue_eq_value_iff, ?_⟩
  intro skipped header line others hlines hskipped hheader hunsound
  rw [nextValue_eq, hlines]
  obtain ⟨text, hread⟩ := readLines_unsound hskipped hheader hunsound others
  rw [hread]
  exact ⟨text, rfl⟩

/-- The bytes of some texts, one after another. -/
def bytesOfTexts (texts : List String) : List (List UInt8) :=
  texts.map fun text => bytesOf text.toList

theorem readArriving_grammar_of_letter :
    let chunks := bytesOfTexts ["\r\nAccept: a", "ny\nContent-Length: 1", "x\nlast"]
    let skipped := bytesOfTexts ["\r\n"]
    let header := bytesOfTexts ["Accept: any\n"]
    let line := bytesOf "Content-Length: 1x\n".toList
    let others := bytesOfTexts ["last"]
    splitLines chunks.flatten = skipped ++ (header ++ line :: others) ∧
      (∀ line ∈ skipped, IsBlank line ∧ Sound line) ∧
      (∀ line ∈ header, ¬ IsBlank line ∧ Sound line) ∧ ¬ Sound line ∧
      ∃ text, readArriving chunks [] = .failed (.protocol text) others.flatten := by
  intro chunks skipped header line others
  have hlines : splitLines chunks.flatten = skipped ++ (header ++ line :: others) := by
    decide +kernel
  have hskipped : ∀ line ∈ skipped, IsBlank line ∧ Sound line := by decide +kernel
  have hheader : ∀ line ∈ header, ¬ IsBlank line ∧ Sound line := by decide +kernel
  have hunsound : ¬ Sound line := by decide +kernel
  refine ⟨hlines, hskipped, hheader, hunsound, ?_⟩
  exact (readArriving_grammar chunks).2.2.2 skipped header line others hlines hskipped hheader
    hunsound

end DebugBridge.Framing
