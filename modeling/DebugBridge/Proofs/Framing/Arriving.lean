import DebugBridge.Framing.Frame

/-!
# What has arrived

What the reader makes of the bytes that have arrived stays true when more of them arrive: they only
stand behind what is left.  Where it waits, it has said nothing yet.
-/

namespace DebugBridge.Framing

/-! ## Lines -/

/-- The result with more bytes behind what is left. -/
def LineResult.extend (more : List UInt8) : LineResult → LineResult
  | .line bytes rest => .line bytes (rest ++ more)
  | .failed fault rest => .failed fault (rest ++ more)
  | .finished => .finished
  | .waiting => .waiting

section Lines

variable {window length : Nat} {input bytes rest : List UInt8} {ending : StreamEnd}

theorem lineLength?_bounds (hlength : lineLength? window input = some length) :
    0 < length ∧ length ≤ input.length := by
  induction input generalizing window length with
  | nil => cases window <;> cases hlength
  | cons b input ih =>
      cases window with
      | zero => cases hlength
      | succ window =>
          rw [lineLength?] at hlength
          split at hlength
          · cases hlength
            simp
          · obtain ⟨before, hbefore, rfl⟩ := Option.map_eq_some_iff.mp hlength
            have hrest := (ih hbefore).2
            simp only [List.length_cons]
            omega

/-- A line feed that was found is found again. -/
theorem lineLength?_append (hlength : lineLength? window input = some length)
    (more : List UInt8) : lineLength? window (input ++ more) = some length := by
  induction input generalizing window length with
  | nil => cases window <;> cases hlength
  | cons b input ih =>
      cases window with
      | zero => cases hlength
      | succ window =>
          rw [lineLength?] at hlength
          rw [List.cons_append, lineLength?]
          split at hlength
          · next hfeed => rw [if_pos hfeed, hlength]
          · next hfeed =>
              obtain ⟨before, hbefore, rfl⟩ := Option.map_eq_some_iff.mp hlength
              rw [if_neg hfeed, ih hbefore, Option.map_some]

/-- Behind the window nothing is looked at. -/
theorem lineLength?_append_of_long (hnone : lineLength? window input = none)
    (hlong : window ≤ input.length) (more : List UInt8) :
    lineLength? window (input ++ more) = none := by
  induction input generalizing window with
  | nil =>
      rw [List.length_nil, Nat.le_zero] at hlong
      rw [hlong]
      rfl
  | cons b input ih =>
      cases window with
      | zero => rfl
      | succ window =>
          rw [lineLength?] at hnone
          rw [List.cons_append, lineLength?]
          split at hnone
          · cases hnone
          · next hfeed =>
              rw [if_neg hfeed, ih (Option.map_eq_none_iff.mp hnone) (Nat.le_of_succ_le_succ hlong),
                Option.map_none]

theorem readLine_ne_finished (input : List UInt8) : readLine input .unfinished ≠ .finished := by
  rw [readLine]
  split
  · split <;> simp
  · split <;> simp

/-- A line that is there stays there. -/
theorem readLine_append (hread : readLine input .unfinished ≠ .waiting) (more : List UInt8)
    (ending : StreamEnd) :
    readLine (input ++ more) ending = (readLine input .unfinished).extend more := by
  cases hlength : lineLength? (maxHeaderLineBytes + 1) input with
  | some length =>
      have hbound := (lineLength?_bounds hlength).2
      simp only [readLine, hlength, lineLength?_append hlength]
      rw [List.take_append_of_le_length hbound, List.drop_append_of_le_length hbound]
      split <;> rfl
  | none =>
      by_cases hlong : maxHeaderLineBytes < input.length
      · have hnone := lineLength?_append_of_long hlength hlong more
        have hlonger : maxHeaderLineBytes < (input ++ more).length := by
          rw [List.length_append]
          omega
        simp only [readLine, hlength, hnone, if_pos hlong, if_pos hlonger]
        rw [List.drop_append_of_le_length hlong]
        rfl
      · refine absurd ?_ hread
        simp only [readLine, hlength, if_neg hlong]

theorem length_lt_of_readLine (hread : readLine input ending = .line bytes rest) :
    rest.length < input.length := by
  unfold readLine at hread
  split at hread
  · next length hlength =>
      split at hread
      · cases hread
      · cases hread
        have hbounds := lineLength?_bounds hlength
        rw [List.length_drop]
        omega
  · split at hread
    · cases hread
    · split at hread
      · cases hread
      · split at hread
        · cases hread
        · next hsome =>
            cases hread
            exact List.length_pos_iff.mpr fun hnil => hsome (List.isEmpty_iff.mpr hnil)
      · cases hread

end Lines

/-! ## Header blocks -/

def BlockResult.extend (more : List UInt8) : BlockResult → BlockResult
  | .body length rest => .body length (rest ++ more)
  | .failed fault rest => .failed fault (rest ++ more)
  | .finished => .finished
  | .waiting => .waiting

section Blocks

variable {fuel longer length : Nat} {block : Block} {input more rest : List UInt8}
variable {ending : StreamEnd}

/-- A header block that is there stays there. -/
theorem readBlock_append (hfuel : input.length < fuel) (hlonger : (input ++ more).length < longer)
    (hread : readBlock fuel block input .unfinished ≠ .waiting) (ending : StreamEnd) :
    readBlock longer block (input ++ more) ending =
      (readBlock fuel block input .unfinished).extend more := by
  induction fuel generalizing longer block input with
  | zero => exact absurd hfuel (Nat.not_lt_zero _)
  | succ fuel ih =>
      obtain ⟨longer, rfl⟩ := Nat.exists_eq_succ_of_ne_zero (Nat.ne_zero_of_lt hlonger)
      cases hline : readLine input .unfinished with
      | waiting =>
          refine absurd ?_ hread
          rw [readBlock, hline]
      | finished => exact absurd hline (readLine_ne_finished input)
      | failed fault rest =>
          have hthere : readLine input .unfinished ≠ .waiting := by simp [hline]
          have hmore := readLine_append hthere more ending
          rw [hline] at hmore
          rw [readBlock, readBlock, hline, hmore]
          rfl
      | line bytes rest =>
          have hthere : readLine input .unfinished ≠ .waiting := by simp [hline]
          have hmore := readLine_append hthere more ending
          rw [hline] at hmore
          have hshort := length_lt_of_readLine hline
          have hrest : rest.length < fuel := by omega
          have hrestLonger : (rest ++ more).length < longer := by
            rw [List.length_append] at hlonger ⊢
            omega
          have hnext : ∀ next, readBlock fuel next rest .unfinished ≠ .waiting →
              readBlock longer next (rest ++ more) ending =
                (readBlock fuel next rest .unfinished).extend more :=
            fun next hnext => ih hrest hrestLonger hnext
          rw [readBlock, hline] at hread
          rw [readBlock, readBlock, hline, hmore]
          simp only [LineResult.extend] at hread ⊢
          generalize interpretLine bytes = read at hread ⊢
          cases read with
          | error fault => rfl
          | ok said =>
              cases said with
              | blank =>
                  simp only at hread ⊢
                  split at hread
                  · next hbegun =>
                      rw [if_pos hbegun, if_pos hbegun]
                      exact hnext _ hread
                  · next hbegun =>
                      rw [if_neg hbegun, if_neg hbegun]
                      cases block.length <;> rfl
              | length bytes => exact hnext _ hread
              | other => exact hnext _ hread

theorem length_lt_of_readBlock (hread : readBlock fuel block input ending = .body length rest) :
    rest.length < input.length := by
  induction fuel generalizing block input with
  | zero => cases hread
  | succ fuel ih =>
      rw [readBlock] at hread
      split at hread
      · cases hread
      · cases hread
      · split at hread <;> cases hread
      · next bytes left hline =>
          have hshort := length_lt_of_readLine hline
          split at hread
          · cases hread
          · split at hread
            · exact Nat.lt_trans (ih hread) hshort
            · split at hread
              · cases hread
                exact hshort
              · cases hread
          · exact Nat.lt_trans (ih hread) hshort
          · exact Nat.lt_trans (ih hread) hshort

end Blocks

/-! ## Frames -/

def ReadResult.extend {α : Type} (more : List UInt8) : ReadResult α → ReadResult α
  | .value read rest => .value read (rest ++ more)
  | .failed fault rest => .failed fault (rest ++ more)
  | .finished => .finished
  | .waiting => .waiting

section Frames

variable {input rest : List UInt8} {ending : StreamEnd} {request : Request}

/-- A frame that is there stays there. -/
theorem nextValue_append (hread : nextValue input .unfinished ≠ .waiting) (more : List UInt8)
    (ending : StreamEnd) :
    nextValue (input ++ more) ending = (nextValue input .unfinished).extend more := by
  have hblock : readBlock (input.length + 1) {} input .unfinished ≠ .waiting := by
    intro hwaiting
    refine hread ?_
    simp only [nextValue, hwaiting]
  have hmore := readBlock_append (Nat.lt_succ_self _) (Nat.lt_succ_self (input ++ more).length)
    hblock ending
  simp only [nextValue] at hread ⊢
  rw [hmore]
  cases hbegun : readBlock (input.length + 1) {} input .unfinished with
  | waiting => rfl
  | finished => rfl
  | failed fault rest => rfl
  | body length rest =>
      rw [hbegun] at hread
      simp only [BlockResult.extend] at hread ⊢
      split at hread
      · next hwhole =>
          have hlonger : length ≤ (rest ++ more).length := by
            rw [List.length_append]
            omega
          rw [if_pos hwhole, if_pos hlonger, List.take_append_of_le_length hwhole,
            List.drop_append_of_le_length hwhole]
          cases readBody (rest.take length) <;> rfl
      · exact absurd rfl hread

theorem nextRequest_append (hread : nextRequest input .unfinished ≠ .waiting) (more : List UInt8)
    (ending : StreamEnd) :
    nextRequest (input ++ more) ending = (nextRequest input .unfinished).extend more := by
  have hvalue : nextValue input .unfinished ≠ .waiting := by
    intro hwaiting
    refine hread ?_
    rw [nextRequest, hwaiting]
  rw [nextRequest, nextRequest, nextValue_append hvalue more ending]
  cases nextValue input .unfinished with
  | waiting => rfl
  | finished => rfl
  | failed fault rest => rfl
  | value value rest =>
      simp only [ReadResult.extend]
      cases JsonDecoder.run Request.decoder value <;> rfl

theorem length_lt_of_nextValue {value : Json} (hread : nextValue input ending = .value value rest) :
    rest.length < input.length := by
  unfold nextValue at hread
  split at hread
  · cases hread
  · cases hread
  · cases hread
  · next length left hblock =>
      have hshort := length_lt_of_readBlock hblock
      split at hread
      · split at hread
        · cases hread
          rw [List.length_drop]
          omega
        · cases hread
      · split at hread <;> cases hread

/-- A request uses up bytes. -/
theorem length_lt_of_nextRequest (hread : nextRequest input ending = .value request rest) :
    rest.length < input.length := by
  rw [nextRequest] at hread
  split at hread
  · cases hread
  · cases hread
  · cases hread
  · next value left hvalue =>
      have hshort := length_lt_of_nextValue hvalue
      split at hread
      · cases hread
        exact hshort
      · cases hread

end Frames

end DebugBridge.Framing
