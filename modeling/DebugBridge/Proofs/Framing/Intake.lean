import DebugBridge.Proofs.Framing.Arriving
import DebugBridge.Proofs.Framing.Header

/-!
# What a stream holds

The messages that a stream of bytes holds, in order, up to where reading them ends: at the end of
the stream, at the first frame that cannot be read, or not yet.  More bytes add messages behind
those that are there, unless reading has ended.
-/

namespace DebugBridge.Framing

/-- The messages of a stream, and how reading ends behind them, if it does. -/
structure Intake where
  messages : List Request := []
  ending : Option (Except FrameFault Unit) := none

/-- With messages before it. -/
def Intake.behind (messages : List Request) (intake : Intake) : Intake :=
  { intake with messages := messages ++ intake.messages }

/-- Reads messages as long as there are any; `fuel` is more than the bytes. -/
def intakeWithin (ending : StreamEnd) : (fuel : Nat) → List UInt8 → Intake
  | 0, _ => {}
  | fuel + 1, input =>
    match nextRequest input ending with
    | .waiting => {}
    | .finished => { ending := some (.ok ()) }
    | .failed fault _ => { ending := some (.error fault) }
    | .value message rest => (intakeWithin ending fuel rest).behind [message]

/-- What a stream of these bytes holds. -/
def intake (ending : StreamEnd) (input : List UInt8) : Intake :=
  intakeWithin ending (input.length + 1) input

/-! ## Message by message -/

section Messages

variable {ending : StreamEnd} {input rest : List UInt8}

theorem Intake.behind_behind (first second : List Request) (intake : Intake) :
    (intake.behind second).behind first = intake.behind (first ++ second) := by
  simp [Intake.behind]

/-- Enough fuel is enough. -/
theorem intakeWithin_eq {fuel other : Nat} (hfuel : input.length < fuel)
    (hother : input.length < other) :
    intakeWithin ending fuel input = intakeWithin ending other input := by
  induction fuel generalizing other input with
  | zero => exact absurd hfuel (Nat.not_lt_zero _)
  | succ fuel ih =>
      obtain ⟨other, rfl⟩ := Nat.exists_eq_succ_of_ne_zero (Nat.ne_zero_of_lt hother)
      simp only [intakeWithin]
      cases hread : nextRequest input ending with
      | waiting => rfl
      | finished => rfl
      | failed fault rest => rfl
      | value message rest =>
          have hshort := length_lt_of_nextRequest hread
          have hrest : rest.length < fuel := by omega
          have hrestOther : rest.length < other := by omega
          simp only [ih hrest hrestOther]

theorem intake_waiting (hread : nextRequest input ending = .waiting) :
    intake ending input = {} := by
  simp only [intake, intakeWithin, hread]

theorem intake_finished (hread : nextRequest input ending = .finished) :
    intake ending input = { ending := some (.ok ()) } := by
  simp only [intake, intakeWithin, hread]

theorem intake_failed {fault : FrameFault} (hread : nextRequest input ending = .failed fault rest) :
    intake ending input = { ending := some (.error fault) } := by
  simp only [intake, intakeWithin, hread]

theorem intake_value {message : Request}
    (hread : nextRequest input ending = .value message rest) :
    intake ending input = (intake ending rest).behind [message] := by
  have hshort := length_lt_of_nextRequest hread
  have hrest : intakeWithin ending input.length rest = intake ending rest :=
    intakeWithin_eq hshort (Nat.lt_succ_self _)
  rw [intake, intakeWithin, hread]
  simp only [hrest]

end Messages

/-! ## What can follow -/

/-- A stream that has come so far can go on with these bytes, and to this end. -/
def Continues (ending : StreamEnd) (more : List UInt8) (later : StreamEnd) : Prop :=
  ending = .unfinished ∨ more = [] ∧ later = ending

section Continues

variable {ending later : StreamEnd} {input more : List UInt8}

theorem Continues.refl (ending : StreamEnd) : Continues ending [] ending := .inr ⟨rfl, rfl⟩

theorem ReadResult.extend_nil {α : Type} (result : ReadResult α) : result.extend [] = result := by
  cases result <;> simp [ReadResult.extend]

/-- What has been read stays read, however the stream goes on. -/
theorem nextRequest_continues {result : ReadResult Request}
    (hcontinues : Continues ending more later) (hread : nextRequest input ending = result)
    (hthere : result ≠ .waiting) :
    nextRequest (input ++ more) later = result.extend more := by
  subst hread
  rcases hcontinues with rfl | ⟨rfl, rfl⟩
  · exact nextRequest_append hthere more later
  · rw [List.append_nil, ReadResult.extend_nil]

end Continues

/-! ## Frames -/

/-- The message in a body: a body that is too long, no JSON text or no request holds none. -/
def messageIn (body : List UInt8) : Except FrameFault Request :=
  match checkLength (toString body.length).toList with
  | .error fault => .error fault
  | .ok _ =>
    match readBody body with
    | .error fault => .error fault
    | .ok value =>
      match JsonDecoder.run Request.decoder value with
      | .error mismatch => .error (jsonFault mismatch.message)
      | .ok message => .ok message

/-- What frames with these bodies hold, and what comes behind them unless one of them ends the
reading. -/
def inFrames (bodies : List (List UInt8)) (behind : Intake) : Intake :=
  match bodies with
  | [] => behind
  | body :: bodies =>
    match messageIn body with
    | .error fault => { ending := some (.error fault) }
    | .ok message => (inFrames bodies behind).behind [message]

section Frames

variable {ending : StreamEnd} {body rest : List UInt8} {bodies : List (List UInt8)}

theorem checkLength_refused {n : Nat} (hfits : n ≤ greatestLength) (hlong : maxMessageBytes < n) :
    ∃ fault, checkLength (toString n).toList = .error fault := by
  rw [checkLength, readLength_toString hfits]
  dsimp only
  rw [if_pos hlong]
  exact ⟨_, rfl⟩

theorem nextRequest_of_messageIn {message : Request} (hfits : body.length ≤ greatestLength)
    (hmessage : messageIn body = .ok message) :
    nextRequest (frame body ++ rest) ending = .value message rest := by
  unfold messageIn at hmessage
  by_cases hsmall : body.length ≤ maxMessageBytes
  · rw [checkLength_toString hsmall] at hmessage
    rw [nextRequest, nextValue_frame hsmall, bodyResult]
    cases hvalue : readBody body with
    | error fault =>
        rw [hvalue] at hmessage
        cases hmessage
    | ok value =>
        simp only [hvalue] at hmessage ⊢
        split at hmessage
        · cases hmessage
        · next request hrequest =>
            cases hmessage
            rw [hrequest]
  · obtain ⟨fault, hrefused⟩ := checkLength_refused hfits (Nat.lt_of_not_le hsmall)
    rw [hrefused] at hmessage
    cases hmessage

theorem nextValue_refused {fault : FrameFault} (hfits : body.length ≤ greatestLength)
    (hrefused : checkLength (toString body.length).toList = .error fault) :
    ∃ left, nextValue (frame body ++ rest) ending = .failed fault left := by
  have hframe : frame body ++ rest =
      headerLine body.length ++ 0x0a :: (0x0d :: 0x0a :: (body ++ rest)) := by
    rw [frame_eq, headerBlock]
    simp
  refine ⟨0x0d :: 0x0a :: (body ++ rest), ?_⟩
  simp only [hframe, nextValue, readBlock_refused hfits hrefused]

theorem nextRequest_of_fault {fault : FrameFault} (hfits : body.length ≤ greatestLength)
    (hfault : messageIn body = .error fault) :
    ∃ left, nextRequest (frame body ++ rest) ending = .failed fault left := by
  unfold messageIn at hfault
  cases hlength : checkLength (toString body.length).toList with
  | error refusal =>
      rw [hlength] at hfault
      cases hfault
      obtain ⟨left, hread⟩ := @nextValue_refused ending body rest fault hfits hlength
      exact ⟨left, by rw [nextRequest, hread]⟩
  | ok length =>
      have hsmall : body.length ≤ maxMessageBytes := by
        by_contra hlong
        obtain ⟨refusal, hrefused⟩ := checkLength_refused hfits (Nat.lt_of_not_le hlong)
        rw [hrefused] at hlength
        cases hlength
      rw [hlength] at hfault
      refine ⟨rest, ?_⟩
      rw [nextRequest, nextValue_frame hsmall, bodyResult]
      cases hvalue : readBody body with
      | error refusal =>
          rw [hvalue] at hfault
          cases hfault
          rfl
      | ok value =>
          simp only [hvalue] at hfault ⊢
          split at hfault
          · next mismatch hmismatch =>
              cases hfault
              rw [hmismatch]
          · cases hfault

/-- Frames hold the messages in their bodies. -/
theorem intake_frames (hfits : ∀ body ∈ bodies, body.length ≤ greatestLength) :
    intake ending (bodies.flatMap frame ++ rest) = inFrames bodies (intake ending rest) := by
  induction bodies with
  | nil => rfl
  | cons body bodies ih =>
      obtain ⟨hbody, hmore⟩ := List.forall_mem_cons.mp hfits
      rw [List.flatMap_cons, List.append_assoc, inFrames]
      cases hmessage : messageIn body with
      | ok message => rw [intake_value (nextRequest_of_messageIn hbody hmessage), ih hmore]
      | error fault =>
          obtain ⟨left, hread⟩ := nextRequest_of_fault hbody hmessage
          rw [intake_failed hread]

end Frames

end DebugBridge.Framing
