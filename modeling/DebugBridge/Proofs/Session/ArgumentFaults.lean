import DebugBridge.Framing.Frame
import DebugBridge.Proofs.Decode.Masked
import DebugBridge.Proofs.Session.Inquiries

/-!
# Faults that quote strings

A request may be refused for the types of its fields or of its arguments.  Which requests are
refused does not depend on what their strings say, and the error text tells nothing of a string
either, as long as no quote is in the one that was met.
-/

namespace DebugBridge

/-! ## Alike mismatches -/

namespace Mismatch

/-- The same but for the string that was met. -/
structure Alike (first second : Mismatch) : Prop where
  masked : first.masked = second.masked
  worded : first.Worded ∧ second.Worded

theorem Alike.hidden {first second : Mismatch} (halike : first.Alike second) :
    HiddenIn QuoteFree (fun mismatch => Redaction.json mismatch.message) first second := by
  have hredacted : second.redacted = first.redacted := by
    rw [← redacted_masked, ← halike.masked, redacted_masked]
  refine .of_iff (json_message_eq_redacted halike.worded.1) ?_
  rw [← hredacted]
  exact json_message_eq_redacted halike.worded.2

end Mismatch

namespace JsonDecoder

variable {α : Type}

/-- What is wrong with a value. -/
def mismatch? (decoder : JsonDecoder α) (value : Json) : Option Mismatch :=
  match decoder.run value with
  | .ok _ => none
  | .error mismatch => some mismatch

/-- Nothing is wrong with either of two values, or alike things. -/
def AgreeOn (value other : Json) (check : Json → Option Mismatch) : Prop :=
  (check value = none ∧ check other = none) ∨
    ∃ first second : Mismatch, check value = some first ∧ check other = some second ∧
      first.Alike second

theorem Blind.agreeOn {decoder : JsonDecoder α} (hblind : Blind decoder) {value other : Json}
    (halike : value.Alike other) : AgreeOn value other decoder.mismatch? := by
  have hother := hblind other
  rw [← halike] at hother
  obtain ⟨result, masked, hvalue, hmasked⟩ | ⟨first, hworded, hvalue, hmasked⟩ :=
    (hblind value).outcomes
  · obtain ⟨_, _, hother, -⟩ | ⟨_, -, -, hcontra⟩ := hother.outcomes
    · exact .inl ⟨by rw [mismatch?, hvalue], by rw [mismatch?, hother]⟩
    · cases hmasked.symm.trans hcontra
  · obtain ⟨_, _, -, hcontra⟩ | ⟨second, hwordedOther, hother, hsame⟩ := hother.outcomes
    · cases hmasked.symm.trans hcontra
    · have hmasks := Except.error.inj (hmasked.symm.trans hsame)
      exact .inr ⟨first, second, by rw [mismatch?, hvalue], by rw [mismatch?, hother], hmasks,
        hworded, hwordedOther⟩

end JsonDecoder

/-! ## Requests and their arguments -/

open JsonDecoder Redaction

theorem Request.blind_decoder : Blind (Request.decoder : JsonDecoder Request) := by
  refine blind_record (by decide) ?_ _
  simp only [List.forall_mem_cons]
  refine ⟨?_, ?_, ?_, ?_, by simp⟩
  · exact blind_map _ (blind_integer (by decide) _ _)
  · exact blind_map _ (blind_text (by decide))
  · exact blind_map _ (blind_text (by decide))
  · exact blind_map _ blind_anything

namespace Arguments

theorem blind_int64 : Blind (Format.int64 : JsonDecoder Int) := blind_integer (by decide) _ _

theorem blind_string : Blind (Format.string : JsonDecoder String) := blind_text (by decide)

/-- A record of one field. -/
theorem blind_single {Record α : Type} {name : String} (hclean : Clean name.toList)
    {field : String} {decoder : JsonDecoder α} (hblind : Blind decoder) (required : Bool)
    (set : α → Record → Record) (defaults : Record) :
    Blind (Format.record name false
      [{ name := field, required, update := Format.map set decoder }] defaults) := by
  refine blind_record hclean ?_ _
  rw [List.forall_mem_singleton]
  exact blind_map set hblind

theorem blind_handshakeDecoder : Blind handshakeDecoder := by
  refine blind_record (by decide) ?_ _
  simp only [List.forall_mem_cons]
  refine ⟨?_, ?_, by simp⟩
  · exact blind_map _ (blind_optional blind_boolean)
  · exact blind_map _ (blind_optional blind_boolean)

theorem blind_launchDecoder : Blind launchDecoder := by
  refine blind_record (by decide) ?_ _
  simp only [List.forall_mem_cons]
  refine ⟨?_, ?_, ?_, by simp⟩
  · exact blind_map _ (blind_optional blind_string)
  · exact blind_map _ blind_boolean
  · exact blind_map _ blind_boolean

theorem blind_setBreakpointsDecoder : Blind setBreakpointsDecoder := by
  have hsource : Blind sourceDecoder :=
    blind_single (by decide) (blind_optional blind_string) false _ _
  have hline : Blind lineDecoder := blind_single (by decide) blind_int64 true _ _
  refine blind_record (by decide) ?_ _
  simp only [List.forall_mem_cons]
  refine ⟨?_, ?_, ?_, by simp⟩
  · exact blind_map _ hsource
  · exact blind_map _ (blind_optional (blind_list hline))
  · exact blind_map _ (blind_optional (blind_list blind_int64))

end Arguments

namespace Session

open Arguments

/-- What is wrong with arguments that are not null, for each command that takes any. -/
def checkArguments (command : String) : Json → Option Mismatch :=
  match command with
  | "initialize" => handshakeDecoder.mismatch?
  | "launch" => launchDecoder.mismatch?
  | "setBreakpoints" => setBreakpointsDecoder.mismatch?
  | "stackTrace" => threadDecoder.mismatch?
  | "scopes" => scopesDecoder.mismatch?
  | "variables" => variablesDecoder.mismatch?
  | "continue" => threadDecoder.mismatch?
  | "next" => threadDecoder.mismatch?
  | "stepIn" => threadDecoder.mismatch?
  | "evaluate" => evaluateDecoder.mismatch?
  | _ => fun _ => none

theorem agreeOn_checkArguments (command : String) {value other : Json}
    (halike : value.Alike other) : AgreeOn value other (checkArguments command) := by
  have hthread : Blind threadDecoder :=
    blind_single (by decide) (blind_optional blind_int64) false _ _
  unfold checkArguments
  split
  · exact blind_handshakeDecoder.agreeOn halike
  · exact blind_launchDecoder.agreeOn halike
  · exact blind_setBreakpointsDecoder.agreeOn halike
  · exact hthread.agreeOn halike
  · exact (blind_single (by decide) (blind_optional blind_int64) false _ _ :
      Blind scopesDecoder).agreeOn halike
  · exact (blind_single (by decide) (blind_optional blind_int64) false _ _ :
      Blind variablesDecoder).agreeOn halike
  · exact hthread.agreeOn halike
  · exact hthread.agreeOn halike
  · exact hthread.agreeOn halike
  · exact (blind_single (by decide) (blind_optional blind_string) false _ _ :
      Blind evaluateDecoder).agreeOn halike
  · exact .inl ⟨rfl, rfl⟩

section Requests

variable {request : Request} {mismatch : Mismatch}

theorem decodeArguments_of_mismatch {α : Type} {decoder : JsonDecoder α}
    (hnull : request.arguments.isNull = false)
    (hmismatch : decoder.mismatch? request.arguments = some mismatch) (absent : α) :
    decodeArguments decoder absent request =
      .error (.invalidArguments request.command (Redaction.json mismatch.message)) := by
  rw [decodeArguments, hnull, if_neg Bool.false_ne_true]
  cases hrun : decoder.run request.arguments with
  | ok value =>
      rw [mismatch?, hrun] at hmismatch
      cases hmismatch
  | error found =>
      rw [mismatch?, hrun] at hmismatch
      cases hmismatch
      rfl

/-- Wrong arguments are refused before anything else is looked at. -/
theorem handler_of_mismatch (hnull : request.arguments.isNull = false)
    (hmismatch : checkArguments request.command request.arguments = some mismatch)
    (session : Session) :
    handler request.command request session =
      .error (.invalidArguments request.command (Redaction.json mismatch.message)) := by
  have hdecode : ∀ {α : Type} (decoder : JsonDecoder α) (absent : α),
      decoder.mismatch? request.arguments = some mismatch →
        decodeArguments decoder absent request =
          .error (.invalidArguments request.command (Redaction.json mismatch.message)) :=
    fun decoder absent hwrong => decodeArguments_of_mismatch hnull hwrong absent
  generalize hcommand : request.command = command at hmismatch ⊢
  rw [hcommand] at hdecode
  unfold checkArguments at hmismatch
  split at hmismatch
  any_goals exact bind_eq_error_iff.mpr (.inl (hdecode _ _ hmismatch))
  cases hmismatch

end Requests

end Session

/-! ## Decoding steps -/

/-- A step that decodes what a client sent. -/
inductive DecodingStep
  /-- The fields of a request, when it is read. -/
  | fields
  /-- The arguments of a command, when it is handled. -/
  | arguments (command : String)

namespace DecodingStep

open Framing Session

/-- What is wrong with a value.  Null arguments stand for none at all. -/
def mismatch? : DecodingStep → Json → Option Mismatch
  | .fields => JsonDecoder.mismatch? Request.decoder
  | .arguments command => fun value => if value.isNull then none else checkArguments command value

/-- The error text for a mismatch. -/
def text : DecodingStep → Mismatch → String
  | .fields => fun mismatch => (jsonFault mismatch.message).message
  | .arguments command => fun mismatch =>
    (RequestFault.invalidArguments command (Redaction.json mismatch.message)).message

/-- Whenever the step gets this value, it fails, and this is the error text. -/
def FailsWith : DecodingStep → Json → String → Prop
  | .fields, value, text => ∀ (input : List UInt8) (ending : StreamEnd) (rest : List UInt8),
    nextValue input ending = .value value rest →
      ∃ fault : FrameFault, nextRequest input ending = .failed fault rest ∧ fault.message = text
  | .arguments command, value, text => ∀ request : Request, request.command = command →
    request.arguments = value →
      ∀ (session : Session) (now : Nat), session.Refuses now request text

theorem failsWith_of_mismatch {step : DecodingStep} {value : Json} {mismatch : Mismatch}
    (hmismatch : step.mismatch? value = some mismatch) :
    step.FailsWith value (step.text mismatch) := by
  cases step with
  | fields =>
      intro input ending rest hvalue
      refine ⟨jsonFault mismatch.message, ?_, rfl⟩
      cases hrun : JsonDecoder.run Request.decoder value with
      | ok request => simp [DecodingStep.mismatch?, JsonDecoder.mismatch?, hrun] at hmismatch
      | error found =>
          simp only [DecodingStep.mismatch?, JsonDecoder.mismatch?, hrun] at hmismatch
          cases hmismatch
          simp only [nextRequest, hvalue, hrun]
  | arguments command =>
      rintro request rfl rfl session now
      cases hnull : request.arguments.isNull with
      | true => simp [DecodingStep.mismatch?, hnull] at hmismatch
      | false =>
          have hwrong : checkArguments request.command request.arguments = some mismatch := by
            simpa [DecodingStep.mismatch?, hnull] using hmismatch
          exact refuses_of_handler rfl now (handler_of_mismatch hnull hwrong session)

theorem agreeOn_mismatch (step : DecodingStep) {value other : Json}
    (halike : value.Alike other) : AgreeOn value other step.mismatch? := by
  cases step with
  | fields => exact Request.blind_decoder.agreeOn halike
  | arguments command =>
      have hnull : value.isNull = other.isNull := by
        rw [← Json.isNull_masked, halike, Json.isNull_masked]
      cases hother : other.isNull with
      | true => simp [AgreeOn, DecodingStep.mismatch?, hnull, hother]
      | false =>
          have hcheck := agreeOn_checkArguments command halike
          simpa [AgreeOn, DecodingStep.mismatch?, hnull, hother] using hcheck

theorem hidden_text (step : DecodingStep) {first second : Mismatch}
    (halike : first.Alike second) :
    Mismatch.HiddenIn Mismatch.QuoteFree step.text first second := by
  cases step with
  | fields => exact halike.hidden.after "json error: "
  | arguments command => exact halike.hidden.after ("invalid " ++ command ++ " arguments: ")

/-- Of two values that differ only in what their strings say, both are decoded or both fail, and
for the same mismatch.  The two error texts are the same if no double quote is in the strings that
were met.  If there is one in just one of them, the texts are not the same: the redaction does not
know an escaped quote. -/
theorem type_faults_of_alike_values (step : DecodingStep) {value other : Json} {first : Mismatch}
    (halike : value.Alike other) (hfirst : step.mismatch? value = some first) :
    ∃ second : Mismatch, step.mismatch? other = some second ∧ first.Alike second ∧
      step.FailsWith value (step.text first) ∧ step.FailsWith other (step.text second) ∧
      Mismatch.HiddenIn Mismatch.QuoteFree step.text first second := by
  rcases step.agreeOn_mismatch halike with ⟨hnone, -⟩ | ⟨found, second, hfound, hsecond, hsame⟩
  · cases hnone.symm.trans hfirst
  · cases hfound.symm.trans hfirst
    exact ⟨second, hsecond, hsame, failsWith_of_mismatch hfirst, failsWith_of_mismatch hsecond,
      step.hidden_text hsame⟩

/-- A request whose number is a string. -/
def misnumbered (text : String) : Json := .object [("seq", .string text)]

/-- Arguments of a launch with a string for a flag. -/
def mistaken (text : String) : Json := .object [("stopOnEntry", .string text)]

theorem type_faults_of_misnumbered_and_mistaken :
    (misnumbered "one").Alike (misnumbered "two") ∧
    fields.text (.invalidType (.string "one") "i64") =
      fields.text (.invalidType (.string "two") "i64") ∧
    (mistaken "yes").Alike (mistaken "a\"b") ∧
    (arguments "launch").text (.invalidType (.string "yes") "a boolean") ≠
      (arguments "launch").text (.invalidType (.string "a\"b") "a boolean") := by
  have hone : fields.mismatch? (misnumbered "one") =
      some (.invalidType (.string "one") "i64") := rfl
  have hyes : (arguments "launch").mismatch? (mistaken "yes") =
      some (.invalidType (.string "yes") "a boolean") := rfl
  have halike : (misnumbered "one").Alike (misnumbered "two") := rfl
  have hmistaken : (mistaken "yes").Alike (mistaken "a\"b") := rfl
  refine ⟨halike, ?_, hmistaken, ?_⟩
  · obtain ⟨second, hsecond, -, -, -, hhidden⟩ := type_faults_of_alike_values fields halike hone
    cases hsecond
    exact hhidden.same (by decide) (by decide)
  · obtain ⟨second, hsecond, -, -, -, hhidden⟩ :=
      type_faults_of_alike_values (arguments "launch") hmistaken hyes
    cases hsecond
    exact hhidden.apart (by decide)

end DecodingStep

end DebugBridge
