import DebugBridge.Proofs.Framing.Header
import DebugBridge.Proofs.Json.Members

/-!
# Streams of frames

A stream of frames is read as what its bodies hold, in order, however it arrives.  A body that is no
JSON text costs one fault and none of the bytes around it.  What the writer frames is read back.
-/

namespace DebugBridge

namespace Framing

/-- One thing that reading a stream comes to. -/
inductive Reading
  | value (value : Json)
  | fault (fault : FrameFault)
  | finished

/-- What a body is read as. -/
def Reading.ofBody (body : List UInt8) : Reading :=
  match Json.parse body with
  | .ok read => .value read
  | .error failure => .fault (jsonFault (failure.message body))

/-- Reads frames as long as there are any, and goes on behind a body that is no JSON text.  Beside
the readings are the bytes that are left, unless the reading has ended; `fuel` is more than the
bytes. -/
def readOn (ending : StreamEnd) : (fuel : Nat) → List UInt8 → List Reading × Option (List UInt8)
  | 0, input => ([], some input)
  | fuel + 1, input =>
    match nextValue input ending with
    | .waiting => ([], some input)
    | .finished => ([.finished], none)
    | .value value rest =>
      let (readings, left) := readOn ending fuel rest
      (.value value :: readings, left)
    | .failed (.json text) rest =>
      let (readings, left) := readOn ending fuel rest
      (.fault (.json text) :: readings, left)
    | .failed fault _ => ([.fault fault], none)

/-- Reads as far as it goes after each chunk that arrives, and to the end when the stream closes
behind the last one. -/
def readChunks : (chunks : List (List UInt8)) → (buffer : List UInt8) → List Reading
  | [], buffer => (readOn .closed (buffer.length + 1) buffer).1
  | chunk :: chunks, buffer =>
    match readOn .unfinished ((buffer ++ chunk).length + 1) (buffer ++ chunk) with
    | (readings, some left) => readings ++ readChunks chunks left
    | (readings, none) => readings

section Stream

variable {bodies : List (List UInt8)} {fuel : Nat}

theorem length_pos_frame (body : List UInt8) : 0 < (frame body).length := by
  rw [frame_eq, headerBlock]
  simp only [List.length_append, List.length_cons]
  omega

theorem readOn_frame {body : List UInt8} (hsmall : body.length ≤ maxMessageBytes)
    (ending : StreamEnd) (fuel : Nat) (rest : List UInt8) :
    readOn ending (fuel + 1) (frame body ++ rest) =
      (.ofBody body :: (readOn ending fuel rest).1, (readOn ending fuel rest).2) := by
  rw [readOn, nextValue_frame hsmall, bodyResult, readBody, Reading.ofBody]
  cases Json.parse body <;> rfl

/-- Of frames of which only the first bytes have arrived, those that are whole are read, and what
has arrived of the others is kept. -/
theorem readOn_unfinished (hsmall : ∀ body ∈ bodies, body.length ≤ maxMessageBytes)
    {input later : List UInt8} (hinput : input ++ later = bodies.flatMap frame)
    (hfuel : input.length < fuel) :
    ∃ done todo left, bodies = done ++ todo ∧
      readOn .unfinished fuel input = (done.map .ofBody, some left) ∧
      left ++ later = todo.flatMap frame := by
  induction bodies generalizing input fuel with
  | nil =>
      obtain ⟨rfl, rfl⟩ := List.append_eq_nil_iff.mp hinput
      refine ⟨[], [], [], rfl, ?_, rfl⟩
      cases fuel <;> rfl
  | cons body bodies ih =>
      obtain ⟨hbody, hmore⟩ := List.forall_mem_cons.mp hsmall
      obtain ⟨fuel, rfl⟩ := Nat.exists_eq_succ_of_ne_zero (Nat.ne_zero_of_lt hfuel)
      have hwhole : ∀ part, input = frame body ++ part → part ++ later = bodies.flatMap frame →
          ∃ done todo left, body :: bodies = done ++ todo ∧
            readOn .unfinished (fuel + 1) input = (done.map .ofBody, some left) ∧
            left ++ later = todo.flatMap frame := by
        rintro part rfl hpart
        have hframe := length_pos_frame body
        rw [List.length_append] at hfuel
        have hshort : part.length < fuel := by omega
        obtain ⟨done, todo, left, rfl, hread, hleft⟩ := ih hmore hpart hshort
        refine ⟨body :: done, todo, left, rfl, ?_, hleft⟩
        rw [readOn_frame hbody, hread]
        rfl
      rw [List.flatMap_cons] at hinput
      rcases List.append_eq_append_iff.mp hinput with
        ⟨missing, hframe, hlater⟩ | ⟨part, hsplit, hlater⟩
      · cases missing with
        | nil =>
            rw [List.append_nil] at hframe
            exact hwhole [] (by rw [hframe, List.append_nil]) hlater
        | cons b missing =>
            refine ⟨[], body :: bodies, input, rfl, ?_, ?_⟩
            · rw [readOn, nextValue_unfinished hbody hframe.symm (List.cons_ne_nil b missing)]
              rfl
            · rw [List.flatMap_cons, hinput]
      · exact hwhole part hsplit hlater.symm

/-- Frames that have all arrived are all read, and the stream ends between frames. -/
theorem readOn_closed (hsmall : ∀ body ∈ bodies, body.length ≤ maxMessageBytes)
    (hfuel : (bodies.flatMap frame).length < fuel) :
    readOn .closed fuel (bodies.flatMap frame) = (bodies.map .ofBody ++ [.finished], none) := by
  induction bodies generalizing fuel with
  | nil =>
      obtain ⟨fuel, rfl⟩ := Nat.exists_eq_succ_of_ne_zero (Nat.ne_zero_of_lt hfuel)
      rfl
  | cons body bodies ih =>
      obtain ⟨hbody, hmore⟩ := List.forall_mem_cons.mp hsmall
      obtain ⟨fuel, rfl⟩ := Nat.exists_eq_succ_of_ne_zero (Nat.ne_zero_of_lt hfuel)
      have hframe := length_pos_frame body
      rw [List.flatMap_cons, List.length_append] at hfuel
      rw [List.flatMap_cons, readOn_frame hbody, ih hmore (by omega)]
      rfl

/-- However the stream of frames is cut, its bodies are read in order, and then it ends. -/
theorem readChunks_frames (hsmall : ∀ body ∈ bodies, body.length ≤ maxMessageBytes)
    {chunks : List (List UInt8)} {buffer : List UInt8}
    (hstream : buffer ++ chunks.flatten = bodies.flatMap frame) :
    readChunks chunks buffer = bodies.map .ofBody ++ [.finished] := by
  induction chunks generalizing buffer bodies with
  | nil =>
      rw [List.flatten_nil, List.append_nil] at hstream
      rw [readChunks, hstream, readOn_closed hsmall (Nat.lt_succ_self _)]
  | cons chunk chunks ih =>
      rw [List.flatten_cons, ← List.append_assoc] at hstream
      obtain ⟨done, todo, left, rfl, hread, hleft⟩ :=
        readOn_unfinished hsmall hstream (Nat.lt_succ_self _)
      have htodo : ∀ body ∈ todo, body.length ≤ maxMessageBytes :=
        fun body hbody => hsmall body (List.mem_append_right done hbody)
      simp only [readChunks, hread]
      rw [ih htodo hleft, List.map_append, List.append_assoc]

end Stream

/-! ## What the writer frames -/

/-- A value of integers is read back from the frame that is written for it. -/
theorem nextValue_ofValue {value : Json} (hintegral : value.Integral)
    (hdepth : value.nesting ≤ Json.nestingLimit)
    (hsmall : value.bytes.length ≤ maxMessageBytes) (rest : List UInt8) (ending : StreamEnd) :
    nextValue (ofValue value ++ rest) ending = .value value rest := by
  rw [ofValue, nextValue_frame hsmall, bodyResult, readBody, Json.parse_bytes hintegral hdepth]

theorem nextRequest_of_nextValue {input rest : List UInt8} {ending : StreamEnd} {value : Json}
    {request : Request} (hvalue : nextValue input ending = .value value rest)
    (hrequest : JsonDecoder.run Request.decoder value = .ok request) :
    nextRequest input ending = .value request rest := by
  simp only [nextRequest, hvalue, hrequest]

end Framing

namespace Request

theorem toJson_eq (request : Request) :
    request.toJson = .object [
      ("arguments", request.arguments),
      ("command", .string request.command),
      ("seq", .int request.seq),
      ("type", .string request.type)] := by
  have htype : ¬ "type" < "seq" := by decide
  have hcommand : "command" < "seq" := by decide
  have harguments : "arguments" < "command" := by decide
  simp [toJson, Json.ofMembers, Json.sortMembers, Json.insertMember, htype, hcommand, harguments]

/-- A request is decoded from what it is encoded as. -/
theorem run_decoder_toJson {request : Request} (hseq : Json.fitsInt64 request.seq = true) :
    JsonDecoder.run decoder request.toJson = .ok request := by
  have hrange : -0x8000000000000000 ≤ request.seq ∧ request.seq ≤ 0x7fffffffffffffff := by
    simp only [Json.fitsInt64, Bool.and_eq_true, decide_eq_true_eq] at hseq
    omega
  rw [toJson_eq]
  simp [decoder, Format.record, Format.requiredField, Format.field, Format.int64, Format.map,
    Format.string, Format.text, Format.integer, JsonFormat.anything, Except.map,
    JsonDecoder.decodeRecord, JsonDecoder.decodeMembers, findField, missingRequired, Json.int,
    Json.Number.inRange, hrange]

end Request

namespace Framing

/-- A stream of frames is read as its bodies say, in order and to a clean end, however it is cut: a
body that is no JSON text costs one fault, and its neighbours are read all the same.  And what the
writer frames is read back, whatever follows: a value of integers of at most 64 bits as that value,
and as the request that it encodes. -/
theorem frames_are_read_back :
    (∀ (bodies chunks : List (List UInt8)), (∀ body ∈ bodies, body.length ≤ maxMessageBytes) →
      chunks.flatten = bodies.flatMap frame →
        readChunks chunks [] = bodies.map .ofBody ++ [.finished]) ∧
    (∀ (value : Json) (rest : List UInt8) (ending : StreamEnd), value.Integral →
      value.nesting ≤ Json.nestingLimit → value.bytes.length ≤ maxMessageBytes →
        nextValue (ofValue value ++ rest) ending = .value value rest ∧
        ∀ request, JsonDecoder.run Request.decoder value = .ok request →
          nextRequest (ofValue value ++ rest) ending = .value request rest) ∧
    (∀ (request : Request) (rest : List UInt8) (ending : StreamEnd),
      Json.fitsInt64 request.seq = true → request.toJson.Integral →
      request.toJson.nesting ≤ Json.nestingLimit →
      request.toJson.bytes.length ≤ maxMessageBytes →
        nextRequest (ofValue request.toJson ++ rest) ending = .value request rest) := by
  refine ⟨?_, ?_, ?_⟩
  · intro bodies chunks hsmall hstream
    exact readChunks_frames hsmall hstream
  · intro value rest ending hintegral hdepth hsmall
    have hvalue := nextValue_ofValue hintegral hdepth hsmall rest ending
    exact ⟨hvalue, fun request hrequest => nextRequest_of_nextValue hvalue hrequest⟩
  · intro request rest ending hseq hintegral hdepth hsmall
    exact nextRequest_of_nextValue (nextValue_ofValue hintegral hdepth hsmall rest ending)
      (Request.run_decoder_toJson hseq)

/-- A request with a text that needs escapes and a number that needs 64 bits. -/
def sampleRequest : Request where
  seq := 7
  type := "request"
  command := "evaluate"
  arguments := .object [("expression", .string "é\"\n"), ("limit", .int 0xffffffffffffffff)]

/-- The request, a body that is cut short, and the text of a number. -/
def sampleBodies : List (List UInt8) := [sampleRequest.toJson.bytes, [0x7b], [0x35]]

theorem integral_sampleRequest : sampleRequest.toJson.Integral := by
  rw [Request.toJson_eq, sampleRequest]
  simp only [Json.Integral, Json.IntegralMembers, Json.int, Json.Ascending]
  decide

theorem frames_are_read_back_byte_by_byte :
    (∀ body ∈ sampleBodies, body.length ≤ maxMessageBytes) ∧
    sampleRequest.toJson.nesting ≤ Json.nestingLimit ∧
    readChunks ((sampleBodies.flatMap frame).map fun b => [b]) [] =
      [.value sampleRequest.toJson,
        .fault (.json "EOF while parsing an object at line 1 column 1"),
        .value (.int 5), .finished] ∧
    nextValue (ofValue sampleRequest.toJson ++ [0x7b]) .unfinished =
      .value sampleRequest.toJson [0x7b] ∧
    nextRequest (ofValue sampleRequest.toJson ++ [0x7b]) .unfinished =
      .value sampleRequest [0x7b] := by
  have hsmall : ∀ body ∈ sampleBodies, body.length ≤ maxMessageBytes := by decide +kernel
  have hdepth : sampleRequest.toJson.nesting ≤ Json.nestingLimit := by decide +kernel
  have hsize : sampleRequest.toJson.bytes.length ≤ maxMessageBytes := by decide +kernel
  have hread : sampleBodies.map Reading.ofBody =
      [.value sampleRequest.toJson,
        .fault (.json "EOF while parsing an object at line 1 column 1"),
        .value (.int 5)] := by
    have hbroken : Reading.ofBody [0x7b] =
        .fault (.json "EOF while parsing an object at line 1 column 1") := rfl
    have hnumber : Reading.ofBody [0x35] = .value (.int 5) := rfl
    rw [sampleBodies, List.map_cons, List.map_cons, List.map_cons, List.map_nil, hbroken, hnumber,
      Reading.ofBody, Json.parse_bytes integral_sampleRequest hdepth]
  refine ⟨hsmall, hdepth, ?_, ?_, ?_⟩
  · have hstream := List.flatMap_singleton' (sampleBodies.flatMap frame)
    rw [List.flatMap_def] at hstream
    rw [frames_are_read_back.1 sampleBodies _ hsmall hstream, hread]
    rfl
  · exact (frames_are_read_back.2.1 _ _ _ integral_sampleRequest hdepth hsize).1
  · exact frames_are_read_back.2.2 _ _ _ rfl integral_sampleRequest hdepth hsize

end Framing

end DebugBridge
