import DebugBridge.Proofs.Session.Errands

/-!
# Inquiries

Requests for the frames, the scopes and the variables of a pause are answered at once, from what
the session knows.  Each is either accepted, with one body and at most one choice remembered, or
refused.
-/

namespace DebugBridge

/-! ## References -/

namespace Handles

variable {α : Type}

/-- The values of a table with their handles. -/
def numbered (table : Handles α) : List (α × Nat) := table.entries.toList.zipIdx firstHandle

theorem get?_eq_some_iff {table : Handles α} {handle : Int} {value : α} :
    table.get? handle = some value ↔
      ∃ number : Nat, handle = number ∧ (value, number) ∈ table.numbered := by
  simp only [numbered, List.mk_mem_zipIdx_iff_le_and_getElem?_sub, Array.getElem?_toList]
  unfold get?
  constructor
  · intro hfound
    split at hfound
    · next hle =>
        obtain ⟨number, rfl⟩ := Int.eq_ofNat_of_zero_le (Int.le_trans (by decide) hle)
        refine ⟨number, rfl, Int.ofNat_le.mp hle, ?_⟩
        have hplace : ((number : Int) - (firstHandle : Int)).toNat = number - firstHandle := by
          omega
        rwa [hplace] at hfound
    · cases hfound
  · rintro ⟨number, rfl, hle, hfound⟩
    have hplace : ((number : Int) - (firstHandle : Int)).toNat = number - firstHandle := by omega
    rw [if_pos (Int.ofNat_le.mpr hle), hplace, hfound]

theorem lt_of_mem_numbered {table : Handles α} {entry : α × Nat}
    (hentry : entry ∈ table.numbered) : entry.2 < firstHandle + table.entries.size := by
  rw [numbered, List.mem_zipIdx_iff_le_and_getElem?_sub] at hentry
  have hlt := (List.getElem?_eq_some_iff.mp hentry.2).1
  rw [Array.length_toList] at hlt
  omega

/-- Handles grow from one value to the next. -/
theorem pairwise_numbered (table : Handles α) : (table.numbered.map (·.2)).Pairwise (· < ·) := by
  rw [numbered, List.zipIdx_map_snd]
  exact List.pairwise_lt_range'

end Handles

theorem Scope.label_injective : Function.Injective Scope.label := by
  intro first second hlabel
  cases first <;> cases second <;> first | rfl | simp [label] at hlabel

/-! ## Messages -/

/-- The messages that are sent, as the editor gets them. -/
def messagesIn (effects : List Effect) : List Json :=
  effects.filterMap fun
    | .send message => some message
    | _ => none

@[simp]
theorem messagesIn_append (first second : List Effect) :
    messagesIn (first ++ second) = messagesIn first ++ messagesIn second :=
  List.filterMap_append

namespace Session

theorem messagesIn_logs (records : List LogRecord) : messagesIn (records.map .log) = [] := by
  rw [messagesIn, List.filterMap_eq_nil_iff]
  intro effect heffect
  obtain ⟨record, -, rfl⟩ := List.mem_map.mp heffect
  rfl

@[simp]
theorem messagesIn_send (message : Message) (session : Session) :
    messagesIn (send message session).2 = [message.toJson session.outbox.nextSeq] := by
  simp only [send, Outbox.number, messagesIn_append, messagesIn_logs, List.nil_append]
  rfl

theorem messagesIn_reap (session : Session) : messagesIn (reap session).2 = [] := by
  unfold reap
  split
  · rfl
  · rw [messagesIn, List.filterMap_eq_nil_iff]
    intro effect heffect
    obtain ⟨entry, -, rfl⟩ := List.mem_map.mp heffect
    rfl

/-- The request is answered at once, with this body. -/
def Answers (session : Session) (now : Nat) (request : Request) (body : Json) : Prop :=
  messagesIn (step now (.request request) session).2 =
    [(Message.success request (some body)).toJson session.outbox.nextSeq]

/-- The request is refused at once, for this reason. -/
def Refuses (session : Session) (now : Nat) (request : Request) (reason : String) : Prop :=
  messagesIn (step now (.request request) session).2 =
    [(Message.failure request reason).toJson session.outbox.nextSeq]

section Requests

variable {session : Session} {request : Request} {command : String}

theorem answers_of_handler {changed : Session} {body : Json}
    (hcommand : request.command = command) (now : Nat)
    (haccepted : handler command request session = .ok (respond request (some body) changed))
    (hseq : changed.outbox.nextSeq = session.outbox.nextSeq) :
    session.Answers now request body := by
  have hturn : react now (.request request) session = respond request (some body) changed := by
    simp only [react, handle, hcommand, haccepted]
  rw [Answers, step, Turn.andThen_snd, messagesIn_append, messagesIn_reap, List.append_nil, hturn,
    respond, messagesIn_send, hseq]

theorem refuses_of_handler {fault : RequestFault} (hcommand : request.command = command)
    (now : Nat) (hrefused : handler command request session = .error fault) :
    session.Refuses now request fault.message := by
  have hturn : react now (.request request) session = refuse request fault session := by
    simp only [react, handle, hcommand, hrefused]
  rw [Refuses, step, Turn.andThen_snd, messagesIn_append, messagesIn_reap, List.append_nil, hturn,
    refuse, Turn.andThen_snd, messagesIn_append, respondFailure, messagesIn_send]
  rfl

end Requests

/-! ## What is asked for -/

/-- The frame of a scope request; without one it is the only frame there is. -/
def scopedFrame? (request : Request) : Option Int :=
  match decodeArguments Arguments.scopesDecoder {} request with
  | .ok arguments => some (arguments.frame.getD frameId)
  | .error _ => none

/-- The reference whose variables are asked for. -/
def listedReference? (request : Request) : Option Int :=
  match decodeArguments Arguments.variablesDecoder {} request with
  | .ok arguments => arguments.reference
  | .error _ => none

/-! ## What is answered -/

def framesBody (frames : List Json) : Json :=
  .ofMembers [("stackFrames", .array frames), ("totalFrames", .nat frames.length)]

def scopeToJson (scope : Scope × Nat) : Json :=
  .ofMembers [
    ("name", .string scope.1.label),
    ("variablesReference", .nat scope.2),
    ("expensive", .bool false)]

def scopesBody (scopes : List (Scope × Nat)) : Json :=
  .ofMembers [("scopes", .array (scopes.map scopeToJson))]

def variablesBody (shown : VariableMap) : Json :=
  .ofMembers [("variables", .array (shown.map variableToJson))]

/-- Scopes get the handles that follow those given out. -/
theorem allocateScopes_eq (frame : Int) (kinds : List Scope) (handles : Handles FrameScope) :
    (allocateScopes frame kinds handles).1 =
        (kinds.zipIdx (Handles.firstHandle + handles.entries.size)).map scopeToJson ∧
      (allocateScopes frame kinds handles).2.numbered = handles.numbered ++
        (kinds.map fun kind => { kind, frameId := frame }).zipIdx
          (Handles.firstHandle + handles.entries.size) := by
  induction kinds generalizing handles with
  | nil => exact ⟨rfl, (List.append_nil _).symm⟩
  | cons kind kinds ih =>
      obtain ⟨hscopes, hnumbered⟩ := ih (handles.add { kind, frameId := frame }).2
      have hsize : (handles.add { kind, frameId := frame }).2.entries.size =
          handles.entries.size + 1 := Array.size_push _
      have hadded : (handles.add { kind, frameId := frame }).2.numbered = handles.numbered ++
          [({ kind, frameId := frame }, Handles.firstHandle + handles.entries.size)] := by
        simp [Handles.add, Handles.numbered, List.zipIdx_append]
      rw [hsize, ← Nat.add_assoc] at hscopes hnumbered
      constructor
      · rw [List.zipIdx_cons, List.map_cons, ← hscopes]
        rfl
      · rw [List.map_cons, List.zipIdx_cons, List.append_cons, ← hadded, ← hnumbered]
        rfl

section Handlers

variable (request : Request) (session : Session)

/-- A request for frames is accepted exactly where it names the thread of a context. -/
theorem stackTrace_eq :
    (∃ thread context, session.resumedThread? request = some thread ∧
      session.contexts.get? thread = some context ∧
      stackTrace request session = .ok (respond request (some (framesBody (session.frames context)))
        { session with contexts := session.contexts.showThread thread })) ∨
    session.resumedThread? request = none ∧
      ∃ fault, stackTrace request session = .error fault := by
  unfold stackTrace resumedThread?
  cases decodeArguments Arguments.threadDecoder {} request with
  | error fault => exact .inr ⟨rfl, fault, rfl⟩
  | ok arguments =>
      obtain ⟨named⟩ := arguments
      cases named with
      | none => exact .inr ⟨rfl, _, rfl⟩
      | some thread =>
          cases hget : session.contexts.get? thread with
          | none =>
              refine .inr ⟨by simp [Option.filter, hget], .unknownThread thread, ?_⟩
              simp only [bind, Except.bind, requireArgument, hget]
          | some context =>
              refine .inl ⟨thread, context, by simp [Option.filter, hget], hget, ?_⟩
              simp only [bind, Except.bind, requireArgument, hget]
              rfl

theorem scopes_eq :
    (∃ frame, scopedFrame? request = some frame ∧
      scopes request session = .ok (respond request
        (some (scopesBody (Scope.all.zipIdx
          (Handles.firstHandle + session.handles.entries.size))))
        { session with handles := (allocateScopes frame Scope.all session.handles).2 })) ∨
    scopedFrame? request = none ∧ ∃ fault, scopes request session = .error fault := by
  unfold scopes scopedFrame?
  cases decodeArguments Arguments.scopesDecoder {} request with
  | error fault => exact .inr ⟨rfl, fault, rfl⟩
  | ok arguments =>
      refine .inl ⟨_, rfl, ?_⟩
      rw [scopesBody, ← (allocateScopes_eq (arguments.frame.getD frameId) _ _).1]
      rfl

/-- A request for variables is accepted exactly where its reference has a scope. -/
theorem listVariables_eq {reference : Int} (hasked : listedReference? request = some reference) :
    listVariables request session = match session.handles.get? reference with
      | some scope => .ok (respond request (some (variablesBody
          ((session.contexts.shown?.map fun context =>
            context.variableMap scope.kind).getD []))) session)
      | none => .error (.unknownReference reference) := by
  unfold listedReference? at hasked
  unfold listVariables
  cases hdecoded : decodeArguments Arguments.variablesDecoder {} request with
  | error fault =>
      rw [hdecoded] at hasked
      cases hasked
  | ok arguments =>
      rw [hdecoded] at hasked
      simp only [bind, Except.bind, hasked, requireArgument]
      cases session.handles.get? reference with
      | none => rfl
      | some scope => cases session.contexts.shown? <;> rfl

end Handlers

end Session

end DebugBridge
