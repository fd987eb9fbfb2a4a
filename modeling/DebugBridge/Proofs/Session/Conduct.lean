import DebugBridge.Proofs.Protocol.Notices
import DebugBridge.Proofs.Session.RequestReactions

/-!
# Conduct of turns

Two views of a turn that later proofs share: what it tells the editor, and what it leaves of the
session's standing.  Each primitive turn has one lemma for each view, so that a handler is read
through them and never through the messages themselves.
-/

namespace DebugBridge.Session

/-- How far a session has come with its debuggee, and what the editor has asked to see of it. -/
structure Standing where
  config : BackendConfig
  launched : Option Launch
  initializedSent : Bool
  paths : Option ResourceDirectories
  resourceName : Option String
  shownThread : Option Int
  handles : Handles FrameScope

def standing (session : Session) : Standing where
  config := session.config
  launched := session.launched
  initializedSent := session.initializedSent
  paths := session.paths
  resourceName := session.resourceName
  shownThread := session.contexts.shownThread
  handles := session.handles

/-! ## Primitive turns -/

section Primitives

variable (session : Session)

@[simp]
theorem noticesIn_nil : noticesIn [] = [] := rfl

theorem noticesIn_logs (records : List LogRecord) : noticesIn (records.map .log) = [] := by
  rw [noticesIn, List.filterMap_eq_nil_iff]
  intro effect heffect
  obtain ⟨record, -, rfl⟩ := List.mem_map.mp heffect
  rfl

@[simp]
theorem noticesIn_send (message : Message) :
    noticesIn (send message session).2 = [message.notice] := by
  have hone : noticesIn [Effect.send (message.toJson session.outbox.nextSeq)] =
      [message.notice] := by
    simp [noticesIn, Message.notice?_toJson]
  simp only [send, Outbox.number, noticesIn_append, noticesIn_logs, List.nil_append, hone]

@[simp]
theorem noticesIn_log (level : LogLevel) (message : String) (fields : List (String × LogValue)) :
    noticesIn (log level message fields session).2 = [] := rfl

@[simp]
theorem noticesIn_respond (request : Request) (body : Option Json) :
    noticesIn (respond request body session).2 = [.reply (request.reply true)] :=
  noticesIn_send session _

@[simp]
theorem noticesIn_respondFailure (request : Request) (message : String) :
    noticesIn (respondFailure request message session).2 = [.reply (request.reply false)] :=
  noticesIn_send session _

@[simp]
theorem noticesIn_emit (name : String) (body : Option Json) :
    noticesIn (emit name body session).2 = [.event { name, body }] :=
  noticesIn_send session _

@[simp]
theorem noticesIn_spawn (activity : Activity) : noticesIn (spawn activity session).2 = [] := rfl

@[simp]
theorem noticesIn_put (id : Nat) (activity : Activity) :
    noticesIn (put id activity session).2 = [] := rfl

@[simp]
theorem noticesIn_await (id : Nat) (activity : Activity) (call : BackendCall) :
    noticesIn (await id activity call session).2 = [] := rfl

@[simp]
theorem noticesIn_sleep (id : Nat) (activity : Activity) (deadline : Nat) :
    noticesIn (sleep id activity deadline session).2 = [] := rfl

@[simp]
theorem noticesIn_finish (id : Nat) : noticesIn (finish id session).2 = [] := rfl

@[simp]
theorem noticesIn_cancel (isMeant : Activity → Bool) :
    noticesIn (cancel isMeant session).2 = [] := by
  rw [noticesIn, List.filterMap_eq_nil_iff]
  intro effect heffect
  obtain ⟨entry, -, rfl⟩ := List.mem_map.mp heffect
  rfl

@[simp]
theorem noticesIn_shutdown : noticesIn (shutdown session).2 = [] := by
  rw [shutdown, Turn.andThen_snd, noticesIn_append, noticesIn_cancel]
  rfl

@[simp]
theorem noticesIn_spawns (fresh : List Activity) :
    noticesIn (Turn.all (fresh.map spawn) session).2 = [] := by
  induction fresh generalizing session with
  | nil => rfl
  | cons activity fresh ih => simp [ih]

@[simp]
theorem standing_send (message : Message) :
    (send message session).1.standing = session.standing := rfl

@[simp]
theorem standing_log (level : LogLevel) (message : String) (fields : List (String × LogValue)) :
    (log level message fields session).1.standing = session.standing := rfl

@[simp]
theorem standing_respond (request : Request) (body : Option Json) :
    (respond request body session).1.standing = session.standing := rfl

@[simp]
theorem standing_respondFailure (request : Request) (message : String) :
    (respondFailure request message session).1.standing = session.standing := rfl

@[simp]
theorem standing_emit (name : String) (body : Option Json) :
    (emit name body session).1.standing = session.standing := rfl

@[simp]
theorem standing_spawn (activity : Activity) :
    (spawn activity session).1.standing = session.standing := rfl

@[simp]
theorem standing_put (id : Nat) (activity : Activity) :
    (put id activity session).1.standing = session.standing := rfl

@[simp]
theorem standing_await (id : Nat) (activity : Activity) (call : BackendCall) :
    (await id activity call session).1.standing = session.standing := rfl

@[simp]
theorem standing_sleep (id : Nat) (activity : Activity) (deadline : Nat) :
    (sleep id activity deadline session).1.standing = session.standing := rfl

@[simp]
theorem standing_finish (id : Nat) : (finish id session).1.standing = session.standing := rfl

@[simp]
theorem standing_cancel (isMeant : Activity → Bool) :
    (cancel isMeant session).1.standing = session.standing := rfl

@[simp]
theorem standing_shutdown : (shutdown session).1.standing = session.standing := rfl

@[simp]
theorem standing_spawns (fresh : List Activity) :
    (Turn.all (fresh.map spawn) session).1.standing = session.standing := by
  induction fresh generalizing session with
  | nil => rfl
  | cons activity fresh ih => simp [ih]

end Primitives

end DebugBridge.Session
