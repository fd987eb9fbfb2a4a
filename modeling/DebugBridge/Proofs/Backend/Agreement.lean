import DebugBridge.Proofs.Backend.Exchanges

/-!
# The client and the backend agree

Calls of the client come in any order between the reports of the scripts.  What the backend keeps
is then told by what has been done: of some things the latest counts, others are collected.  So is
what a call is told.
-/

namespace DebugBridge

open Json

/-- Something that is done to the backend, by the client or by the scripts. -/
inductive Deed
  | call (made : BackendCall)
  | reportResource (suffix name path : String)
  | pause (suffix : String) (snapshot : PauseSnapshot)
  | offerResult (result : String)
  /-- The scripts post a mode and a snapshot, in this body. -/
  | post (suffix : String) (mode : ResumeMode) (snapshot : PauseSnapshot) (body : List UInt8)

/-- The members of a posted value say this; a table that is left out is empty. -/
structure PauseSnapshot.Posted (snapshot : PauseSnapshot) (mode : ResumeMode) (value : Json) :
    Prop where
  mode : value.member? "resume_mode" = some (.nat mode.code)
  file : value.member? "current_file" = some (.string snapshot.file)
  line : value.member? "current_line" = some (.int snapshot.line)
  localVariables :
    (value.member? "local_variables").getD (.object []) = .object snapshot.localVariables
  upvalueVariables :
    (value.member? "upvalue_variables").getD (.object []) = .object snapshot.upvalueVariables
  globalVariables :
    (value.member? "global_variables").getD (.object []) = .object snapshot.globalVariables

namespace Deed

open SimulatedBackend

/-- A deed that can be done: its context is one of the backend's, its snapshot can be held, and
its body is a JSON text of what it posts. -/
def Doable : Deed → Prop
  | call made => made.Sendable
  | reportResource suffix _ _ => suffix ∈ contextSuffixes
  | pause suffix snapshot => suffix ∈ contextSuffixes ∧ snapshot.Held
  | offerResult _ => True
  | post suffix mode snapshot body => suffix ∈ contextSuffixes ∧ fitsInt64 snapshot.line = true ∧
      ∃ value, parse body = .ok value ∧ snapshot.Posted mode value

/-- What comes of a deed; only the client is told something. -/
def perform (base : Url) (backend : SimulatedBackend) :
    Deed → Option BackendAnswer × SimulatedBackend
  | call made => (some (exchange base made backend).1, (exchange base made backend).2)
  | reportResource suffix name path => (none, backend.reportResource suffix name path)
  | pause suffix snapshot => (none, backend.pause suffix snapshot)
  | offerResult result => (none, backend.offerResult result)
  | post suffix mode _ body =>
      (none, (backend.handle HttpMethod.post.name
        (BackendCall.setResumeMode suffix mode).path body).2)

/-- What a deed does to the state of the backend. -/
def effect (backend : SimulatedBackend) : Deed → SimulatedBackend
  | call made => made.effect backend
  | reportResource suffix name path => backend.adjust suffix fun context =>
      { context with info := some (name, path) }
  | pause suffix snapshot => backend.adjust suffix fun context =>
      { context with mode := .paused, snapshot := some snapshot }
  | offerResult result => { backend with evalResult := some result }
  | post suffix mode snapshot _ => backend.adjust suffix fun context =>
      { context with
        mode
        postedModes := context.postedModes ++ [mode]
        snapshot := some snapshot }

/-- What the state of the backend has to tell of a deed. -/
def Tells (backend : SimulatedBackend) : Deed → Option BackendAnswer → Prop
  | call made, told => ∃ answer, told = some answer ∧ made.Tells backend answer
  | _, told => told = none

end Deed

/-! ## Posted snapshots -/

section Posted

variable {snapshot : PauseSnapshot} {mode : ResumeMode} {value : Json}

theorem held_of_member {name : String} {inner : Json} (hheld : value.Held)
    (hmember : value.member? name = some inner) : inner.Held := by
  cases value with
  | object members =>
      obtain ⟨member, hfound, rfl⟩ := Option.map_eq_some_iff.mp hmember
      exact heldMembers_iff.mp hheld member (List.mem_of_find?_eq_some hfound)
  | _ => cases hmember

/-- A table that is posted is taken, and can be held as far as the value can. -/
theorem table_of_posted {name : String} {table : List (String × Json)} (hheld : value.Held)
    (hmember : (value.member? name).getD (.object []) = .object table) :
    PauseSnapshot.table (value.member? name) = table ∧ HeldMembers table := by
  cases hfound : value.member? name with
  | none =>
      rw [hfound] at hmember
      cases hmember
      exact ⟨rfl, trivial⟩
  | some inner =>
      rw [hfound] at hmember
      cases hmember
      exact ⟨rfl, held_of_member hheld hfound⟩

theorem ofBody?_of_posted (hheld : value.Held) (hfits : fitsInt64 snapshot.line = true)
    (hposted : snapshot.Posted mode value) : PauseSnapshot.ofBody? value = some snapshot := by
  have hfile : (value.member? "current_file").bind string? = some snapshot.file := by
    rw [hposted.file]
    rfl
  have hline : (value.member? "current_line").bind int64? = some snapshot.line := by
    rw [hposted.line]
    exact if_pos hfits
  rw [PauseSnapshot.ofBody?, hfile, hline, (table_of_posted hheld hposted.localVariables).1,
    (table_of_posted hheld hposted.upvalueVariables).1,
    (table_of_posted hheld hposted.globalVariables).1]
  rfl

theorem held_of_posted (hheld : value.Held) (hfits : fitsInt64 snapshot.line = true)
    (hposted : snapshot.Posted mode value) : snapshot.Held where
  line := hfits
  localVariables := (table_of_posted hheld hposted.localVariables).2
  upvalueVariables := (table_of_posted hheld hposted.upvalueVariables).2
  globalVariables := (table_of_posted hheld hposted.globalVariables).2

theorem nesting_lt_of_member {name : String} {inner : Json}
    (hmember : value.member? name = some inner) : inner.nesting < value.nesting := by
  cases value with
  | object members =>
      obtain ⟨member, hfound, rfl⟩ := Option.map_eq_some_iff.mp hmember
      exact Nat.lt_succ_of_le
        (nestingMembers_le_iff.mp (Nat.le_refl _) member (List.mem_of_find?_eq_some hfound))
  | _ => cases hmember

/-- A snapshot that could be posted can be read: the reply is no deeper than the posted text. -/
theorem nesting_reply_of_posted {context : SimulatedContext}
    (hsnapshot : context.snapshot = some snapshot) (hdepth : value.nesting ≤ nestingLimit)
    (hposted : snapshot.Posted mode value) : context.reply.nesting ≤ nestingLimit := by
  have htable : ∀ {name : String} {table : List (String × Json)},
      (value.member? name).getD (.object []) = .object table →
        (Json.object table).nesting ≤ 126 := by
    intro name table hmember
    cases hfound : value.member? name with
    | none =>
        rw [hfound] at hmember
        cases hmember
        decide
    | some inner =>
        rw [hfound] at hmember
        cases hmember
        exact Nat.le_of_lt_succ (Nat.lt_of_lt_of_le (nesting_lt_of_member hfound) hdepth)
  rw [SimulatedContext.reply_eq_object hsnapshot]
  refine Nat.succ_le_succ (nestingMembers_le_iff.mpr ?_)
  simp only [List.forall_mem_cons]
  exact ⟨Nat.zero_le _, Nat.zero_le _, htable hposted.globalVariables,
    htable hposted.localVariables, Nat.zero_le _, htable hposted.upvalueVariables, by simp⟩

theorem modeOf?_of_posted (hposted : snapshot.Posted mode value) :
    SimulatedBackend.modeOf? value = some mode := by
  rw [SimulatedBackend.modeOf?, hposted.mode]
  cases mode <;> rfl

end Posted

/-! ## Steps -/

namespace SimulatedBackend

variable {backend : SimulatedBackend}

theorem context_adjust (backend : SimulatedBackend) (suffix other : String)
    (change : SimulatedContext → SimulatedContext) :
    (backend.adjust suffix change).context other =
      if other = suffix then change (backend.context other) else backend.context other := by
  rw [adjust, context_putContext]
  split
  · next hsame => rw [hsame]
  · rfl

theorem Held.adjust (hheld : backend.Held) (suffix : String)
    {change : SimulatedContext → SimulatedContext}
    (hchange : ∀ context : SimulatedContext, context.Held → (change context).Held) :
    (backend.adjust suffix change).Held := by
  intro other
  rw [context_adjust]
  split
  · exact hchange _ (hheld other)
  · exact hheld other

end SimulatedBackend

namespace Deed

open SimulatedBackend

variable {backend : SimulatedBackend} {deed : Deed}

theorem works_effect (hworks : backend.Works) (deed : Deed) : (deed.effect backend).Works := by
  cases deed with
  | call made => cases made <;> exact ⟨hworks.available, hworks.willing⟩
  | _ => exact ⟨hworks.available, hworks.willing⟩

/-- The snapshot of a deed can be held, also when its body is all that is known. -/
theorem held_of_doable {suffix : String} {mode : ResumeMode} {snapshot : PauseSnapshot}
    {body : List UInt8} (hdoable : (post suffix mode snapshot body).Doable) : snapshot.Held := by
  obtain ⟨-, hfits, value, hparse, hposted⟩ := hdoable
  exact held_of_posted (held_of_parse hparse).1 hfits hposted

theorem held_effect (hheld : backend.Held) (hdoable : deed.Doable) :
    (deed.effect backend).Held := by
  cases deed with
  | call made =>
      cases made with
      | info suffix => exact hheld.adjust suffix fun _ hcontext => hcontext
      | runState suffix => exact hheld.adjust suffix fun _ hcontext => hcontext
      | setResumeMode suffix mode => exact hheld.adjust suffix fun _ hcontext => hcontext
      | _ => exact hheld
  | reportResource suffix name path => exact hheld.adjust suffix fun _ hcontext => hcontext
  | pause suffix snapshot =>
      refine hheld.adjust suffix fun _ _ other hother => ?_
      cases hother
      exact hdoable.2
  | offerResult result => exact hheld
  | post suffix mode snapshot body =>
      refine hheld.adjust suffix fun _ _ other hother => ?_
      cases hother
      exact held_of_doable hdoable

/-- A posted snapshot arrives. -/
theorem handle_post (hworks : backend.Works) {suffix : String} {mode : ResumeMode}
    {snapshot : PauseSnapshot} {body : List UInt8}
    (hdoable : (post suffix mode snapshot body).Doable) :
    (backend.handle HttpMethod.post.name (BackendCall.setResumeMode suffix mode).path body).2 =
      (post suffix mode snapshot body).effect backend := by
  obtain ⟨hsuffix, hfits, value, hparse, hposted⟩ := hdoable
  rw [handle_of_parse hparse, path_setResumeMode, respond_of_works hworks,
    postEndpoint_resumeMode hsuffix, postResumeMode, modeOf?_of_posted hposted,
    ofBody?_of_posted (held_of_parse hparse).1 hfits hposted]
  rfl

/-- One deed: its effect is that of the plain operation, and so is what is told. -/
theorem perform_eq (port : Option UInt16) (hworks : backend.Works) (hheld : backend.Held)
    (hdoable : deed.Doable) :
    (deed.perform (url port) backend).2 = deed.effect backend ∧
      deed.Tells backend (deed.perform (url port) backend).1 := by
  cases deed with
  | call made =>
      obtain ⟨heffect, htells⟩ := exchange_eq port hworks hheld hdoable
      rw [perform, effect, Tells]
      exact ⟨heffect, _, rfl, htells⟩
  | reportResource suffix name path => exact ⟨rfl, rfl⟩
  | pause suffix snapshot => exact ⟨rfl, rfl⟩
  | offerResult result => exact ⟨rfl, rfl⟩
  | post suffix mode snapshot body => exact ⟨handle_post hworks hdoable, rfl⟩

/-! ## Runs -/

/-- The backend after deeds in a row. -/
def performAll (base : Url) (deeds : List Deed) (backend : SimulatedBackend) : SimulatedBackend :=
  deeds.foldl (fun backend deed => (deed.perform base backend).2) backend

theorem performAll_eq (port : Option UInt16) {deeds : List Deed} (hworks : backend.Works)
    (hheld : backend.Held) (hdeeds : ∀ deed ∈ deeds, deed.Doable) :
    performAll (url port) deeds backend = deeds.foldl effect backend ∧
      (deeds.foldl effect backend).Works ∧ (deeds.foldl effect backend).Held := by
  induction deeds generalizing backend with
  | nil => exact ⟨rfl, hworks, hheld⟩
  | cons deed deeds ih =>
      obtain ⟨hdeed, hdeeds⟩ := List.forall_mem_cons.mp hdeeds
      rw [performAll, List.foldl_cons, List.foldl_cons, (perform_eq port hworks hheld hdeed).1]
      exact ih (works_effect hworks deed) (held_effect hheld hdeed) hdeeds

/-! ## What deeds leave -/

/-- The resource that a deed reports for a context. -/
def resource? (suffix : String) : Deed → Option (Option (String × String))
  | reportResource other name path => if suffix = other then some (some (name, path)) else none
  | _ => none

/-- The mode that a deed gives to a context. -/
def mode? (suffix : String) : Deed → Option ResumeMode
  | call (.setResumeMode other mode) => if suffix = other then some mode else none
  | pause other _ => if suffix = other then some .paused else none
  | post other mode _ _ => if suffix = other then some mode else none
  | _ => none

/-- The snapshot that a deed gives to a context. -/
def snapshot? (suffix : String) : Deed → Option (Option PauseSnapshot)
  | pause other snapshot => if suffix = other then some (some snapshot) else none
  | post other _ snapshot _ => if suffix = other then some (some snapshot) else none
  | _ => none

/-- The modes that a deed posts to a context. -/
def postedModes (suffix : String) : Deed → List ResumeMode
  | call (.setResumeMode other mode) => if suffix = other then [mode] else []
  | post other mode _ _ => if suffix = other then [mode] else []
  | _ => []

/-- The breakpoints when they were these before a deed. -/
def breakpoints (before : List (String × Int)) : Deed → List (String × Int)
  | call (.setBreakpoint file line) => before ++ [(file, line)]
  | call .clearBreakpoints => []
  | _ => before

def changes : Deed → List BreakpointChange
  | call (.setBreakpoint file line) => [.set file line]
  | call .clearBreakpoints => [.clear]
  | _ => []

def submittedEvals : Deed → List String
  | call (.setPendingEval expression) => [expression]
  | _ => []

def commands : Deed → List String
  | call (.serverCommand command) => [command]
  | _ => []

def pendingEval? : Deed → Option (Option String)
  | call (.setPendingEval expression) => some (some expression)
  | _ => none

/-- The result that waits to be read after a deed: one that is offered, and none once it is read. -/
def result? : Deed → Option (Option String)
  | offerResult result => some (some result)
  | call .evalResult => some none
  | _ => none

section Folds

variable {State α : Type} {step : State → Deed → State} {deeds : List Deed}

/-- The latest of what deeds give, or else what there was. -/
def latest (given? : Deed → Option α) (deeds : List Deed) (before : α) : α :=
  ((deeds.filterMap given?).getLast?).getD before

theorem foldl_latest (get : State → α) (given? : Deed → Option α)
    (hstep : ∀ state deed, get (step state deed) = (given? deed).getD (get state))
    (deeds : List Deed) (state : State) :
    get (deeds.foldl step state) = latest given? deeds (get state) := by
  induction deeds generalizing state with
  | nil => rfl
  | cons deed deeds ih =>
      rw [List.foldl_cons, ih, hstep, latest, latest, List.filterMap_cons]
      cases given? deed with
      | none => rfl
      | some value =>
          simp only [Option.getD_some, List.getLast?_cons]

theorem foldl_collected (get : State → List α) (added : Deed → List α)
    (hstep : ∀ state deed, get (step state deed) = get state ++ added deed)
    (deeds : List Deed) (state : State) :
    get (deeds.foldl step state) = get state ++ deeds.flatMap added := by
  induction deeds generalizing state with
  | nil => exact (List.append_nil _).symm
  | cons deed deeds ih =>
      rw [List.foldl_cons, ih, hstep, List.flatMap_cons, List.append_assoc]

end Folds

end Deed

open Deed in
/-- The backend keeps what has been done to it since the start. -/
structure SimulatedBackend.Remembers (start : SimulatedBackend) (deeds : List Deed)
    (now : SimulatedBackend) : Prop where
  info : ∀ suffix, (now.context suffix).info =
    latest (resource? suffix) deeds (start.context suffix).info
  mode : ∀ suffix, (now.context suffix).mode =
    latest (mode? suffix) deeds (start.context suffix).mode
  snapshot : ∀ suffix, (now.context suffix).snapshot =
    latest (snapshot? suffix) deeds (start.context suffix).snapshot
  postedModes : ∀ suffix, (now.context suffix).postedModes =
    (start.context suffix).postedModes ++ deeds.flatMap (postedModes suffix)
  breakpoints : now.breakpoints = deeds.foldl Deed.breakpoints start.breakpoints
  changes : now.changes = start.changes ++ deeds.flatMap Deed.changes
  pendingEval : now.pendingEval = latest pendingEval? deeds start.pendingEval
  submittedEvals : now.submittedEvals =
    start.submittedEvals ++ deeds.flatMap Deed.submittedEvals
  evalResult : now.evalResult = latest result? deeds start.evalResult
  commands : now.commands = start.commands ++ deeds.flatMap Deed.commands

namespace Deed

open SimulatedBackend

/-- What a deed does to a context; only the counts are left open. -/
theorem context_effect (backend : SimulatedBackend) (deed : Deed) (suffix : String) :
    ∃ infoRequests polls, (deed.effect backend).context suffix = {
      info := (deed.resource? suffix).getD (backend.context suffix).info
      mode := (deed.mode? suffix).getD (backend.context suffix).mode
      snapshot := (deed.snapshot? suffix).getD (backend.context suffix).snapshot
      postedModes := (backend.context suffix).postedModes ++ deed.postedModes suffix
      infoRequests, polls } := by
  have hsame : ∀ context : SimulatedContext, context = { context with
      postedModes := context.postedModes ++ [] } := fun context => by rw [List.append_nil]
  cases deed with
  | call made =>
      cases made with
      | info other =>
          rw [effect, BackendCall.effect, context_adjust]
          split <;> exact ⟨_, _, hsame _⟩
      | runState other =>
          rw [effect, BackendCall.effect, context_adjust]
          split <;> exact ⟨_, _, hsame _⟩
      | setResumeMode other mode =>
          rw [effect, BackendCall.effect, context_adjust, mode?, postedModes]
          split
          · exact ⟨_, _, rfl⟩
          · exact ⟨_, _, hsame _⟩
      | _ => exact ⟨_, _, hsame _⟩
  | reportResource other name path =>
      rw [effect, context_adjust, resource?]
      split <;> exact ⟨_, _, hsame _⟩
  | pause other snapshot =>
      rw [effect, context_adjust, mode?, snapshot?]
      split <;> exact ⟨_, _, hsame _⟩
  | offerResult result => exact ⟨_, _, hsame _⟩
  | post other mode snapshot body =>
      rw [effect, context_adjust, mode?, snapshot?, postedModes]
      split
      · exact ⟨_, _, rfl⟩
      · exact ⟨_, _, hsame _⟩

/-- What a deed does to the rest of the state. -/
theorem state_effect (backend : SimulatedBackend) (deed : Deed) :
    deed.effect backend = { backend with
      contexts := (deed.effect backend).contexts
      breakpoints := deed.breakpoints backend.breakpoints
      changes := backend.changes ++ deed.changes
      pendingEval := deed.pendingEval?.getD backend.pendingEval
      submittedEvals := backend.submittedEvals ++ deed.submittedEvals
      evalResult := deed.result?.getD backend.evalResult
      commands := backend.commands ++ deed.commands } := by
  cases deed with
  | call made =>
      cases made <;> simp [effect, BackendCall.effect, adjust, putContext, breakpoints, changes,
        pendingEval?, submittedEvals, result?, commands]
  | _ => simp [effect, adjust, putContext, breakpoints, changes, pendingEval?, submittedEvals,
      result?, commands]

theorem remembers_foldl (start : SimulatedBackend) (deeds : List Deed) :
    start.Remembers deeds (deeds.foldl effect start) where
  info suffix := by
    refine foldl_latest (fun backend => (backend.context suffix).info) _ (fun backend deed => ?_)
      deeds start
    obtain ⟨infoRequests, polls, hcontext⟩ := context_effect backend deed suffix
    rw [hcontext]
  mode suffix := by
    refine foldl_latest (fun backend => (backend.context suffix).mode) _ (fun backend deed => ?_)
      deeds start
    obtain ⟨infoRequests, polls, hcontext⟩ := context_effect backend deed suffix
    rw [hcontext]
  snapshot suffix := by
    refine foldl_latest (fun backend => (backend.context suffix).snapshot) _
      (fun backend deed => ?_) deeds start
    obtain ⟨infoRequests, polls, hcontext⟩ := context_effect backend deed suffix
    rw [hcontext]
  postedModes suffix := by
    refine foldl_collected (fun backend => (backend.context suffix).postedModes) _
      (fun backend deed => ?_) deeds start
    obtain ⟨infoRequests, polls, hcontext⟩ := context_effect backend deed suffix
    rw [hcontext]
  breakpoints := (List.foldl_hom SimulatedBackend.breakpoints fun backend deed => by
    rw [state_effect]).symm
  changes := foldl_collected _ _ (fun backend deed => by rw [state_effect]) deeds start
  pendingEval := foldl_latest _ _ (fun backend deed => by rw [state_effect]) deeds start
  submittedEvals := foldl_collected _ _ (fun backend deed => by rw [state_effect]) deeds start
  evalResult := foldl_latest _ _ (fun backend deed => by rw [state_effect]) deeds start
  commands := foldl_collected _ _ (fun backend deed => by rw [state_effect]) deeds start

/-- After any deeds the backend keeps what was done, and the next deed does and tells what it is
for.  A snapshot is read with the numbers that its text is read as, so exactly if these are the same
numbers; and one that was posted can always be read. -/
theorem calls_act_as_plain_operations (port : Option UInt16) {start : SimulatedBackend}
    (hworks : start.Works) (hheld : start.Held) {deeds : List Deed}
    (hdeeds : ∀ deed ∈ deeds, deed.Doable) {next : Deed} (hnext : next.Doable) :
    let now := performAll (url port) deeds start
    start.Remembers deeds now ∧
      (next.perform (url port) now).2 = next.effect now ∧
      next.Tells now (next.perform (url port) now).1 ∧
      (∀ suffix, (now.context suffix).Legible →
        (now.context suffix).reread = now.context suffix) ∧
      ∀ suffix other mode snapshot body, post other mode snapshot body ∈ deeds →
        (now.context suffix).snapshot = some snapshot →
          (now.context suffix).reply.nesting ≤ nestingLimit := by
  obtain ⟨hnow, hworks, hheld⟩ := performAll_eq port hworks hheld hdeeds
  have hremembers := remembers_foldl start deeds
  rw [← hnow] at hworks hheld hremembers
  intro now
  obtain ⟨heffect, htells⟩ := perform_eq port hworks hheld hnext
  refine ⟨hremembers, heffect, htells, fun suffix => SimulatedContext.reread_of_legible,
    fun suffix other mode snapshot body hmem hsnapshot => ?_⟩
  obtain ⟨-, -, value, hparse, hposted⟩ := hdeeds _ hmem
  exact nesting_reply_of_posted hsnapshot (held_of_parse hparse).2 hposted

section ShortHistory

theorem held_default : ({} : SimulatedBackend).Held := by
  rintro suffix snapshot ⟨⟩

def shortPause : PauseSnapshot :=
  { file := "play/a.lua", line := 2, localVariables := [("x", .int 1)] }

def shortPost : Json := .object
  [("current_file", .string "play/b.lua"), ("current_line", .int 4), ("resume_mode", .nat 2)]

def shortHistory : List Deed := [
  call (.setBreakpoint "play/a.lua" 2),
  reportResource "_server" "play" "play/",
  post "_client" .stepInto { file := "play/b.lua", line := 4 } shortPost.bytes,
  pause "_server" shortPause,
  call (.setResumeMode "_server" .stepOver),
  offerResult "7",
  call .evalResult]

theorem doable_shortHistory : ∀ deed ∈ shortHistory, deed.Doable := by
  have hserver : "_server" ∈ contextSuffixes := by decide
  have hclient : "_client" ∈ contextSuffixes := by decide
  have hone : (int 1).Held := ⟨by decide, by decide⟩
  have hpause : shortPause.Held := ⟨rfl, ⟨hone, trivial⟩, trivial, trivial⟩
  have hascending : Ascending [("current_file", string "play/b.lua"), ("current_line", int 4),
      ("resume_mode", nat 2)] := by
    unfold Ascending
    decide +kernel
  have hparse : parse shortPost.bytes = .ok shortPost :=
    parse_bytes ⟨hascending, trivial, ⟨by decide, by decide⟩, ⟨by decide, by decide⟩, trivial⟩
      (by decide)
  have hposted : ({ file := "play/b.lua", line := 4 } : PauseSnapshot).Posted .stepInto shortPost :=
    ⟨rfl, rfl, rfl, rfl, rfl, rfl⟩
  simp only [shortHistory, List.forall_mem_cons]
  exact ⟨rfl, hserver, ⟨hclient, rfl, shortPost, hparse, hposted⟩, ⟨hserver, hpause⟩, hserver,
    trivial, trivial, by simp⟩

theorem calls_act_as_plain_operations_shortHistory :
    ({} : SimulatedBackend).Works ∧ ({} : SimulatedBackend).Held ∧
      (∀ deed ∈ shortHistory, deed.Doable) ∧ (call (.runState "_server")).Doable ∧
      ((call (.runState "_server")).perform (url (some 4711))
        (performAll (url (some 4711)) shortHistory {})).1 = some (.runState (.ok {
          mode := .stepOver
          currentFile := some "play/a.lua"
          currentLine := some 2
          localVariables := [("x", .plain "1")] })) := by
  have hserver : "_server" ∈ contextSuffixes := by decide
  have hnext : (call (.runState "_server")).Doable := hserver
  refine ⟨⟨rfl, rfl⟩, held_default, doable_shortHistory, hnext, ?_⟩
  obtain ⟨hremembers, -, htells, hread, -⟩ := calls_act_as_plain_operations (some 4711)
    ⟨rfl, rfl⟩ held_default doable_shortHistory hnext
  generalize performAll (url (some 4711)) shortHistory {} = now at hremembers htells hread ⊢
  have hmode : (now.context "_server").mode = .stepOver := hremembers.mode "_server"
  have hsnapshot : (now.context "_server").snapshot = some shortPause :=
    hremembers.snapshot "_server"
  obtain ⟨answer, htold, htells⟩ := htells
  have hlegible : (now.context "_server").Legible := by
    intro snapshot hshown
    cases hsnapshot.symm.trans hshown
    exact ⟨⟨List.pairwise_singleton _ _, ⟨by decide, by decide⟩, trivial⟩,
      ⟨List.Pairwise.nil, trivial⟩, ⟨List.Pairwise.nil, trivial⟩⟩
  have hshallow : (now.context "_server").reply.nesting ≤ nestingLimit := by
    rw [SimulatedContext.reply_eq_object hsnapshot]
    change 2 ≤ 127
    decide
  have hanswer := (if_pos hshallow).mp htells
  rw [htold, hanswer, hread _ hlegible, SimulatedContext.runState, hsnapshot, hmode]
  rfl

end ShortHistory

section Changed

/-- Brackets around brackets. -/
def nested : Nat → Json
  | 0 => .null
  | n + 1 => .array [nested n]

theorem held_nested (n : Nat) : (nested n).Held := by
  induction n with
  | zero => trivial
  | succ n ih => exact ⟨ih, trivial⟩

theorem nesting_nested (n : Nat) : (nested n).nesting = n := by
  induction n with
  | zero => rfl
  | succ n ih => rw [nested, Json.nesting, nestingItems, nestingItems, ih, Nat.max_zero]

/-- A pause with one variable. -/
def pauseWith (value : Json) : PauseSnapshot :=
  { file := "play/a.lua", line := 2, localVariables := [("x", value)] }

/-- The backend at a pause with one variable. -/
def pausedWith (value : Json) : SimulatedBackend :=
  ({} : SimulatedBackend).pause "" (pauseWith value)

theorem nesting_reply_pausedWith (value : Json) :
    ((pausedWith value).context "").reply.nesting = value.nesting + 2 := by
  have hsnapshot : ((pausedWith value).context "").snapshot = some (pauseWith value) := rfl
  rw [SimulatedContext.reply_eq_object hsnapshot]
  simp only [Json.nesting, nestingMembers, pauseWith, int, nat]
  omega

/-- What a poll after the pause is told. -/
theorem runState_pausedWith {value : Json} (hheld : value.Held) :
    let told := (exchange (url none) (.runState "") (pausedWith value)).1
    (value.nesting ≤ 125 → told = .runState (.ok ((pausedWith value).context "").reread.runState)) ∧
      (125 < value.nesting →
        ∃ text, told = .runState (.error (.decode "/MTADebug/get_resume_mode" text))) := by
  have hmem : "" ∈ contextSuffixes := by decide
  have hbackend : (pausedWith value).Held := @held_effect {} (.pause "" (pauseWith value))
    held_default ⟨hmem, rfl, ⟨hheld, trivial⟩, trivial, trivial⟩
  have htells := (@exchange_eq _ none ⟨rfl, rfl⟩ hbackend (.runState "") hmem).2
  rw [BackendCall.Tells, nesting_reply_pausedWith] at htells
  constructor
  · intro hshallow
    have hfits : value.nesting + 2 ≤ nestingLimit := Nat.add_le_add_right hshallow 2
    rwa [if_pos hfits] at htells
  · intro hdeep
    have hover : nestingLimit < value.nesting + 2 := Nat.add_lt_add_right hdeep 2
    rw [if_neg (Nat.not_le_of_lt hover)] at htells
    exact htells

/-- A float just below two is read as two, and a table that is too deep is not read at all. -/
theorem variables_changed_on_the_way :
    (∃ state, (exchange (url none) (.runState "")
        (pausedWith (.number (.float ⟨0x3fffffffffffffff⟩)))).1 = .runState (.ok state) ∧
      state.localVariables = [("x", .plain "2.0")] ∧
      ScriptValue.ofJson (.number (.float ⟨0x3fffffffffffffff⟩)) = .plain "1.9999999999999998") ∧
    ∃ text, (exchange (url none) (.runState "") (pausedWith (nested 126))).1 =
      .runState (.error (.decode "/MTADebug/get_resume_mode" text)) := by
  constructor
  · have hfloat : (Json.number (.float ⟨0x3fffffffffffffff⟩)).Held := by
      change _ = _
      decide
    exact ⟨_, (runState_pausedWith hfloat).1 (by decide), by decide +kernel, by decide +kernel⟩
  · exact (runState_pausedWith (held_nested 126)).2 (by rw [nesting_nested]; decide)

end Changed

end Deed

end DebugBridge
