import DebugBridge.Session.State
import Mathlib.Data.List.Nodup
import Mathlib.Tactic.Common

/-!
# The table of activities

Numbers of activities only grow and are never given twice.  In a table that keeps this rule, each
primitive turn is seen through `activity?` as one change of a partial function, and later proofs
never look at the list again.
-/

namespace DebugBridge.Session

/-! ## Turns in sequence -/

namespace Turn

@[simp]
theorem andThen_fst (first second : Turn) (session : Session) :
    (first.andThen second session).1 = (second (first session).1).1 := rfl

@[simp]
theorem andThen_snd (first second : Turn) (session : Session) :
    (first.andThen second session).2 = (first session).2 ++ (second (first session).1).2 := rfl

theorem andThen_assoc (first second third : Turn) :
    (first.andThen second).andThen third = first.andThen (second.andThen third) := by
  funext session
  simp only [andThen, List.append_assoc]

@[simp]
theorem andThen_idle (turn : Turn) : turn.andThen idle = turn := by
  funext session
  simp only [andThen, idle, List.append_nil]

@[simp]
theorem idle_apply (session : Session) : idle session = (session, []) := rfl

@[simp]
theorem change_apply (f : Session → Session) (session : Session) :
    change f session = (f session, []) := rfl

@[simp]
theorem effect_apply (wanted : Effect) (session : Session) :
    effect wanted session = (session, [wanted]) := rfl

theorem change_andThen (f : Session → Session) (turn : Turn) (session : Session) :
    (change f).andThen turn session = turn (f session) := rfl

@[simp]
theorem all_nil : all [] = idle := rfl

@[simp]
theorem all_cons (turn : Turn) (turns : List Turn) :
    all (turn :: turns) = turn.andThen (all turns) := rfl

end Turn

/-! ## Tables in order -/

/-- Numbers grow along the table and stay below the next one. -/
structure TableOk (session : Session) : Prop where
  increasing : (session.activities.map (·.1)).Pairwise (· < ·)
  below : ∀ entry ∈ session.activities, entry.1 < session.nextActivity

theorem TableOk.ofConfig (config : BackendConfig) : TableOk (.ofConfig config) :=
  ⟨List.Pairwise.nil, by simp [Session.ofConfig]⟩

theorem TableOk.spawn {session : Session} (htable : TableOk session) (activity : Activity) :
    TableOk (Session.spawn activity session).1 := by
  constructor
  · simp only [Session.spawn, List.map_append, List.map_cons, List.map_nil, List.pairwise_append]
    refine ⟨htable.increasing, List.pairwise_singleton _ _, ?_⟩
    intro id hid next hnext
    obtain ⟨entry, hentry, rfl⟩ := List.mem_map.mp hid
    rw [List.mem_singleton.mp hnext]
    exact htable.below entry hentry
  · intro entry hentry
    simp only [Session.spawn, List.mem_append, List.mem_singleton] at hentry ⊢
    rcases hentry with hold | hnew
    · exact Nat.lt_succ_of_lt (htable.below entry hold)
    · simp [hnew]

theorem TableOk.put {session : Session} (htable : TableOk session) (id : Nat)
    (activity : Activity) : TableOk (Session.put id activity session).1 := by
  have hkey : ∀ entry : Nat × Activity,
      (if entry.1 = id then (id, activity) else entry).1 = entry.1 := by
    intro entry
    split
    · next hid => exact hid.symm
    · rfl
  constructor
  · have hkeys : ((Session.put id activity session).1.activities.map (·.1)) =
        session.activities.map (·.1) := by
      simp only [Session.put, Turn.change_apply, List.map_map]
      exact List.map_congr_left fun entry _ => hkey entry
    rw [hkeys]
    exact htable.increasing
  · intro entry hentry
    simp only [Session.put, Turn.change_apply, List.mem_map] at hentry ⊢
    obtain ⟨old, hold, rfl⟩ := hentry
    rw [hkey]
    exact htable.below old hold

theorem TableOk.filter {session : Session} (htable : TableOk session)
    (keep : Nat × Activity → Bool) :
    TableOk { session with activities := session.activities.filter keep } where
  increasing := htable.increasing.sublist (List.filter_sublist.map _)
  below entry hentry := htable.below entry (List.mem_filter.mp hentry).1

theorem TableOk.finish {session : Session} (htable : TableOk session) (id : Nat) :
    TableOk (Session.finish id session).1 :=
  htable.filter fun entry => entry.1 != id

theorem TableOk.cancel {session : Session} (htable : TableOk session)
    (isMeant : Activity → Bool) : TableOk (Session.cancel isMeant session).1 :=
  htable.filter fun entry => !isMeant entry.2

/-! ## The table as a partial function -/

theorem TableOk.lt_of_activity? {session : Session} (htable : TableOk session) {id : Nat}
    {activity : Activity} (hactivity : session.activity? id = some activity) :
    id < session.nextActivity := by
  obtain ⟨entry, hentry, -⟩ := Option.map_eq_some_iff.mp hactivity
  have hid : entry.1 = id := by simpa using List.find?_some hentry
  exact hid ▸ htable.below entry (List.mem_of_find?_eq_some hentry)

theorem TableOk.activity?_eq_none {session : Session} (htable : TableOk session) {id : Nat}
    (hid : session.nextActivity ≤ id) : session.activity? id = none := by
  by_contra hsome
  obtain ⟨activity, hactivity⟩ := Option.ne_none_iff_exists'.mp hsome
  exact absurd (htable.lt_of_activity? hactivity) (by omega)

/-- The entries of a table are exactly what it gives under their numbers. -/
theorem TableOk.mem_activities_iff {session : Session} (htable : TableOk session) {id : Nat}
    {activity : Activity} :
    (id, activity) ∈ session.activities ↔ session.activity? id = some activity := by
  constructor
  · intro hmem
    have hsome : (session.activities.find? fun entry => entry.1 == id).isSome := by
      rw [List.find?_isSome]
      exact ⟨(id, activity), hmem, by simp⟩
    obtain ⟨found, hfound⟩ := Option.isSome_iff_exists.mp hsome
    have hid : found.1 = id := by simpa using List.find?_some hfound
    have hnodup : (session.activities.map (·.1)).Nodup :=
      htable.increasing.imp fun hlt => Nat.ne_of_lt hlt
    have hsame : found = (id, activity) :=
      List.inj_on_of_nodup_map hnodup (List.mem_of_find?_eq_some hfound) hmem hid
    rw [activity?, hfound, hsame]
    rfl
  · intro hactivity
    obtain ⟨entry, hentry, rfl⟩ := Option.map_eq_some_iff.mp hactivity
    have hid : entry.1 = id := by simpa using List.find?_some hentry
    rw [← hid]
    exact List.mem_of_find?_eq_some hentry

/-- The numbers of the activities of a kind. -/
def idsOf (session : Session) (isMeant : Activity → Bool) : List Nat :=
  (session.activities.filter fun entry => isMeant entry.2).map (·.1)

theorem TableOk.nodup_idsOf {session : Session} (htable : TableOk session)
    (isMeant : Activity → Bool) : (session.idsOf isMeant).Nodup :=
  (htable.increasing.sublist (List.filter_sublist.map _)).imp Nat.ne_of_lt

theorem TableOk.mem_idsOf_iff {session : Session} (htable : TableOk session)
    {isMeant : Activity → Bool} {id : Nat} :
    id ∈ session.idsOf isMeant ↔
      ∃ activity, session.activity? id = some activity ∧ isMeant activity = true := by
  constructor
  · intro hid
    obtain ⟨⟨_, activity⟩, hentry, rfl⟩ := List.mem_map.mp hid
    obtain ⟨hmem, hmeant⟩ := List.mem_filter.mp hentry
    exact ⟨activity, htable.mem_activities_iff.mp hmem, hmeant⟩
  · rintro ⟨activity, hactivity, hmeant⟩
    exact List.mem_map.mpr ⟨(id, activity),
      List.mem_filter.mpr ⟨htable.mem_activities_iff.mpr hactivity, hmeant⟩, rfl⟩

theorem length_idsOf (session : Session) (isMeant : Activity → Bool) :
    (session.idsOf isMeant).length = session.activities.countP fun entry => isMeant entry.2 := by
  rw [idsOf, List.length_map, List.countP_eq_length_filter]

theorem activity?_spawn {session : Session} (htable : TableOk session) (activity : Activity)
    (id : Nat) :
    (spawn activity session).1.activity? id =
      if id = session.nextActivity then some activity else session.activity? id := by
  simp only [activity?, spawn, List.find?_append]
  split
  · next hid =>
      subst hid
      have hnone := htable.activity?_eq_none (Nat.le_refl session.nextActivity)
      rw [activity?, Option.map_eq_none_iff] at hnone
      simp [hnone]
  · next hid => simp [Ne.symm hid]

theorem activity?_put (session : Session) (id : Nat) (activity : Activity) (other : Nat) :
    (put id activity session).1.activity? other =
      if other = id then (session.activity? id).map fun _ => activity
      else session.activity? other := by
  have hpredicate : ((fun entry : Nat × Activity => entry.1 == other) ∘
      fun entry => if entry.1 = id then (id, activity) else entry) =
        fun entry => entry.1 == other := by
    funext entry
    by_cases hid : entry.1 = id
    · simp [hid]
    · simp [hid]
  simp only [activity?, put, Turn.change_apply, List.find?_map, hpredicate, Option.map_map]
  split
  · next hother =>
      subst hother
      cases hfound : session.activities.find? fun entry => entry.1 == other with
      | none => rfl
      | some entry =>
          have hid : entry.1 = other := by simpa using List.find?_some hfound
          simp [hid]
  · next hother =>
      cases hfound : session.activities.find? fun entry => entry.1 == other with
      | none => rfl
      | some entry =>
          have hid : entry.1 = other := by simpa using List.find?_some hfound
          have hne : entry.1 ≠ id := fun heq => hother (hid.symm.trans heq)
          simp [hne]

/-- Only an activity that is there gets a new stage. -/
theorem activity?_put_of_some {session : Session} {id : Nat} {old : Activity}
    (hold : session.activity? id = some old) (activity : Activity) (other : Nat) :
    (put id activity session).1.activity? other =
      if other = id then some activity else session.activity? other := by
  rw [activity?_put, hold, Option.map_some]

theorem isSome_activity?_put {session : Session} {id : Nat} {old : Activity}
    (hold : session.activity? id = some old) (activity : Activity) :
    ((put id activity session).1.activity? id).isSome = true := by
  rw [activity?_put_of_some hold, if_pos rfl]
  rfl

theorem activity?_finish (session : Session) (id other : Nat) :
    (finish id session).1.activity? other =
      if other = id then none else session.activity? other := by
  simp only [activity?, finish, Turn.change_apply, List.find?_filter]
  split
  · next hother =>
      rw [Option.map_eq_none_iff, List.find?_eq_none]
      simp [hother]
  · next hother =>
      congr 2
      funext entry
      by_cases hentry : entry.1 = other
      · simp [hentry, hother]
      · simp [hentry]

theorem activity?_cancel {session : Session} (htable : TableOk session)
    (isMeant : Activity → Bool) (id : Nat) :
    (cancel isMeant session).1.activity? id =
      (session.activity? id).filter fun activity => !isMeant activity := by
  have hmem : ∀ activity, (cancel isMeant session).1.activity? id = some activity ↔
      session.activity? id = some activity ∧ isMeant activity = false := by
    intro activity
    rw [← (htable.cancel isMeant).mem_activities_iff, ← htable.mem_activities_iff]
    simp [cancel]
  ext activity
  rw [hmem, Option.filter_eq_some_iff]
  simp

end DebugBridge.Session
