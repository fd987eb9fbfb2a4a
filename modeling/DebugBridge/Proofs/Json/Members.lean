import DebugBridge.Json.Value
import Mathlib.Data.List.Induction
import Mathlib.Data.String.Basic
import Mathlib.Tactic.Common

/-!
# Members of objects

Looking a name up among members that were put in order finds the value put in last under that
name, and the names of such members ascend.
-/

namespace DebugBridge.Json

variable {α : Type}

theorem lookup_cons (name other : String) (value : α) (rest : List (String × α)) :
    lookup name ((other, value) :: rest) =
      if name = other then some value else lookup name rest := by
  unfold lookup
  by_cases hname : name = other
  · simp [hname]
  · simp [hname, Ne.symm hname]

@[simp]
theorem lookup_insertMember (name other : String) (value : α) (members : List (String × α)) :
    lookup name (insertMember other value members) =
      if name = other then some value else lookup name members := by
  induction members with
  | nil => rw [insertMember, lookup_cons]
  | cons member members ih =>
      obtain ⟨first, old⟩ := member
      unfold insertMember
      split
      · next hother =>
          rw [lookup_cons, lookup_cons, hother]
          split <;> rfl
      · split
        · rw [lookup_cons]
        · next hother _ =>
            rw [lookup_cons, lookup_cons, ih]
            by_cases hname : name = first
            · have hne : name ≠ other := fun heq => hother (heq.symm.trans hname)
              rw [if_pos hname, if_neg hne, if_pos hname]
            · rw [if_neg hname, if_neg hname]

theorem lookup_filter_ne (name other : String) (members : List (String × α)) :
    lookup name (members.filter fun member => member.1 != other) =
      if name = other then none else lookup name members := by
  induction members with
  | nil => simp [lookup]
  | cons member members ih =>
      obtain ⟨first, value⟩ := member
      by_cases hfirst : first = other
      · rw [List.filter_cons_of_neg (by simp [hfirst]), ih, lookup_cons, hfirst]
        split <;> rfl
      · rw [List.filter_cons_of_pos (by simp [hfirst]), lookup_cons, lookup_cons, ih]
        by_cases hname : name = first
        · rw [if_pos hname, if_pos hname, if_neg (hname ▸ hfirst)]
        · rw [if_neg hname, if_neg hname]

@[simp]
theorem member?_ofMembers (name : String) (members : List (String × Json)) :
    (ofMembers members).member? name = lookup name (sortMembers members) := rfl

theorem lookup_sortMembers_append (name : String) (members : List (String × α))
    (last : String × α) :
    lookup name (sortMembers (members ++ [last])) =
      if name = last.1 then some last.2 else lookup name (sortMembers members) := by
  rw [sortMembers, List.foldl_append, List.foldl_cons, List.foldl_nil, lookup_insertMember]
  rfl

/-- A name that no member has is not found. -/
theorem lookup_sortMembers_eq_none {name : String} {members : List (String × α)}
    (habsent : ∀ member ∈ members, member.1 ≠ name) :
    lookup name (sortMembers members) = none := by
  induction members using List.reverseRecOn with
  | nil => rfl
  | append_singleton members last ih =>
      rw [lookup_sortMembers_append, if_neg]
      · exact ih fun member hmember => habsent member (List.mem_append_left _ hmember)
      · exact Ne.symm (habsent last (by simp))

theorem lookup_append (name : String) (first second : List (String × α)) :
    lookup name (first ++ second) = (lookup name first).or (lookup name second) := by
  induction first with
  | nil => rfl
  | cons member first ih =>
      obtain ⟨other, value⟩ := member
      rw [List.cons_append, lookup_cons, lookup_cons, ih]
      split <;> rfl

theorem lookup_map {β : Type} (change : α → β) (name : String) (members : List (String × α)) :
    lookup name (members.map fun member => (member.1, change member.2)) =
      (lookup name members).map change := by
  induction members with
  | nil => rfl
  | cons member members ih =>
      obtain ⟨other, value⟩ := member
      rw [List.map_cons, lookup_cons, lookup_cons, ih]
      split <;> rfl

/-! ## Last members -/

/-- The value given last under a name. -/
def lastMember (name : String) (members : List (String × α)) : Option α :=
  lookup name members.reverse

theorem lastMember_cons (name other : String) (value : α) (members : List (String × α)) :
    lastMember name ((other, value) :: members) =
      (lastMember name members).or (if name = other then some value else none) := by
  rw [lastMember, List.reverse_cons, lookup_append, lookup_cons]
  rfl

theorem lastMember_map {β : Type} (change : α → β) (name : String) (members : List (String × α)) :
    lastMember name (members.map fun member => (member.1, change member.2)) =
      (lastMember name members).map change := by
  rw [lastMember, ← List.map_reverse, lookup_map]
  rfl

/-- Of two members with one name the later one is found. -/
theorem lookup_sortMembers (name : String) (members : List (String × α)) :
    lookup name (sortMembers members) = lastMember name members := by
  induction members using List.reverseRecOn with
  | nil => rfl
  | append_singleton members last ih =>
      rw [lookup_sortMembers_append, ih, lastMember, lastMember, List.reverse_append,
        List.reverse_singleton, List.singleton_append, lookup_cons]

theorem mem_of_lastMember {name : String} {value : α} {members : List (String × α)}
    (hlast : lastMember name members = some value) : (name, value) ∈ members := by
  induction members with
  | nil => cases hlast
  | cons member members ih =>
      obtain ⟨other, first⟩ := member
      rw [lastMember_cons, Option.or_eq_some_iff] at hlast
      rcases hlast with hmore | ⟨-, hfirst⟩
      · exact List.mem_cons_of_mem _ (ih hmore)
      · split at hfirst
        · next hname =>
            cases hfirst
            rw [hname]
            exact List.mem_cons_self
        · cases hfirst

theorem isSome_lookup_iff {name : String} {members : List (String × α)} :
    (lookup name members).isSome = true ↔ name ∈ members.map (·.1) := by
  simp [lookup]

theorem isSome_lastMember_iff {name : String} {members : List (String × α)} :
    (lastMember name members).isSome = true ↔ name ∈ members.map (·.1) := by
  rw [lastMember, isSome_lookup_iff, List.map_reverse, List.mem_reverse]

/-! ## The order of members -/

/-- The names ascend, so that each is there once. -/
def Ascending (members : List (String × α)) : Prop := (members.map (·.1)).Pairwise (· < ·)

theorem mem_insertMember {name : String} {value : α} {members : List (String × α)}
    {member : String × α} (hmember : member ∈ insertMember name value members) :
    member = (name, value) ∨ member ∈ members := by
  induction members with
  | nil => exact .inl (List.mem_singleton.mp hmember)
  | cons first members ih =>
      obtain ⟨other, old⟩ := first
      unfold insertMember at hmember
      split at hmember
      · exact (List.mem_cons.mp hmember).imp_right (List.mem_cons_of_mem _)
      · split at hmember
        · exact List.mem_cons.mp hmember
        · rcases List.mem_cons.mp hmember with rfl | hrest
          · exact .inr List.mem_cons_self
          · exact (ih hrest).imp_right (List.mem_cons_of_mem _)

theorem mem_sortMembers {members : List (String × α)} {member : String × α}
    (hmember : member ∈ sortMembers members) : member ∈ members := by
  induction members using List.reverseRecOn with
  | nil => exact hmember
  | append_singleton members last ih =>
      rw [sortMembers, List.foldl_append] at hmember
      rcases mem_insertMember hmember with rfl | hfront
      · exact List.mem_append_right _ List.mem_cons_self
      · exact List.mem_append_left _ (ih hfront)

theorem ascending_cons {first : String × α} {members : List (String × α)} :
    Ascending (first :: members) ↔
      (∀ member ∈ members, first.1 < member.1) ∧ Ascending members := by
  simp [Ascending]

theorem ascending_insertMember (name : String) (value : α) {members : List (String × α)}
    (hascending : Ascending members) : Ascending (insertMember name value members) := by
  induction members with
  | nil => exact List.pairwise_singleton _ _
  | cons first members ih =>
      obtain ⟨other, old⟩ := first
      obtain ⟨hfirst, hrest⟩ := ascending_cons.mp hascending
      unfold insertMember
      split
      · next hsame => exact ascending_cons.mpr ⟨hsame ▸ hfirst, hrest⟩
      · next hother =>
          split
          · next hless =>
              refine ascending_cons.mpr ⟨fun member hmember => ?_, hascending⟩
              rcases List.mem_cons.mp hmember with rfl | hmember
              · exact hless
              · exact lt_trans hless (hfirst member hmember)
          · next hnotless =>
              refine ascending_cons.mpr ⟨fun member hmember => ?_, ih hrest⟩
              rcases mem_insertMember hmember with rfl | hmember
              · exact lt_of_le_of_ne (not_lt.mp hnotless) (Ne.symm hother)
              · exact hfirst member hmember

theorem ascending_sortMembers (members : List (String × α)) : Ascending (sortMembers members) := by
  induction members using List.reverseRecOn with
  | nil => exact List.Pairwise.nil
  | append_singleton members last ih =>
      rw [sortMembers, List.foldl_append]
      exact ascending_insertMember last.1 last.2 ih

/-- Where no name is there twice, what is there is what is found. -/
theorem lookup_eq_some_iff {members : List (String × α)} (hascending : Ascending members)
    {name : String} {value : α} : lookup name members = some value ↔ (name, value) ∈ members := by
  induction members with
  | nil => simp [lookup]
  | cons member members ih =>
      obtain ⟨first, old⟩ := member
      obtain ⟨hfirst, hrest⟩ := ascending_cons.mp hascending
      rw [lookup_cons, List.mem_cons, Prod.mk.injEq]
      by_cases hname : name = first
      · have habsent : (name, value) ∉ members := by
          intro hmember
          exact absurd (hfirst _ hmember) (hname ▸ lt_irrefl name)
        rw [if_pos hname, Option.some.injEq, or_iff_left habsent, and_iff_right hname, eq_comm]
      · rw [if_neg hname, ih hrest]
        simp [hname]

/-- A member behind all others is put last. -/
theorem insertMember_of_forall_lt {name : String} (value : α) {members : List (String × α)}
    (hlast : ∀ member ∈ members, member.1 < name) :
    insertMember name value members = members ++ [(name, value)] := by
  induction members with
  | nil => rfl
  | cons first members ih =>
      obtain ⟨other, old⟩ := first
      obtain ⟨hfirst, hrest⟩ := List.forall_mem_cons.mp hlast
      rw [insertMember, if_neg (ne_of_gt hfirst), if_neg (not_lt_of_gt hfirst), ih hrest]
      rfl

/-- Members that are in order stay as they are. -/
theorem sortMembers_of_ascending {members : List (String × α)} (hascending : Ascending members) :
    sortMembers members = members := by
  induction members using List.reverseRecOn with
  | nil => rfl
  | append_singleton members last ih =>
      rw [Ascending, List.map_append, List.pairwise_append] at hascending
      obtain ⟨hfront, -, hlast⟩ := hascending
      rw [sortMembers, List.foldl_append, ← sortMembers, ih hfront]
      exact insertMember_of_forall_lt last.2 fun member hmember =>
        hlast member.1 (List.mem_map_of_mem hmember) last.1 (by simp)

end DebugBridge.Json
