import DebugBridge.Proofs.Url.Numbers
import DebugBridge.Proofs.Url.Parts
import Mathlib.Data.List.TakeWhile
import Mathlib.Tactic.Common

/-!
# Addresses read back

An address of four bytes is written as four decimal numbers, whatever it was read of, and read back
from them.  So is one of eight groups, of which the longest run of zeros is left out.
-/

namespace DebugBridge.Url

/-! ## Addresses of four bytes -/

/-- The text of an address from its bytes. -/
theorem ipv4Text_eq (address : Nat) :
    ipv4Text address =
      (toString (address / 256 ^ 3 % 256)).toList ++ '.' ::
        ((toString (address / 256 ^ 2 % 256)).toList ++ '.' ::
          ((toString (address / 256 ^ 1 % 256)).toList ++ '.' ::
            (toString (address / 256 ^ 0 % 256)).toList)) := by
  have hjoin : ∀ first second third fourth : String,
      (String.intercalate "." [first, second, third, fourth]).toList =
        first.toList ++ '.' ::
          (second.toList ++ '.' :: (third.toList ++ '.' :: fourth.toList)) := by
    intro first second third fourth
    simp [String.intercalate_cons_cons]
  exact hjoin _ _ _ _

theorem ipv4Part?_toString : ∀ byte < 256, ipv4Part? (toString byte).toList = some byte := by
  decide +kernel

theorem dotParts_ipv4Text (address : Nat) :
    dotParts (ipv4Text address) =
      [3, 2, 1, 0].map fun place => (toString (address / 256 ^ place % 256)).toList := by
  have hplain : ∀ n : Nat, ∀ c ∈ (toString n).toList, (c == '.') = false :=
    forall_mem_toString (by decide)
  rw [ipv4Text_eq, dotParts, splitAt_append (hplain _) rfl, splitAt_append (hplain _) rfl,
    splitAt_append (hplain _) rfl, splitAt_of_free (hplain _)]
  rfl

theorem ipv4Parts_ipv4Text (address : Nat) :
    ipv4Parts (ipv4Text address) =
      [3, 2, 1, 0].map fun place => (toString (address / 256 ^ place % 256)).toList := by
  have hlast := toString_ne_nil (address / 256 ^ 0 % 256)
  rw [ipv4Parts, dotParts_ipv4Text]
  simp only [List.map_cons, List.map_nil]
  generalize (toString (address / 256 ^ 0 % 256)).toList = last at hlast
  cases last with
  | nil => exact absurd rfl hlast
  | cons c rest => rfl

theorem endsInNumber_ipv4Text (address : Nat) : endsInNumber (ipv4Text address) = true := by
  have hdigits : (toString (address / 256 ^ 0 % 256)).toList.all Char.isDigit = true :=
    List.all_eq_true.mpr (forall_mem_toString (by decide) _)
  rw [endsInNumber, ipv4Parts_ipv4Text]
  simp only [List.map_cons, List.map_nil, List.getLast?_cons_cons, List.getLast?_singleton]
  rw [hdigits]
  simp

/-- Four bytes make an address. -/
theorem readIpv4_of_parts {text : List Char} {first second third fourth : Nat}
    (hparts : ipv4Parts text =
      [first, second, third, fourth].map fun byte => (toString byte).toList)
    (hbytes : ∀ byte ∈ [first, second, third, fourth], byte < 256) :
    readIpv4 text =
      .ok (.ipv4 (fourth + first * 256 ^ 3 + second * 256 ^ 2 + third * 256 ^ 1)) := by
  simp only [List.forall_mem_cons, List.not_mem_nil, false_imp_iff, implies_true, and_true]
    at hbytes
  obtain ⟨hfirst, hsecond, hthird, hfourth⟩ := hbytes
  have hread : (ipv4Parts text).mapM ipv4Part? = some [first, second, third, fourth] := by
    rw [hparts]
    simp only [List.map_cons, List.map_nil, List.mapM_cons, List.mapM_nil,
      ipv4Part?_toString _ hfirst, ipv4Part?_toString _ hsecond, ipv4Part?_toString _ hthird,
      ipv4Part?_toString _ hfourth]
    rfl
  have hfew : ¬4 < (ipv4Parts text).length := by
    rw [hparts]
    simp
  have hnone : (decide (Nat.pow 256 (4 - [third, second, first].length) ≤ fourth) ||
      [third, second, first].any (255 < ·)) = false := by
    simp
    omega
  rw [readIpv4]
  dsimp only
  rw [if_neg hfew, hread, Option.map_some]
  simp only [List.reverse_cons, List.reverse_nil, List.nil_append, List.cons_append]
  rw [hnone]
  rfl

/-- An address is read back from its text. -/
theorem readIpv4_ipv4Text {address : Nat} (hsmall : address < 256 ^ 4) :
    readIpv4 (ipv4Text address) = .ok (.ipv4 address) := by
  have hbyte : ∀ place, address / 256 ^ place % 256 < 256 := fun _ => Nat.mod_lt _ (by decide)
  rw [readIpv4_of_parts (ipv4Parts_ipv4Text address)]
  · congr 2
    omega
  · simp only [List.forall_mem_cons, List.not_mem_nil, false_imp_iff, implies_true, and_true]
    exact ⟨hbyte 3, hbyte 2, hbyte 1, hbyte 0⟩

/-- At most three bytes and a number that fills the bytes that are left.  The weights are a variable
so that nothing computes with them. -/
theorem address_lt {weight : Nat → Nat} (hweight : ∀ place, weight place = 256 ^ place)
    {front : List Nat} {last : Nat} (hfew : front.length ≤ 3) (hfront : ∀ byte ∈ front, byte ≤ 255)
    (hlast : last < weight (4 - front.length)) :
    (front.reverse.zipIdx.map fun (part, index) => part * weight (3 - index)).foldl (· + ·) last <
      256 ^ 4 := by
  match front, hfew with
  | [], _ =>
      change last < weight 4 at hlast
      change last < 256 ^ 4
      rwa [hweight] at hlast
  | [first], _ =>
      have hfirst := hfront first (by simp)
      change last < weight 3 at hlast
      change last + first * weight 3 < 256 ^ 4
      rw [hweight] at hlast ⊢
      omega
  | [second, first], _ =>
      have hfirst := hfront first (by simp)
      have hsecond := hfront second (by simp)
      change last < weight 2 at hlast
      change last + first * weight 3 + second * weight 2 < 256 ^ 4
      rw [hweight] at hlast
      rw [hweight, hweight]
      omega
  | [third, second, first], _ =>
      have hfirst := hfront first (by simp)
      have hsecond := hfront second (by simp)
      have hthird := hfront third (by simp)
      change last < weight 1 at hlast
      change last + first * weight 3 + second * weight 2 + third * weight 1 < 256 ^ 4
      rw [hweight] at hlast
      rw [hweight, hweight, hweight]
      omega

theorem exists_of_readIpv4 {text : List Char} {host : Host} (hread : readIpv4 text = .ok host) :
    ∃ address < 256 ^ 4, host = .ipv4 address := by
  rw [readIpv4] at hread
  dsimp only at hread
  split at hread
  · cases hread
  · next hfew =>
      split at hread
      · next last front hparts =>
          split at hread
          · cases hread
          · next hbytes =>
              cases hread
              rw [Bool.or_eq_true, not_or, decide_eq_true_eq, List.any_eq_true] at hbytes
              obtain ⟨values, hvalues, hreverse⟩ := Option.map_eq_some_iff.mp hparts
              have hlength : values.length = front.length + 1 := by
                rw [← List.length_reverse, hreverse, List.length_cons]
              have hread := (of_mapM hvalues).1
              refine ⟨_, address_lt (fun _ => Nat.pow_eq) (by omega) ?_
                (Nat.lt_of_not_le hbytes.1), rfl⟩
              intro byte hbyte
              refine Nat.le_of_not_lt fun hlarge => hbytes.2 ⟨byte, hbyte, ?_⟩
              exact decide_eq_true hlarge
      · cases hread

/-! ## Addresses of eight groups -/

theorem groupsText_cons (group next : Nat) (rest : List Nat) :
    groupsText (group :: next :: rest) =
      Nat.toDigits 16 group ++ ':' :: groupsText (next :: rest) := by
  rw [groupsText, List.map_cons, List.map_cons, String.intercalate_cons_cons, groupsText,
    List.map_cons]
  simp

theorem groupsText_singleton (group : Nat) : groupsText [group] = Nat.toDigits 16 group := by
  simp [groupsText]

theorem length_le_groupsText (groups : List Nat) : groups.length ≤ (groupsText groups).length := by
  induction groups with
  | nil => exact Nat.zero_le _
  | cons group rest ih =>
      have hdigits : 0 < (Nat.toDigits 16 group).length := Nat.length_toDigits_pos
      cases rest with
      | nil =>
          rw [groupsText_singleton]
          exact hdigits
      | cons next rest =>
          rw [groupsText_cons, List.length_append, List.length_cons (a := ':'),
            List.length_cons (a := group)]
          omega

theorem isSome_of_mem_group {group : Nat} :
    ∀ c ∈ Nat.toDigits 16 group, (hexDigitValue? c).isSome = true := by
  intro c hc
  obtain ⟨digit, hdigit, rfl⟩ := Text.exists_of_mem_toDigits (by decide) hc
  rw [hexDigitValue?_digitChar digit hdigit]
  rfl

/-- The digits in front of what is none are those of the group. -/
theorem span_group {group : Nat} (hgroup : group < 65536) {rest : List Char}
    (hrest : ∀ c ∈ rest.head?, (hexDigitValue? c).isSome = false) :
    ((Nat.toDigits 16 group ++ rest).take 4).takeWhile (fun c => (hexDigitValue? c).isSome) =
      Nat.toDigits 16 group := by
  have hfew : (Nat.toDigits 16 group).length ≤ 4 :=
    (Nat.length_toDigits_le_iff (by decide) (by decide)).mpr hgroup
  rw [List.take_append, List.take_of_length_le hfew]
  refine takeWhile_front isSome_of_mem_group fun c hc => hrest c ?_
  rw [List.head?_take] at hc
  split at hc
  · cases hc
  · exact hc

section Reading

variable {state : Groups} {fuel : Nat}

/-- A group is read that ends the text, or stands before a colon that does not. -/
theorem readGroups_group (hroom : state.done.length < 8) {group : Nat} (hgroup : group < 65536)
    {rest : List Char} (hrest : ∀ c ∈ rest.head?, (hexDigitValue? c).isSome = false) :
    (rest = [] → readGroups (fuel + 1) state (Nat.toDigits 16 group ++ rest) =
        some (state.push [group])) ∧
      ∀ c tail, rest = ':' :: c :: tail →
        readGroups (fuel + 1) state (Nat.toDigits 16 group ++ rest) =
          readGroups fuel (state.push [group]) (c :: tail) := by
  have hspan := span_group hgroup hrest
  have hdigits := @isSome_of_mem_group group
  have hvalue : numberIn? 16 (Nat.toDigits 16 group) = some group :=
    numberIn?_toDigits (by decide) (by decide) group
  have hdrop : (Nat.toDigits 16 group ++ rest).drop (Nat.toDigits 16 group).length = rest :=
    List.drop_left
  obtain ⟨first, digits, hchars⟩ := List.exists_cons_of_ne_nil (@Nat.toDigits_ne_nil group 16)
  have hcolon : first ≠ ':' := by
    rintro rfl
    exact absurd (hdigits ':' (hchars ▸ List.mem_cons_self)) (by decide)
  rw [hchars] at hspan hvalue hdrop ⊢
  rw [List.cons_append] at hspan hdrop ⊢
  rw [readGroups, if_neg (Nat.ne_of_lt hroom), if_neg hcolon]
  dsimp only
  rw [hspan, hvalue, hdrop, Option.getD_some]
  constructor
  · rintro rfl
    rfl
  · rintro c tail rfl
    rfl

theorem readGroups_last (hroom : state.done.length < 8) {group : Nat} (hgroup : group < 65536) :
    readGroups (fuel + 1) state (Nat.toDigits 16 group) = some (state.push [group]) := by
  have hlast : readGroups (fuel + 1) state (Nat.toDigits 16 group ++ []) =
      some (state.push [group]) := (readGroups_group hroom hgroup (by simp)).1 rfl
  rwa [List.append_nil] at hlast

theorem readGroups_next (hroom : state.done.length < 8) {group : Nat} (hgroup : group < 65536)
    {tail : List Char} (htail : tail ≠ []) :
    readGroups (fuel + 1) state (Nat.toDigits 16 group ++ ':' :: tail) =
      readGroups fuel (state.push [group]) tail := by
  obtain ⟨c, rest, rfl⟩ := List.exists_cons_of_ne_nil htail
  refine (readGroups_group hroom hgroup ?_).2 c rest rfl
  rw [List.head?_cons]
  rintro d ⟨⟩
  decide

theorem push_push (state : Groups) (first second : List Nat) :
    (state.push first).push second = state.push (first ++ second) := by
  rw [Groups.push, Groups.push, Groups.push, List.append_assoc]

theorem groupsText_ne_nil {groups : List Nat} (hsome : groups ≠ []) : groupsText groups ≠ [] := by
  have hle := length_le_groupsText groups
  have hpositive := List.length_pos_iff.mpr hsome
  exact List.ne_nil_of_length_pos (by omega)

/-- Groups are read to the end of the text. -/
theorem readGroups_groupsText {groups : List Nat} (hsmall : ∀ group ∈ groups, group < 65536)
    (hroom : state.done.length + groups.length ≤ 8) (hfuel : groups.length ≤ fuel) :
    readGroups fuel state (groupsText groups) = some (state.push groups) := by
  induction groups generalizing state fuel with
  | nil =>
      have hsame : state.push [] = state := by rw [Groups.push, List.append_nil]
      rw [hsame]
      cases fuel <;> rfl
  | cons group rest ih =>
      obtain ⟨hgroup, hmore⟩ := List.forall_mem_cons.mp hsmall
      obtain ⟨fuel, rfl⟩ := Nat.exists_eq_add_of_lt (Nat.lt_of_lt_of_le (Nat.succ_pos _) hfuel)
      rw [List.length_cons] at hroom hfuel
      cases rest with
      | nil =>
          rw [groupsText_singleton]
          exact readGroups_last (by omega) hgroup
      | cons next rest =>
          rw [groupsText_cons, readGroups_next (by omega) hgroup
            (groupsText_ne_nil (List.cons_ne_nil _ _)), ih hmore _ (by omega), push_push]
          · rfl
          · rw [Groups.push, List.length_append, List.length_singleton]
            omega

/-- Groups are read that stand in front of a colon which does not end the text. -/
theorem readGroups_front {groups : List Nat} (hsmall : ∀ group ∈ groups, group < 65536)
    (hsome : groups ≠ []) (hroom : state.done.length + groups.length ≤ 8) {tail : List Char}
    (htail : tail ≠ []) :
    readGroups (fuel + groups.length) state (groupsText groups ++ ':' :: tail) =
      readGroups fuel (state.push groups) tail := by
  induction groups generalizing state with
  | nil => exact absurd rfl hsome
  | cons group rest ih =>
      obtain ⟨hgroup, hmore⟩ := List.forall_mem_cons.mp hsmall
      rw [List.length_cons] at hroom
      cases rest with
      | nil =>
          rw [groupsText_singleton]
          exact readGroups_next (by omega) hgroup htail
      | cons next rest =>
          rw [groupsText_cons, List.append_assoc, List.cons_append, List.length_cons,
            ← Nat.add_assoc, readGroups_next (by omega) hgroup (by simp),
            ih hmore (List.cons_ne_nil _ _), push_push]
          · rfl
          · rw [Groups.push, List.length_append, List.length_singleton]
            omega

end Reading

/-- The first longest run of zeros stands where it is told. -/
theorem longestZeroRun_spec (index : Nat) (groups : List Nat)
    (hsome : 0 < (longestZeroRun index groups).2) :
    ∃ front back, groups = front ++ List.replicate (longestZeroRun index groups).2 0 ++ back ∧
      (longestZeroRun index groups).1 = index + front.length := by
  induction groups generalizing index with
  | nil => exact absurd hsome (Nat.lt_irrefl 0)
  | cons group rest ih =>
      rw [longestZeroRun] at hsome ⊢
      split
      · refine ⟨[], (group :: rest).dropWhile (· == 0), ?_, rfl⟩
        have hzeros : (group :: rest).takeWhile (· == 0) =
            List.replicate (zeroRun (group :: rest)) 0 :=
          List.eq_replicate_iff.mpr ⟨rfl, fun other hother => by
            simpa using List.mem_takeWhile_imp hother⟩
        rw [List.nil_append, ← hzeros, List.takeWhile_append_dropWhile]
      · next hlonger =>
          obtain ⟨front, back, hrest, hstart⟩ := ih (index + 1) (by omega)
          refine ⟨group :: front, back, ?_, ?_⟩
          · rw [List.cons_append, List.cons_append, ← hrest]
          · rw [hstart, List.length_cons]
            omega

theorem ipv6Groups?_of_head {text rest : List Char} {c : Char} (htext : text = c :: rest)
    (hc : c ≠ ':') (hrest : rest ≠ []) :
    ipv6Groups? text = (readGroups text.length {} text).bind Groups.close := by
  unfold ipv6Groups?
  split
  · exact absurd (List.cons_eq_cons.mp htext).1.symm hc
  · exact absurd (List.cons_eq_cons.mp htext).1.symm hc
  · cases htext
  · exact absurd (List.cons_eq_cons.mp htext).2.symm hrest
  · rfl

/-- A text of groups does not begin with a colon. -/
theorem exists_groupsText {groups : List Nat} (hsome : groups ≠ []) :
    ∃ c rest, groupsText groups = c :: rest ∧ c ≠ ':' := by
  have hdigits : ∀ group : Nat, ∃ c rest, Nat.toDigits 16 group = c :: rest ∧ c ≠ ':' := by
    intro group
    obtain ⟨c, rest, hchars⟩ := List.exists_cons_of_ne_nil (@Nat.toDigits_ne_nil group 16)
    refine ⟨c, rest, hchars, ?_⟩
    rintro rfl
    exact absurd (@isSome_of_mem_group group ':' (hchars ▸ List.mem_cons_self)) (by decide)
  cases groups with
  | nil => exact absurd rfl hsome
  | cons group rest =>
      obtain ⟨c, digits, hchars, hc⟩ := hdigits group
      cases rest with
      | nil => exact ⟨c, digits, by rw [groupsText_singleton, hchars], hc⟩
      | cons next rest => exact ⟨c, _, by rw [groupsText_cons, hchars, List.cons_append], hc⟩

/-- Groups without a gap are read back. -/
theorem ipv6Groups?_groupsText {groups : List Nat} (height : groups.length = 8)
    (hsmall : ∀ group ∈ groups, group < 65536) : ipv6Groups? (groupsText groups) = some groups := by
  have hsome : groups ≠ [] := List.ne_nil_of_length_pos (by omega)
  have hlong := length_le_groupsText groups
  obtain ⟨c, rest, htext, hc⟩ := exists_groupsText hsome
  have hrest : rest ≠ [] := by
    rintro rfl
    rw [htext, List.length_singleton] at hlong
    omega
  rw [ipv6Groups?_of_head htext hc hrest,
    readGroups_groupsText hsmall (by rw [height]; rfl) hlong, Option.bind_some]
  exact if_pos height

/-- The gap is filled with as many zeros as it stands for. -/
theorem close_gap {front back : List Nat} {length : Nat}
    (height : front.length + (length + 1) + back.length = 8) :
    Groups.close { done := front ++ [0] ++ back, gap := some (front.length + 1) } =
      some (front ++ List.replicate (length + 1) 0 ++ back) := by
  have hplace : front.length + 1 = (front ++ [0]).length := by
    rw [List.length_append, List.length_singleton]
  have hfill : 8 - (front ++ [0] ++ back).length = length := by
    rw [List.length_append, ← hplace]
    omega
  rw [Groups.close]
  dsimp only
  rw [hplace, List.take_left, List.drop_left, hfill, List.replicate_succ, List.append_assoc front]
  rfl

/-- Groups on both sides of a gap are read back with the zeros in it. -/
theorem ipv6Groups?_gap {front back : List Nat} {length : Nat}
    (height : front.length + (length + 1) + back.length = 8)
    (hfront : ∀ group ∈ front, group < 65536) (hback : ∀ group ∈ back, group < 65536) :
    ipv6Groups? (groupsText front ++ ':' :: ':' :: groupsText back) =
      some (front ++ List.replicate (length + 1) 0 ++ back) := by
  have hbehind : ∀ fuel, back.length ≤ fuel →
      readGroups fuel { done := front ++ [0], gap := some (front.length + 1) } (groupsText back) =
        some { done := front ++ [0] ++ back, gap := some (front.length + 1) } := by
    intro fuel hfuel
    refine readGroups_groupsText hback ?_ hfuel
    rw [List.length_append, List.length_singleton]
    omega
  have hlong := length_le_groupsText back
  by_cases hsome : front = []
  · subst hsome
    change (readGroups _ { done := [] ++ [0], gap := some (([] : List Nat).length + 1) }
      (groupsText back)).bind _ = _
    rw [hbehind _ hlong, Option.bind_some]
    exact close_gap height
  · -- The length of the text is fuel for the groups in front, the colon of the gap and what is
    -- behind it.
    obtain ⟨c, rest, htext, hc⟩ := exists_groupsText hsome
    have hlongFront := length_le_groupsText front
    obtain ⟨fuel, hfuel⟩ : ∃ fuel, (groupsText front ++ ':' :: ':' :: groupsText back).length =
        fuel + 1 + (groupsText back).length + front.length := by
      refine ⟨1 + ((groupsText front).length - front.length), ?_⟩
      simp only [List.length_append, List.length_cons]
      omega
    have hgap : readGroups (fuel + (groupsText back).length + 1) (Groups.push {} front)
        (':' :: groupsText back) =
          readGroups (fuel + (groupsText back).length)
            { done := front ++ [0], gap := some (front.length + 1) } (groupsText back) := by
      have hplace : (front ++ [0]).length = front.length + 1 := by
        rw [List.length_append, List.length_singleton]
      rw [← hplace, readGroups, if_neg, if_pos rfl]
      · rfl
      · change ¬front.length = 8
        omega
    rw [ipv6Groups?_of_head (by rw [htext, List.cons_append]) hc (by simp), hfuel,
      readGroups_front hfront hsome, Nat.add_right_comm, hgap, hbehind _ (by omega),
      Option.bind_some]
    · exact close_gap height
    · change 0 + front.length ≤ 8
      omega
    · simp

/-- An address of eight groups is read back from its text. -/
theorem readIpv6_ipv6Text {groups : List Nat} (height : groups.length = 8)
    (hsmall : ∀ group ∈ groups, group < 65536) :
    readIpv6 (ipv6Text groups) = .ok (.ipv6 groups) := by
  have hread : ipv6Groups? (ipv6Text groups) = some groups := by
    rw [ipv6Text]
    split
    next start length hrun =>
      split
      · exact ipv6Groups?_groupsText height hsmall
      · next hlong =>
          have hspec := longestZeroRun_spec 0 groups
          rw [hrun] at hspec
          dsimp only at hspec
          obtain ⟨front, back, hgroups, hstart⟩ := hspec (by omega)
          obtain ⟨more, rfl⟩ : ∃ more, length = more + 1 := ⟨length - 1, by omega⟩
          rw [Nat.zero_add] at hstart
          subst hgroups hstart
          have hplace : front.length + (more + 1) =
              (front ++ List.replicate (more + 1) 0).length := by
            rw [List.length_append, List.length_replicate]
          rw [hplace, List.drop_left, List.append_assoc front, List.take_left,
            ← List.append_assoc front, List.append_assoc (groupsText front)]
          rw [List.length_append, List.length_append, List.length_replicate] at height
          rw [List.forall_mem_append, List.forall_mem_append] at hsmall
          exact ipv6Groups?_gap height hsmall.1.1 hsmall.2
  rw [readIpv6, hread]

/-- What is known of groups while they are read. -/
structure Groups.Sound (groups : Groups) : Prop where
  few : groups.done.length ≤ 8
  small : ∀ group ∈ groups.done, group < 65536

theorem Groups.Sound.push {groups : Groups} (hgroups : groups.Sound) (more : List Nat)
    (hfew : groups.done.length + more.length ≤ 8) (hsmall : ∀ group ∈ more, group < 65536) :
    (groups.push more).Sound where
  few := by rwa [Groups.push, List.length_append]
  small := List.forall_mem_append.mpr ⟨hgroups.small, hsmall⟩

theorem lt_of_plainByte? {text : List Char} {byte : Nat} (hbyte : plainByte? text = some byte) :
    byte < 256 := by
  rw [plainByte?] at hbyte
  split at hbyte
  · cases hbyte
  · have hsmall := of_decide_eq_true (Option.filter_eq_some_iff.mp hbyte).2
    omega

theorem small_of_dottedGroups? {text : List Char} {groups : List Nat}
    (hgroups : dottedGroups? text = some groups) :
    groups.length = 2 ∧ ∀ group ∈ groups, group < 65536 := by
  rw [dottedGroups?] at hgroups
  split at hgroups
  · next a b c d hparts =>
      cases hgroups
      have hbytes : ∀ byte ∈ [a, b, c, d], byte < 256 := by
        intro byte hbyte
        obtain ⟨part, hpart⟩ := (of_mapM hparts).2 byte hbyte
        exact lt_of_plainByte? hpart
      simp only [List.forall_mem_cons, List.not_mem_nil, false_imp_iff, implies_true, and_true]
        at hbytes ⊢
      exact ⟨rfl, by omega, by omega⟩
  · cases hgroups

/-- Four digits at most make no more than a group. -/
theorem lt_of_groupDigits (text : List Char) :
    (numberIn? 16 ((text.take 4).takeWhile fun c => (hexDigitValue? c).isSome)).getD 0 < 65536 := by
  cases hnumber : numberIn? 16 ((text.take 4).takeWhile fun c => (hexDigitValue? c).isSome) with
  | none => decide
  | some value =>
      have hlength : ((text.take 4).takeWhile fun c => (hexDigitValue? c).isSome).length ≤ 4 :=
        Nat.le_trans (List.takeWhile_sublist _).length_le (List.length_take_le _ _)
      exact Nat.lt_of_lt_of_le (lt_of_numberIn? hnumber)
        (Nat.pow_le_pow_right (by decide) hlength)

theorem sound_readGroups {fuel : Nat} {groups : Groups} (hgroups : groups.Sound)
    {text : List Char} {result : Groups} (hread : readGroups fuel groups text = some result) :
    result.Sound := by
  induction fuel generalizing groups text with
  | zero =>
      cases text with
      | nil =>
          cases hread
          exact hgroups
      | cons c rest => cases hread
  | succ fuel ih =>
      cases text with
      | nil =>
          cases hread
          exact hgroups
      | cons c rest =>
          rw [readGroups] at hread
          split at hread
          · cases hread
          · next hroom =>
              have hfew := hgroups.few
              have hone : groups.done.length + 1 ≤ 8 := by omega
              have hvalue := lt_of_groupDigits (c :: rest)
              split at hread
              · split at hread
                · cases hread
                · have hopened := hgroups.push [0] hone (by simp)
                  dsimp only at hread
                  have hgap : Groups.Sound
                      { groups.push [0] with gap := some (groups.push [0]).done.length } :=
                    ⟨hopened.few, hopened.small⟩
                  exact ih hgap hread
              · dsimp only at hread
                generalize numberIn? 16 _ = number at hread hvalue
                generalize List.takeWhile _ _ = digits at hread
                have hpushed := hgroups.push [number.getD 0] hone (by simpa using hvalue)
                split at hread
                · cases hread
                  exact hpushed
                · split at hread
                  · cases hread
                  · next hbytes =>
                      obtain ⟨bytes, hdotted, rfl⟩ := Option.map_eq_some_iff.mp hread
                      obtain ⟨htwo, hsmall⟩ := small_of_dottedGroups? hdotted
                      refine hgroups.push _ ?_ hsmall
                      rw [Bool.or_eq_true, not_or, decide_eq_true_eq] at hbytes
                      omega
                · cases hread
                · exact ih hpushed hread
                · cases hread

/-- Eight groups come of a text that can be read. -/
theorem Groups.Sound.close {groups : Groups} (hgroups : groups.Sound) {closed : List Nat}
    (hclosed : groups.close = some closed) :
    closed.length = 8 ∧ ∀ group ∈ closed, group < 65536 := by
  have hfew := hgroups.few
  rw [Groups.close] at hclosed
  split at hclosed
  · next gap hgap =>
      cases hclosed
      constructor
      · simp only [List.length_append, List.length_take, List.length_replicate, List.length_drop]
        omega
      · intro group hgroup
        rw [List.mem_append, List.mem_append] at hgroup
        obtain (hgroup | hgroup) | hgroup := hgroup
        · exact hgroups.small _ (List.mem_of_mem_take hgroup)
        · rw [List.eq_of_mem_replicate hgroup]
          decide
        · exact hgroups.small _ (List.mem_of_mem_drop hgroup)
  · split at hclosed
    · next height =>
        cases hclosed
        exact ⟨height, hgroups.small⟩
    · cases hclosed

theorem exists_of_readIpv6 {text : List Char} {host : Host} (hread : readIpv6 text = .ok host) :
    ∃ groups : List Nat, groups.length = 8 ∧ (∀ group ∈ groups, group < 65536) ∧
      host = .ipv6 groups := by
  rw [readIpv6] at hread
  split at hread
  · next groups hgroups =>
      cases hread
      suffices height : groups.length = 8 ∧ ∀ group ∈ groups, group < 65536 from
        ⟨groups, height.1, height.2, rfl⟩
      unfold ipv6Groups? at hgroups
      obtain ⟨read, hread, hclosed⟩ := Option.bind_eq_some_iff.mp hgroups
      refine Groups.Sound.close ?_ hclosed
      split at hread
      · exact sound_readGroups ⟨by decide, by decide⟩ hread
      · cases hread
      · cases hread
      · cases hread
      · exact sound_readGroups ⟨by decide, by decide⟩ hread
  · cases hread

end DebugBridge.Url
