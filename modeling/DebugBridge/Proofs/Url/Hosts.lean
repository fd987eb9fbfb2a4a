import DebugBridge.Proofs.Url.Addresses
import DebugBridge.Proofs.Url.Domains
import DebugBridge.Url.Read
import Mathlib.Data.List.Basic

/-!
# Hosts read back

However a host of the web was spelled, its text is a spelling of it as well: a domain is its own
domain and holds nothing that would be decoded, and an address is written so that it is read as the
same address.
-/

namespace DebugBridge.Url

open Text

/-! ## Texts of hosts -/

/-- A character that is kept and ends neither an authority nor the credentials in it. -/
def Plain (c : Char) : Prop := 0x20 < c.toNat ∧ c ∉ "#/?@\\".toList

instance (c : Char) : Decidable (Plain c) := inferInstanceAs (Decidable (_ ∧ _))

/-- A host whose text stands for it in a URL. -/
structure SettledHost (host : Host) : Prop where
  reread : readHost host.text = .ok host
  some : host.text ≠ []
  plain : ∀ c ∈ host.text, Plain c
  /-- The text is told from what follows it. -/
  length : ∀ rest : List Char, (∀ c ∈ rest.head?, c = ':') →
    hostLength true false (host.text ++ rest) = host.text.length

section HostLength

variable {text rest : List Char}

theorem hostLength_of_colon (hrest : ∀ c ∈ rest.head?, c = ':') :
    hostLength true false rest = 0 := by
  cases rest with
  | nil => rfl
  | cons c rest =>
      cases hrest c rfl
      rfl

/-- A text without brackets and backslashes is passed; between brackets it may hold colons. -/
theorem hostLength_append {inBrackets : Bool}
    (htext : ∀ c ∈ text, c ≠ '[' ∧ c ≠ '\\' ∧ c ≠ ']' ∧ (inBrackets = true ∨ c ≠ ':')) :
    hostLength true inBrackets (text ++ rest) = text.length + hostLength true inBrackets rest := by
  induction text with
  | nil => rw [List.nil_append, List.length_nil, Nat.zero_add]
  | cons c text ih =>
      obtain ⟨⟨hopen, hback, hclose, hcolon⟩, hmore⟩ := List.forall_mem_cons.mp htext
      have hpassed : (c == ':' && !inBrackets || (true && c == '\\')) = false := by
        rcases hcolon with rfl | hcolon <;> simp [*]
      rw [List.cons_append, hostLength, hpassed, if_neg (by simp), if_neg (by simp [hopen]),
        if_neg (by simp [hclose]), ih hmore, List.length_cons, Nat.add_right_comm]

end HostLength

/-- The text of a domain, which may be that of an address of four bytes. -/
theorem settledHost_of_inDomain {host : Host} (hdomain : ∀ c ∈ host.text, InDomain c)
    (hself : asciiDomain? (String.ofList host.text) = some host.text) (hsome : host.text ≠ [])
    (hread : (if endsInNumber host.text then readIpv4 host.text
      else .ok (.name (String.ofList host.text))) = .ok host) : SettledHost host where
  reread := by
    have hpercent : '%' ∉ host.text := fun hmem => absurd (hdomain '%' hmem) (by decide)
    have hopen : '[' ∉ host.text := fun hmem => absurd (hdomain '[' hmem) (by decide)
    have hdecoded : (decodeUtf8? (percentDecode (encodeUtf8 (String.ofList host.text)))).bind
        asciiDomain? = some host.text := by
      rw [encodeUtf8_ofList, percentDecode_bytesOf hpercent, decodeUtf8?_bytesOf, Option.bind_some,
        hself]
    generalize host.text = text at hsome hread hopen hdecoded
    obtain ⟨first, others, rfl⟩ := List.exists_cons_of_ne_nil hsome
    have hbracketed : bracketed (first :: others) = none := by
      unfold bracketed
      split
      · next rest htext => exact absurd (htext ▸ List.mem_cons_self) hopen
      · rfl
    rw [readHost, hbracketed]
    dsimp only
    rw [hdecoded]
    exact hread
  some := hsome
  plain c hc := by
    obtain ⟨hblank, hplain⟩ := (hdomain c hc).plain
    exact ⟨hblank, fun hmem => hplain ((by decide : "#/?@\\".toList ⊆ _) hmem)⟩
  length rest hrest := by
    rw [hostLength_append, hostLength_of_colon hrest, Nat.add_zero]
    intro c hc
    have hplain := (hdomain c hc).plain.2
    refine ⟨?_, ?_, ?_, .inr ?_⟩ <;>
    · rintro rfl
      exact hplain (by decide)

theorem mem_ipv4Text {address : Nat} {c : Char} (hc : c ∈ ipv4Text address) :
    c ∈ ".0123456789".toList := by
  have hdigits : ∀ n : Nat, ∀ c ∈ (toString n).toList, c ∈ ".0123456789".toList :=
    forall_mem_toString (by decide)
  have hdot : '.' ∈ ".0123456789".toList := by decide
  rw [ipv4Text_eq] at hc
  simp only [List.mem_append, List.mem_cons] at hc
  obtain hc | rfl | hc | rfl | hc | rfl | hc := hc
  all_goals first | exact hdot | exact hdigits _ c hc

theorem settledHost_ipv4 {address : Nat} (hsmall : address < 256 ^ 4) :
    SettledHost (.ipv4 address) := by
  have hall : ∀ c ∈ ".0123456789".toList, InDomain c :=
    List.all_iff_forall_prop.mp (by decide +kernel)
  have hdomain : ∀ c ∈ ipv4Text address, InDomain c := fun c hc => hall c (mem_ipv4Text hc)
  have hhyphen : '-' ∉ ipv4Text address := fun hc => absurd (mem_ipv4Text hc) (by decide)
  refine settledHost_of_inDomain hdomain (asciiDomain?_of_inDomain hdomain hhyphen) ?_ ?_
  · rw [Host.text, ipv4Text_eq]
    exact List.append_ne_nil_of_right_ne_nil _ (List.cons_ne_nil _ _)
  · exact (if_pos (endsInNumber_ipv4Text address)).trans (readIpv4_ipv4Text hsmall)

theorem mem_groupsText {groups : List Nat} {c : Char} (hc : c ∈ groupsText groups) :
    c ∈ ":0123456789abcdef".toList := by
  have hdigits : ∀ group : Nat, ∀ c ∈ Nat.toDigits 16 group, c ∈ ":0123456789abcdef".toList := by
    have hall : ∀ digit < 16, Nat.digitChar digit ∈ ":0123456789abcdef".toList := by decide
    intro group c hc
    obtain ⟨digit, hdigit, rfl⟩ := exists_of_mem_toDigits (by decide) hc
    exact hall digit hdigit
  induction groups with
  | nil => cases hc
  | cons group rest ih =>
      cases rest with
      | nil =>
          rw [groupsText_singleton] at hc
          exact hdigits group c hc
      | cons next rest =>
          rw [groupsText_cons, List.mem_append, List.mem_cons] at hc
          obtain hc | rfl | hc := hc
          · exact hdigits group c hc
          · decide
          · exact ih hc

theorem mem_ipv6Text {groups : List Nat} {c : Char} (hc : c ∈ ipv6Text groups) :
    c ∈ ":0123456789abcdef".toList := by
  unfold ipv6Text at hc
  dsimp only at hc
  split at hc
  · exact mem_groupsText hc
  · rw [List.mem_append, List.mem_append] at hc
    obtain (hc | hc) | hc := hc
    · exact mem_groupsText hc
    · exact (by decide : "::".toList ⊆ _) hc
    · exact mem_groupsText hc

theorem settledHost_ipv6 {groups : List Nat} (height : groups.length = 8)
    (hsmall : ∀ group ∈ groups, group < 65536) : SettledHost (.ipv6 groups) where
  reread := by
    have hbracketed : bracketed (Host.ipv6 groups).text = some (.ok (ipv6Text groups)) := by
      rw [Host.text, List.cons_append, bracketed, ← List.cons_append, List.getLast?_concat,
        List.dropLast_concat]
      rfl
    rw [readHost, hbracketed]
    exact readIpv6_ipv6Text height hsmall
  some := List.cons_ne_nil _ _
  plain c hc := by
    have hall : ∀ c ∈ '[' :: ']' :: ":0123456789abcdef".toList, Plain c :=
      List.all_iff_forall_prop.mp (by decide)
    rw [Host.text, List.mem_append, List.mem_cons, List.mem_singleton] at hc
    obtain (rfl | hc) | rfl := hc
    · exact hall '[' (by decide)
    · exact hall c (List.mem_cons_of_mem _ (List.mem_cons_of_mem _ (mem_ipv6Text hc)))
    · exact hall ']' (by decide)
  length rest hrest := by
    have hinside : ∀ c ∈ ipv6Text groups,
        c ≠ '[' ∧ c ≠ '\\' ∧ c ≠ ']' ∧ (true = true ∨ c ≠ ':') := by
      have hall : ∀ c ∈ ":0123456789abcdef".toList,
          c ≠ '[' ∧ c ≠ '\\' ∧ c ≠ ']' ∧ (true = true ∨ c ≠ ':') :=
        List.all_iff_forall_prop.mp (by decide)
      exact fun c hc => hall c (mem_ipv6Text hc)
    have hclose : hostLength true true (']' :: rest) = hostLength true false rest + 1 := rfl
    rw [Host.text, List.append_assoc, List.cons_append]
    change hostLength true true _ + 1 = _
    rw [hostLength_append hinside, List.singleton_append, hclose, hostLength_of_colon hrest,
      List.length_append, List.length_singleton, List.length_cons]

/-! ## What is read -/

/-- Whatever spelling a host was read of, its text stands for it. -/
theorem settledHost_of_readHost {text : List Char} {host : Host}
    (hread : readHost text = .ok host) : SettledHost host := by
  unfold readHost at hread
  split at hread
  · next inside hinside =>
      cases inside with
      | error fault => cases hread
      | ok inside =>
          obtain ⟨groups, height, hsmall, rfl⟩ := exists_of_readIpv6 hread
          exact settledHost_ipv6 height hsmall
  · dsimp only at hread
    split at hread
    · cases hread
    · cases hread
    · next domain hsome hdomain =>
        obtain ⟨decoded, -, hdomain⟩ := Option.bind_eq_some_iff.mp hdomain
        split at hread
        · obtain ⟨address, hsmall, rfl⟩ := exists_of_readIpv4 hread
          exact settledHost_ipv4 hsmall
        · next hnumber =>
            cases hread
            have htext : (Host.name (String.ofList domain)).text = domain := String.toList_ofList
            refine settledHost_of_inDomain ?_ ?_ ?_ ?_
            · rw [htext]
              exact inDomain_of_asciiDomain? hdomain
            · rw [htext]
              exact asciiDomain?_of_asciiDomain? hdomain
            · rw [htext]
              exact fun hnone => hsome (hnone ▸ rfl)
            · rw [htext, if_neg hnumber]

end DebugBridge.Url
