import DebugBridge.Proofs.Results
import DebugBridge.Proofs.Url.Hosts
import DebugBridge.Proofs.Url.Segments
import Mathlib.Data.List.TakeWhile

/-!
# URLs of the web read back

Reading a URL of the web settles its parts: credentials and segments are encoded, the host is in the
form that stands for it, and the port is not that of the scheme.  The text of a URL whose parts are
settled is read as that URL.
-/

namespace DebugBridge.Url

/-! ## Settled URLs -/

/-- What reading leaves of credentials, host and port. -/
structure SettledAuthority (scheme : String) (authority : Authority) : Prop where
  username : ∀ c ∈ authority.username, inUserinfoSet c = false
  password : ∀ c ∈ authority.password, inUserinfoSet c = false
  host : SettledHost authority.host
  port : ∀ port ∈ authority.port, port ≤ 65535 ∧ defaultPort? scheme ≠ some port

/-- What reading leaves of a URL of the web up to the query. -/
structure SettledWeb (scheme : String) (authority : Authority) (segments : List (List Char)) :
    Prop where
  web : IsWeb scheme
  authority : SettledAuthority scheme authority
  some : segments ≠ []
  segments : ∀ segment ∈ segments, SettledSegment segment

/-- A URL of the web without query and fragment. -/
def ofSegments (scheme : String) (authority : Authority) (segments : List (List Char)) : Url where
  scheme := scheme
  authority := some authority
  path := .rooted segments

/-! ## What is read is settled -/

section Read

variable {scheme : String} {text : List Char}

theorem withTail_eq (url : Url) (rest : List Char) :
    ∃ query fragment, withTail url rest = { url with query, fragment } := by
  unfold withTail
  split
  · exact ⟨_, _, rfl⟩
  · exact ⟨url.query, _, rfl⟩

theorem ofPathText_eq (scheme : String) (authority : Option Authority) (text : List Char) :
    ∃ path query fragment, ofPathText scheme authority text =
      { scheme, authority, path := .rooted (resolvePath scheme [] path), query, fragment } := by
  obtain ⟨query, fragment, htail⟩ := withTail_eq _ _
  exact ⟨_, query, fragment, htail⟩

/-- The path behind an authority of the web. -/
theorem afterAuthority_eq (hspecial : isSpecial scheme = true) (authority : Authority)
    (rest : List Char) :
    ∃ path query fragment, afterAuthority scheme authority rest =
      { scheme, authority := some authority, path := .rooted (resolvePath scheme [] path), query,
        fragment } := by
  unfold afterAuthority
  dsimp only
  rw [hspecial, if_neg (by simp)]
  split
  · exact ofPathText_eq _ _ _
  · exact ofPathText_eq _ _ _

theorem scheme_afterAuthority (authority : Authority) (rest : List Char) :
    (afterAuthority scheme authority rest).scheme = scheme := by
  have hpath : ∀ text, (ofPathText scheme (some authority) text).scheme = scheme := by
    intro text
    obtain ⟨path, query, fragment, hread⟩ := ofPathText_eq scheme (some authority) text
    rw [hread]
  unfold afterAuthority
  dsimp only
  split
  · obtain ⟨query, fragment, hread⟩ :=
      withTail_eq { scheme, authority := some authority, path := .rooted [] } rest
    rw [hread]
  · split
    · exact hpath _
    · exact hpath _

theorem port_of_readPort {port : Option Nat} {rest : List Char}
    (hread : readPort scheme text = .ok (port, rest)) :
    ∀ number ∈ port, number ≤ 65535 ∧ defaultPort? scheme ≠ some number := by
  unfold readPort at hread
  dsimp only at hread
  split at hread
  · cases hread
  · next hsmall =>
      split at hread
      · cases hread
      · split at hread
        · cases hread
          intro number hnumber
          cases hnumber
        · next hother =>
            cases hread
            rintro number ⟨⟩
            rw [Bool.or_eq_true, not_or, decide_eq_true_eq] at hother
            exact ⟨Nat.le_of_not_lt hsmall, hother.2⟩

theorem free_readCredentials (text : List Char) :
    (∀ c ∈ (readCredentials text).1, inUserinfoSet c = false) ∧
      ∀ c ∈ (readCredentials text).2, inUserinfoSet c = false :=
  ⟨free_percentEncode free_userinfo _, free_percentEncode free_userinfo _⟩

theorem exists_of_readHostAndPort {username password : List Char} {url : Url}
    (hread : readHostAndPort scheme username password text = .ok url) :
    ∃ hostText host port rest, (isSpecial scheme = true → readHost hostText = .ok host) ∧
      (∀ number ∈ port, number ≤ 65535 ∧ defaultPort? scheme ≠ some number) ∧
      url = afterAuthority scheme { username, password, host, port } rest := by
  unfold readHostAndPort at hread
  dsimp only at hread
  generalize text.take _ = hostText at hread
  split at hread
  · cases hread
  · -- Either reader of hosts is followed by the same steps, with a port to read or without.
    split at hread
    all_goals
      obtain ⟨host, hhost, hread⟩ := bind_eq_ok.mp hread
      split at hread
      · cases hread
      · split at hread
        all_goals
          obtain ⟨⟨port, rest⟩, hport, hread⟩ := bind_eq_ok.mp hread
          refine ⟨hostText, host, port, rest, fun hspecial => ?_, ?_, (Except.ok.inj hread).symm⟩
          · first | exact hhost | exact absurd hspecial ‹_›
          · first
              | exact port_of_readPort hport
              | rintro number ⟨⟩
                cases hport

/-- Everything behind `//` is an authority and what follows it. -/
theorem exists_of_readAuthority {url : Url} (hread : readAuthority scheme text = .ok url) :
    ∃ authority rest, url = afterAuthority scheme authority rest ∧
      (isSpecial scheme = true → SettledAuthority scheme authority) := by
  have hgiven : ∀ credentials text, readHostAndPort scheme (readCredentials credentials).1
      (readCredentials credentials).2 text = .ok url →
        ∃ authority rest, url = afterAuthority scheme authority rest ∧
          (isSpecial scheme = true → SettledAuthority scheme authority) := by
    intro credentials text hread
    obtain ⟨hostText, host, port, rest, hhost, hport, rfl⟩ := exists_of_readHostAndPort hread
    obtain ⟨husername, hpassword⟩ := free_readCredentials credentials
    exact ⟨_, rest, rfl, fun hspecial =>
      ⟨husername, hpassword, settledHost_of_readHost (hhost hspecial), hport⟩⟩
  unfold readAuthority at hread
  dsimp only at hread
  split at hread
  · exact hgiven [] text hread
  · split at hread
    · cases hread
    · exact hgiven _ _ hread

theorem scheme_ofFile (host : Host) (text : List Char) : (ofFile host text).scheme = "file" := by
  obtain ⟨path, query, fragment, hread⟩ := ofPathText_eq "file" (some { host }) text
  unfold ofFile
  rw [hread]
  dsimp only
  split
  · split <;> rfl
  · rfl

theorem scheme_of_readFile {url : Url} (hread : readFile text = .ok url) : url.scheme = "file" := by
  unfold readFile at hread
  split at hread
  · split at hread
    · dsimp only at hread
      split at hread
      · cases hread
        exact scheme_ofFile _ _
      · obtain ⟨host, -, hread⟩ := bind_eq_ok.mp hread
        cases hread
        exact scheme_ofFile _ _
    · cases hread
      exact scheme_ofFile _ _
  · cases hread
    exact scheme_ofFile _ _

theorem scheme_of_readOther {url : Url} (hread : readOther scheme text = .ok url) :
    url.scheme = scheme := by
  unfold readOther at hread
  split at hread
  · obtain ⟨authority, rest, rfl, -⟩ := exists_of_readAuthority hread
    exact scheme_afterAuthority authority rest
  · cases hread
    obtain ⟨path, query, fragment, hpath⟩ := ofPathText_eq scheme none _
    rw [hpath]
  · cases hread
    obtain ⟨query, fragment, htail⟩ := withTail_eq _ _
    rw [htail]

/-- A URL of the web that is read is settled. -/
theorem settled_of_parseChars {url : Url} (hread : parseChars text = .ok url)
    (hweb : IsWeb url.scheme) :
    ∃ authority segments, url.authority = some authority ∧ url.path = .rooted segments ∧
      SettledWeb url.scheme authority segments := by
  unfold parseChars at hread
  split at hread
  · cases hread
  · next scheme rest hscheme =>
      split at hread
      · next hfile =>
          have hnotFile := hweb.notFile
          rw [scheme_of_readFile hread] at hnotFile
          cases hnotFile
      · split at hread
        · next hspecial =>
            obtain ⟨authority, behind, rfl, hauthority⟩ := exists_of_readAuthority hread
            obtain ⟨path, query, fragment, hurl⟩ := afterAuthority_eq hspecial authority behind
            rw [scheme_afterAuthority] at hweb ⊢
            obtain ⟨hsome, hsegments⟩ :=
              settled_resolvePath hweb [] (List.forall_mem_nil _) path
            refine ⟨authority, resolvePath scheme [] path, ?_, ?_, hweb, hauthority hspecial, hsome,
              hsegments⟩
            · rw [hurl]
            · rw [hurl]
        · next hother =>
            rw [scheme_of_readOther hread] at hweb
            exact absurd hweb.special hother

end Read

/-! ## What is settled is read back -/

theorem mem_of_isWeb {scheme : String} (hweb : IsWeb scheme) :
    scheme ∈ ["http", "https", "ws", "wss", "ftp"] := by
  have hspecial : scheme ∈ ["http", "https", "ws", "wss", "ftp", "file"] :=
    List.contains_iff_mem.mp hweb.special
  have hnotFile := beq_eq_false_iff_ne.mp hweb.notFile
  simpa [hnotFile] using hspecial

/-- The schemes of the web are read as they are. -/
theorem scheme_of_web {scheme : String} (hweb : IsWeb scheme) :
    (∀ c ∈ scheme.toList, 0x20 < c.toNat) ∧
      ∀ rest, splitScheme? (scheme.toList ++ ':' :: rest) = some (scheme, rest) := by
  have hmem := mem_of_isWeb hweb
  simp only [List.mem_cons, List.not_mem_nil, or_false] at hmem
  rcases hmem with rfl | rfl | rfl | rfl | rfl <;>
    exact ⟨List.all_iff_forall_prop.mp (by decide), fun _ => rfl⟩

/-- A text without blanks is read as it is. -/
theorem clean_of_plain {text : List Char} (hplain : ∀ c ∈ text, 0x20 < c.toNat) :
    clean text = text := by
  have hedge : ∀ text : List Char, (∀ c ∈ text, 0x20 < c.toNat) →
      text.dropWhile (fun c => decide (c.toNat ≤ 0x20)) = text := by
    intro text hplain
    cases text with
    | nil => rfl
    | cons c rest =>
        have hc : ¬c.toNat ≤ 0x20 := Nat.not_le_of_lt (hplain c List.mem_cons_self)
        rw [List.dropWhile_cons_of_neg (by rwa [decide_eq_true_eq])]
  have hback : ∀ c ∈ text.reverse, 0x20 < c.toNat := fun c hc => hplain c (List.mem_reverse.mp hc)
  have hkept : text.filter (fun c => !(c == '\t' || c == '\n' || c == '\r')) = text := by
    refine List.filter_eq_self.mpr fun c hc => ?_
    have hblanks : ∀ blank ∈ ['\t', '\n', '\r'], blank.toNat ≤ 0x20 :=
      List.all_iff_forall_prop.mp (by decide)
    have hother : ∀ blank ∈ ['\t', '\n', '\r'], c ≠ blank := by
      rintro blank hblank rfl
      exact absurd (hplain c hc) (Nat.not_lt_of_le (hblanks c hblank))
    simp [hother]
  simp only [clean, hedge text hplain, hedge _ hback, List.reverse_reverse, hkept]

theorem Plain.not_end {c : Char} (hc : Plain c) :
    (!(isSegmentEnd true c || startsTail c)) = true := by
  have hother : ∀ d ∈ "#/?@\\".toList, c ≠ d := fun d hd hsame => hc.2 (hsame ▸ hd)
  have hhash := hother '#' (by decide)
  have hslash := hother '/' (by decide)
  have hquestion := hother '?' (by decide)
  have hback := hother '\\' (by decide)
  simp [isSegmentEnd, startsTail, hhash, hslash, hquestion, hback]

theorem ascii_of_not_inPathSet {c : Char} (hc : inPathSet c = false) : c.toNat < 128 := by
  simp only [inPathSet, inFragmentSet, isControl, Bool.or_eq_false_iff, decide_eq_false_iff_not]
    at hc
  omega

theorem plain_of_not_inPathSet {c : Char} (hc : inPathSet c = false) :
    0x20 < c.toNat ∧ startsTail c = false := by
  refine of_ascii (fun c => inPathSet c = false → 0x20 < c.toNat ∧ startsTail c = false)
    ?_ (ascii_of_not_inPathSet hc) hc
  decide +kernel

theorem plain_of_not_inUserinfoSet {c : Char} (hc : inUserinfoSet c = false) :
    Plain c ∧ c ≠ ':' := by
  refine of_ascii (fun c => inUserinfoSet c = false → Plain c ∧ c ≠ ':')
    ?_ (ascii_of_not_inPathSet (Bool.or_eq_false_iff.mp hc).1) hc
  decide +kernel

namespace Authority

/-- Credentials without the `@` behind them. -/
def credentials (authority : Authority) : List Char :=
  authority.username ++ if authority.password.isEmpty then [] else ':' :: authority.password

/-- The host, and the port with the colon in front of it. -/
def hostAndPort (authority : Authority) : List Char :=
  authority.host.text ++ marked ':' (authority.port.map fun port => (toString port).toList)

theorem text_eq (authority : Authority) :
    authority.text =
      (if authority.hasCredentials then authority.credentials ++ ['@'] else []) ++
        authority.hostAndPort := by
  have hparts : authority.text = authority.credentials ++
      (if authority.hasCredentials then ['@'] else []) ++ authority.hostAndPort := by
    unfold text hostAndPort credentials
    cases authority.port with
    | none => simp [marked]
    | some port => simp [marked]
  rw [hparts]
  cases hcredentials : authority.hasCredentials with
  | true => rfl
  | false =>
      simp only [hasCredentials, Bool.or_eq_false_iff, Bool.not_eq_false', List.isEmpty_iff]
        at hcredentials
      have hnone : authority.credentials = [] := by
        rw [credentials, hcredentials.1, hcredentials.2]
        rfl
      rw [hnone]
      rfl

end Authority

section Authority

variable {scheme : String} {authority : Authority} (hsettled : SettledAuthority scheme authority)
include hsettled

theorem plain_credentials : ∀ c ∈ authority.credentials, Plain c := by
  have hfree : ∀ c, inUserinfoSet c = false → Plain c := fun c hc =>
    (plain_of_not_inUserinfoSet hc).1
  refine List.forall_mem_append.mpr ⟨fun c hc => hfree c (hsettled.username c hc), ?_⟩
  split
  · exact List.forall_mem_nil _
  · exact List.forall_mem_cons.mpr ⟨by decide, fun c hc => hfree c (hsettled.password c hc)⟩

theorem plain_hostAndPort : ∀ c ∈ authority.hostAndPort, Plain c := by
  refine List.forall_mem_append.mpr ⟨hsettled.host.plain, ?_⟩
  cases authority.port with
  | none => exact List.forall_mem_nil _
  | some port =>
      exact List.forall_mem_cons.mpr ⟨by decide, forall_mem_toString (by decide) port⟩

theorem plain_authority : ∀ c ∈ authority.text, c = '@' ∨ Plain c := by
  rw [authority.text_eq]
  refine List.forall_mem_append.mpr ⟨?_, fun c hc => .inr (plain_hostAndPort hsettled c hc)⟩
  split
  · exact List.forall_mem_append.mpr ⟨fun c hc => .inr (plain_credentials hsettled c hc),
      List.forall_mem_singleton.mpr (.inl rfl)⟩
  · exact List.forall_mem_nil _

theorem hostAndPort_ne_nil : authority.hostAndPort ≠ [] :=
  List.append_ne_nil_of_left_ne_nil hsettled.host.some _

theorem text_ne_nil : authority.text ≠ [] := by
  rw [authority.text_eq]
  exact List.append_ne_nil_of_right_ne_nil _ (hostAndPort_ne_nil hsettled)

theorem readCredentials_credentials :
    readCredentials authority.credentials = (authority.username, authority.password) := by
  have husername : ∀ c ∈ authority.username, (c != ':') = true := fun c hc =>
    bne_iff_ne.mpr (plain_of_not_inUserinfoSet (hsettled.username c hc)).2
  have huser : authority.credentials.takeWhile (· != ':') = authority.username := by
    refine takeWhile_front husername fun c hc => ?_
    split at hc
    · cases hc
    · cases hc
      rfl
  have hpassword : authority.credentials.drop (authority.username.length + 1) =
      authority.password := by
    rw [Authority.credentials, List.drop_append, List.drop_of_length_le (by omega),
      Nat.add_sub_cancel_left, List.nil_append]
    split
    · next hnone => rw [List.drop_nil, List.isEmpty_iff.mp hnone]
    · rfl
  unfold readCredentials
  dsimp only
  rw [huser, hpassword, percentEncode_of_free hsettled.username,
    percentEncode_of_free hsettled.password]

end Authority

section Steps

variable {front text rest : List Char}

theorem splitCredentials_append (htext : '@' ∉ text) :
    splitCredentials (front ++ '@' :: text) = some (front, text) := by
  have hother : ∀ c ∈ text.reverse, (c != '@') = true := by
    intro c hc
    refine bne_iff_ne.mpr ?_
    rintro rfl
    exact htext (List.mem_reverse.mp hc)
  have hhost : ((front ++ '@' :: text).reverse.takeWhile (· != '@')).reverse = text := by
    rw [List.reverse_append, List.reverse_cons, List.append_assoc, takeWhile_front hother,
      List.reverse_reverse]
    rintro c ⟨⟩
    rfl
  have hlength : (front ++ '@' :: text).length - text.length - 1 = front.length := by
    rw [List.length_append, List.length_cons]
    omega
  unfold splitCredentials
  dsimp only
  rw [if_pos (by simp), hhost, hlength, List.take_left]

theorem splitCredentials_of_not_mem (htext : '@' ∉ text) : splitCredentials text = none :=
  if_neg (by simpa using htext)

theorem readPort_toString {scheme : String} {port : Nat} (hsmall : port ≤ 65535)
    (hother : defaultPort? scheme ≠ some port) (hrest : ∀ c ∈ rest.head?, c = '/') :
    readPort scheme ((toString port).toList ++ rest) = .ok (some port, rest) := by
  have hdigits : ((toString port).toList ++ rest).takeWhile Char.isDigit =
      (toString port).toList :=
    takeWhile_front (forall_mem_toString (by decide) port) fun c hc => by
      rw [hrest c hc]
      rfl
  have hbehind : (rest.head?.any fun c => !(c == '/' || c == '\\' || startsTail c)) = false := by
    cases rest with
    | nil => rfl
    | cons c rest =>
        cases hrest c rfl
        rfl
  have hsome : (toString port).toList.isEmpty = false :=
    List.isEmpty_eq_false_iff.mpr (toString_ne_nil port)
  unfold readPort
  dsimp only
  rw [hdigits, List.drop_left, numberIn?_toString, Option.getD_some, if_neg (by omega), hbehind,
    hsome]
  simp [hother]

end Steps

/-! ### Authorities -/

/-- Plain characters belong to the authority, and a slash ends it. -/
theorem takeWhile_plain {text rest : List Char} (htext : ∀ c ∈ text, c = '@' ∨ Plain c)
    (hrest : ∀ c ∈ rest.head?, c = '/') :
    (text ++ rest).takeWhile (fun c => !(isSegmentEnd true c || startsTail c)) = text := by
  refine takeWhile_front (fun c hc => ?_) fun c hc => ?_
  · rcases htext c hc with rfl | hplain
    · rfl
    · exact hplain.not_end
  · rw [hrest c hc]
    rfl

section Web

variable {scheme : String} (hspecial : isSpecial scheme = true) {authority : Authority}
  (hsettled : SettledAuthority scheme authority) {rest : List Char}
  (hrest : ∀ c ∈ rest.head?, c = '/')
include hspecial hsettled hrest

theorem readHostAndPort_hostAndPort :
    readHostAndPort scheme authority.username authority.password (authority.hostAndPort ++ rest) =
      .ok (afterAuthority scheme authority rest) := by
  have hspan := takeWhile_plain (fun c hc => .inr (plain_hostAndPort hsettled c hc)) hrest
  have hlength : hostLength true false authority.hostAndPort = authority.host.text.length := by
    refine hsettled.host.length _ ?_
    cases authority.port with
    | none => exact fun c hc => by cases hc
    | some port => exact fun c hc => (Option.some.inj hc).symm
  have hhost : (authority.hostAndPort ++ rest).take authority.host.text.length =
      authority.host.text := by
    rw [Authority.hostAndPort, List.append_assoc, List.take_left]
  have hbehind : (authority.hostAndPort ++ rest).drop authority.host.text.length =
      marked ':' (authority.port.map fun port => (toString port).toList) ++ rest := by
    rw [Authority.hostAndPort, List.append_assoc, List.drop_left]
  have hsome : authority.host.text.isEmpty = false :=
    List.isEmpty_eq_false_iff.mpr hsettled.host.some
  have hnamed : (authority.host == .name "") = false := by
    refine beq_eq_false_iff_ne.mpr fun hunnamed => hsettled.host.some ?_
    rw [hunnamed]
    rfl
  unfold readHostAndPort
  dsimp only
  rw [hspecial, hspan, hlength, hhost, hbehind, hsome, if_neg (by decide), if_pos rfl]
  rw [hsettled.host.reread]
  change (if _ then _ else _) = _
  rw [hnamed, Bool.false_and, if_neg (by decide)]
  -- The port that is read is the one that the authority has.
  have hread : ∀ port, authority.port = port →
      Except.ok (afterAuthority scheme
        { username := authority.username, password := authority.password,
          host := authority.host, port } rest) =
        (Except.ok (afterAuthority scheme authority rest) : Except UrlFault Url) := by
    rintro port rfl
    rfl
  cases hport : authority.port with
  | none =>
      refine Eq.trans ?_ (hread none hport)
      cases rest with
      | nil => rfl
      | cons c rest =>
          cases hrest c rfl
          rfl
  | some port =>
      obtain ⟨hsmall, hother⟩ := hsettled.port port hport
      refine Eq.trans ?_ (hread (some port) hport)
      change (readPort scheme ((toString port).toList ++ rest)).bind _ = _
      rw [readPort_toString hsmall hother hrest]
      rfl

/-- Everything behind `//` is read as the authority and what follows it. -/
theorem readAuthority_text :
    readAuthority scheme (authority.text ++ rest) =
      .ok (afterAuthority scheme authority rest) := by
  have hhost : '@' ∉ authority.hostAndPort := fun hmem =>
    (plain_hostAndPort hsettled '@' hmem).2 (by decide)
  have hread := readHostAndPort_hostAndPort hspecial hsettled hrest
  unfold readAuthority
  dsimp only
  rw [hspecial, takeWhile_plain (plain_authority hsettled) hrest, authority.text_eq]
  cases hcredentials : authority.hasCredentials with
  | false =>
      obtain ⟨husername, hpassword⟩ : authority.username = [] ∧ authority.password = [] := by
        simpa [Authority.hasCredentials] using hcredentials
      rw [if_neg (by decide), List.nil_append, splitCredentials_of_not_mem hhost]
      rw [husername, hpassword] at hread
      exact hread
  | true =>
      have hsome : authority.hostAndPort.isEmpty = false :=
        List.isEmpty_eq_false_iff.mpr (hostAndPort_ne_nil hsettled)
      have hbehind : (authority.credentials ++ '@' :: authority.hostAndPort ++ rest).drop
          (authority.credentials.length + 1) = authority.hostAndPort ++ rest := by
        rw [List.append_assoc, List.drop_append, List.drop_of_length_le (by omega),
          Nat.add_sub_cancel_left]
        rfl
      rw [if_pos rfl, List.append_assoc, List.singleton_append, splitCredentials_append hhost]
      dsimp only
      rw [hsome, hbehind, readCredentials_credentials hsettled, Bool.and_false, Bool.false_and,
        if_neg (by decide)]
      exact hread

end Web

/-! ### URLs -/

section Whole

variable {scheme : String} {authority : Authority} {segments : List (List Char)}

/-- The text of a URL in front of its path. -/
def frontText (scheme : String) (authority : Authority) : List Char :=
  scheme.toList ++ ':' :: '/' :: '/' :: authority.text

/-- The scheme, the authority and a path, if any, are read one by one. -/
theorem parseChars_authority (hweb : IsWeb scheme) (hsettled : SettledAuthority scheme authority)
    (rest : List Char) (hrest : ∀ c ∈ rest.head?, c = '/') (hplain : ∀ c ∈ rest, 0x20 < c.toNat) :
    parseChars (frontText scheme authority ++ rest) =
      .ok (afterAuthority scheme authority rest) := by
  have htext : frontText scheme authority ++ rest =
      scheme.toList ++ ':' :: '/' :: '/' :: (authority.text ++ rest) := List.append_assoc _ _ _
  obtain ⟨hscheme, hsplit⟩ := scheme_of_web hweb
  have hauthority := plain_authority hsettled
  have hclean : clean (scheme.toList ++ ':' :: '/' :: '/' :: (authority.text ++ rest)) =
      scheme.toList ++ ':' :: '/' :: '/' :: (authority.text ++ rest) := by
    refine clean_of_plain (List.forall_mem_append.mpr ⟨hscheme, ?_⟩)
    simp only [List.forall_mem_cons, List.forall_mem_append]
    refine ⟨by decide, by decide, by decide, fun c hc => ?_, hplain⟩
    rcases hauthority c hc with rfl | hc
    · decide
    · exact hc.1
  have hslashes : ('/' :: '/' :: (authority.text ++ rest)).dropWhile (isSegmentEnd true) =
      authority.text ++ rest := by
    obtain ⟨first, others, htext⟩ := List.exists_cons_of_ne_nil (text_ne_nil hsettled)
    have hfirst : isSegmentEnd true first = false := by
      rcases hauthority first (htext ▸ List.mem_cons_self) with rfl | hplain
      · rfl
      · have hnot := hplain.not_end
        rw [Bool.not_eq_true', Bool.or_eq_false_iff] at hnot
        exact hnot.1
    rw [List.dropWhile_cons_of_pos rfl, List.dropWhile_cons_of_pos rfl, htext, List.cons_append,
      List.dropWhile_cons_of_neg (by rw [hfirst]; exact Bool.false_ne_true)]
  unfold parseChars
  rw [htext, hclean, hsplit]
  dsimp only
  rw [if_neg (beq_eq_false_iff_ne.mp hweb.notFile), if_pos hweb.special, hslashes,
    readAuthority_text hweb.special hsettled hrest]

theorem plain_segmentsText (hsegments : ∀ segment ∈ segments, SettledSegment segment) :
    ∀ c ∈ segmentsText segments, 0x20 < c.toNat ∧ startsTail c = false := by
  intro c hc
  obtain ⟨segment, hsegment, hc⟩ := List.mem_flatMap.mp hc
  rcases List.mem_cons.mp hc with rfl | hc
  · decide
  · exact plain_of_not_inPathSet ((hsegments segment hsegment).encoded c hc)

theorem afterAuthority_segmentsText (hsettled : SettledWeb scheme authority segments) :
    afterAuthority scheme authority (segmentsText segments) =
      ofSegments scheme authority segments := by
  obtain ⟨first, others, rfl⟩ := List.exists_cons_of_ne_nil hsettled.some
  have htext : segmentsText (first :: others) = '/' :: (first ++ segmentsText others) := rfl
  have hpath : (first ++ segmentsText others).takeWhile (fun c => !startsTail c) =
      first ++ segmentsText others := by
    refine List.takeWhile_eq_self_iff.mpr fun c hc => ?_
    rw [(plain_segmentsText hsettled.segments c (htext ▸ List.mem_cons_of_mem _ hc)).2]
    rfl
  have hread := resolvePath_segmentsText hsettled.web [] hsettled.segments
  unfold afterAuthority
  dsimp only
  rw [hsettled.web.special, htext]
  change ofPathText scheme (some authority) (first ++ segmentsText others) = _
  unfold ofPathText
  dsimp only
  rw [hpath, List.drop_length, hread]
  rfl

theorem chars_ofSegments (scheme : String) (authority : Authority) (segments : List (List Char)) :
    (ofSegments scheme authority segments).chars =
      frontText scheme authority ++ segmentsText segments := by
  unfold chars authorityText frontText ofSegments
  simp [marked, Path.text]

/-- A settled URL without query and fragment is read back from its text. -/
theorem parseChars_chars (hsettled : SettledWeb scheme authority segments) :
    parseChars (ofSegments scheme authority segments).chars =
      .ok (ofSegments scheme authority segments) := by
  have hhead : ∀ c ∈ (segmentsText segments).head?, c = '/' := by
    obtain ⟨first, others, rfl⟩ := List.exists_cons_of_ne_nil hsettled.some
    exact fun c hc => (Option.some.inj hc).symm
  rw [chars_ofSegments, parseChars_authority hsettled.web hsettled.authority _ hhead
    fun c hc => (plain_segmentsText hsettled.segments c hc).1, afterAuthority_segmentsText hsettled]

end Whole

end DebugBridge.Url
