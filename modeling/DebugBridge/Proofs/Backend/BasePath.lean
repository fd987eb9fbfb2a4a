import DebugBridge.Backend.Wire
import DebugBridge.Proofs.Backend.Endpoints

/-!
# Calls below the base URL

A base URL may have a path, spelled in any way and with any number of slashes at its end.  Every
call goes to the backend that the base URL is of, below all of its path.
-/

namespace DebugBridge.BackendClient

open Url

/-- The URL leads a call to the backend of the base URL, below its path. -/
structure Below (base : Url) (made : BackendCall) (target : Url) : Prop where
  scheme : target.scheme = base.scheme
  /-- The same credentials, host and port are given in both. -/
  authority : target.authority = base.authority
  /-- There is a host and a port to connect to, the same for both. -/
  address : ∃ address, Wire.address? base = some address ∧ Wire.address? target = some address
  requestTarget : target.requestTarget =
    String.ofList (base.path.text.rdropWhile (· == '/')) ++ made.path
  query : target.query = none
  fragment : target.fragment = none
  /-- Nothing of the path is lost but empty segments at its end. -/
  segments : ∃ segments, base.path = .rooted segments ∧
    target.path = .rooted (segments.rdropWhile List.isEmpty ++ made.segments)

theorem isWeb_of_http {scheme : String} (hscheme : scheme = "http" ∨ scheme = "https") :
    IsWeb scheme := by
  rcases hscheme with rfl | rfl <;> exact ⟨rfl, rfl⟩

theorem exists_ofSegments_of_parse {text : String} {base : Url} (hread : Url.parse text = .ok base)
    (hweb : IsWeb base.scheme) (hquery : base.query = none) (hfragment : base.fragment = none) :
    ∃ scheme authority segments, base = ofSegments scheme authority segments ∧
      SettledWeb scheme authority segments := by
  obtain ⟨authority, segments, hauthority, hpath, hsettled⟩ := settled_of_parseChars hread hweb
  obtain ⟨scheme, _, _, _, _⟩ := base
  cases hauthority
  cases hpath
  cases hquery
  cases hfragment
  exact ⟨scheme, authority, segments, rfl, hsettled⟩

section Settled

variable {scheme : String} {authority : Authority} {segments : List (List Char)}

theorem below_ofSegments (hhttp : scheme = "http" ∨ scheme = "https")
    (hsettled : SettledWeb scheme authority segments) {made : BackendCall}
    (hsendable : made.Sendable) :
    Below (ofSegments scheme authority segments) made
      (ofSegments scheme authority (segments.rdropWhile List.isEmpty ++ made.segments)) where
  scheme := rfl
  authority := rfl
  address := by
    obtain ⟨port, hport⟩ : ∃ port, authority.port.or (defaultPort? scheme) = some port := by
      cases authority.port with
      | some port => exact ⟨port, rfl⟩
      | none => rcases hhttp with rfl | rfl <;> exact ⟨_, rfl⟩
    have haddress : ∀ segments : List (List Char),
        Wire.address? (ofSegments scheme authority segments) = some (authority.host, port) := by
      intro segments
      change (do return (authority.host, ← authority.port.or (defaultPort? scheme))) = _
      rw [hport]
      rfl
    exact ⟨_, haddress _, haddress _⟩
  requestTarget := by
    have hpath : (segmentsText segments).rdropWhile (· == '/') =
        segmentsText (segments.rdropWhile List.isEmpty) :=
      rdropWhile_segmentsText fun segment hsegment => (hsettled.segments segment hsegment).whole
    change String.ofList (segmentsText (_ ++ _) ++ []) =
      String.ofList ((segmentsText segments).rdropWhile (· == '/')) ++ made.path
    rw [List.append_nil, segmentsText_append, hpath, segmentsText_segments hsendable,
      String.ofList_append, String.ofList_toList]
  query := rfl
  fragment := rfl
  segments := ⟨segments, rfl, rfl⟩

end Settled

/-- Every call goes below the base URL.  It makes no difference whether the slash at its end is put
behind its segments or behind its text, nor how many slashes there were. -/
theorem endpoint_below_base {text : String} {base : Url} (hread : Url.parse text = .ok base)
    (hscheme : base.scheme = "http" ∨ base.scheme = "https") (hquery : base.query = none)
    (hfragment : base.fragment = none) :
    base.asDirectory = asDirectory.reread base ∧
      ∀ made : BackendCall, made.Sendable → ∃ target, endpoint base made = .ok target ∧
        Below base made target ∧
        (∀ url, exchangeUrl base made = .ok url → url = target) ∧
        (isRequestable target.withoutCredentials = true → exchangeUrl base made = .ok target) ∧
        ∀ slashes : Nat, ∃ other,
          Url.parse (String.ofList
            (base.chars.rdropWhile (· == '/') ++ List.replicate slashes '/')) = .ok other ∧
          endpoint other made = .ok target := by
  obtain ⟨scheme, authority, segments, rfl, hsettled⟩ :=
    exists_ofSegments_of_parse hread (isWeb_of_http hscheme) hquery hfragment
  change scheme = "http" ∨ scheme = "https" at hscheme
  refine ⟨?_, fun made hsendable => ?_⟩
  · rw [asDirectory_ofSegments hsettled.web, reread_ofSegments hsettled]
  · have hendpoint := fun segments =>
      endpoint_ofSegments hsettled.web authority segments hsendable
    refine ⟨_, hendpoint segments, below_ofSegments hscheme hsettled hsendable, fun url hurl => ?_,
      fun hrequestable => ?_, fun slashes => ?_⟩
    · rw [exchangeUrl, hendpoint] at hurl
      dsimp only at hurl
      split at hurl
      · exact (Except.ok.inj hurl).symm
      · cases hurl
    · rw [exchangeUrl, hendpoint]
      exact if_pos hrequestable
    · obtain ⟨others, -, hsame, hother⟩ := exists_parseChars_slashes hsettled slashes
      refine ⟨ofSegments scheme authority others, ?_, ?_⟩
      · rw [Url.parse, String.toList_ofList, hother]
      · rw [hendpoint, hsame]

/-- Credentials, a port, empty and escaped segments and several slashes at the end. -/
theorem endpoint_below_nested :
    let base : Url :=
      { scheme := "https"
        authority := some { username := "u".toList, host := .name "example.com", port := some 8443 }
        path := .rooted [[], "a".toList, "b%2Fc".toList, "x%20y".toList, [], []] }
    Url.parse "HTTPS://u@Example.COM:8443//a/b%2Fc/./x y//" = .ok base ∧
      (base.scheme = "http" ∨ base.scheme = "https") ∧ base.query = none ∧ base.fragment = none ∧
      (BackendCall.info "_server").Sendable ∧
      ∃ target, endpoint base (.info "_server") = .ok target ∧
        target.authority = base.authority ∧
        target.requestTarget = "//a/b%2Fc/x%20y/MTADebug/get_info_server" ∧
        exchangeUrl base (.info "_server") = .ok target := by
  intro base
  have hread : Url.parse "HTTPS://u@Example.COM:8443//a/b%2Fc/./x y//" = .ok base := by
    decide +kernel
  have hsendable : (BackendCall.info "_server").Sendable := by
    change "_server" ∈ contextSuffixes
    decide
  obtain ⟨-, hcalls⟩ := endpoint_below_base hread (.inr rfl) rfl rfl
  obtain ⟨target, hendpoint, hbelow, -, hexchange, -⟩ := hcalls (.info "_server") hsendable
  refine ⟨hread, .inr rfl, rfl, rfl, hsendable, target, hendpoint, hbelow.authority, ?_, ?_⟩
  · rw [hbelow.requestTarget]
    decide +kernel
  · have hrequestable : (endpoint base (.info "_server")).toOption.all
        (isRequestable ·.withoutCredentials) = true := by
      decide +kernel
    rw [hendpoint] at hrequestable
    exact hexchange hrequestable

end DebugBridge.BackendClient
