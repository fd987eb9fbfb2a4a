import DebugBridge.Backend.Client
import DebugBridge.Proofs.Json.Floats
import DebugBridge.Proofs.Url.Relative

/-!
# Endpoints of the backend

The backend listens at a port of this host.  The URL that is read of its address leads every call
that can be made to the endpoint that the call is for.
-/

namespace DebugBridge

open Json

/-- The suffixes of the contexts. -/
def contextSuffixes : List String := ["", "_server", "_client"]

namespace BackendCall

/-- A call that can be made: its context is one of the backend's, and its line an integer of 64
bits. -/
def Sendable : BackendCall → Prop
  | .info suffix => suffix ∈ contextSuffixes
  | .runState suffix => suffix ∈ contextSuffixes
  | .setResumeMode suffix _ => suffix ∈ contextSuffixes
  | .setBreakpoint _ line => fitsInt64 line = true
  | _ => True

/-- The segments of the path. -/
def segments (call : BackendCall) : List (List Char) :=
  (Url.splitAt (· == '/') call.path.toList).tail

end BackendCall

/-! ## Reading an address -/

namespace SimulatedBackend

open Url

/-- A place at the backend, which listens at a port of this host, or at that of the scheme. -/
def place (port : Option UInt16) (segments : List (List Char)) : Url where
  scheme := "http"
  authority := some { host := .ipv4 0x7f000001, port := port.map UInt16.toNat }
  path := .rooted segments

/-- The URL of the backend. -/
def url (port : Option UInt16) : Url := place port [[]]

/-- This is how the address of the backend is read. -/
theorem parse_address {port : UInt16} (hport : port ≠ 80) :
    Url.parse ("http://127.0.0.1:" ++ toString port.toNat) = .ok (url (some port)) := by
  let authority : Authority := { host := .ipv4 0x7f000001, port := some port.toNat }
  have hsettled : SettledAuthority "http" authority := by
    refine ⟨List.forall_mem_nil _, List.forall_mem_nil _, settledHost_ipv4 (by decide), ?_⟩
    rintro number ⟨⟩
    refine ⟨Nat.le_of_lt_succ port.toNat_lt, fun hsame => hport (UInt16.toNat_inj.mp ?_)⟩
    exact (Option.some.inj hsame).symm
  have hhost : (Host.ipv4 0x7f000001).text = "127.0.0.1".toList := by decide +kernel
  have htext : frontText "http" authority =
      "http://127.0.0.1:".toList ++ (toString port.toNat).toList := by
    change "http".toList ++ ':' :: '/' :: '/' :: ((Host.ipv4 0x7f000001).text ++ _) = _
    rw [hhost]
    rfl
  have hread := parseChars_authority ⟨rfl, rfl⟩ hsettled [] (fun c hc => by cases hc)
    (List.forall_mem_nil _)
  rw [htext, List.append_nil] at hread
  rw [Url.parse, String.toList_append]
  exact hread

end SimulatedBackend

/-! ## Where requests go -/

namespace BackendClient

/-- The paths of all calls that can be made. -/
def endpointPaths : List String :=
  (["get_info", "get_resume_mode", "set_resume_mode"].flatMap fun name =>
    contextSuffixes.map fun suffix => debugPath ++ ("/" ++ name) ++ suffix) ++
  ["/set_breakpoint", "/clear_breakpoints", "/set_pending_eval", "/get_eval_result"].map
    (debugPath ++ ·) ++
  [serverPath ++ "/command"]

theorem path_mem_endpointPaths {made : BackendCall} (hsendable : made.Sendable) :
    made.path ∈ endpointPaths := by
  have hcontext : ∀ name ∈ ["get_info", "get_resume_mode", "set_resume_mode"],
      ∀ suffix ∈ contextSuffixes, debugPath ++ ("/" ++ name) ++ suffix ∈ endpointPaths := by
    decide +kernel
  have hplain : ∀ path ∈ ["/set_breakpoint", "/clear_breakpoints", "/set_pending_eval",
      "/get_eval_result"], debugPath ++ path ∈ endpointPaths := by
    decide +kernel
  cases made with
  | info suffix => exact hcontext "get_info" (by decide) suffix hsendable
  | runState suffix => exact hcontext "get_resume_mode" (by decide) suffix hsendable
  | setResumeMode suffix mode => exact hcontext "set_resume_mode" (by decide) suffix hsendable
  | setBreakpoint file line => exact hplain "/set_breakpoint" (by decide)
  | clearBreakpoints => exact hplain "/clear_breakpoints" (by decide)
  | setPendingEval expression => exact hplain "/set_pending_eval" (by decide)
  | evalResult => exact hplain "/get_eval_result" (by decide)
  | serverCommand command => exact List.mem_append_right _ (List.mem_singleton_self _)

open Url

/-- The paths consist of settled segments. -/
theorem settled_endpointPaths : ∀ path ∈ endpointPaths,
    ∃ first ∈ (splitAt (· == '/') path.toList).tail.head?, first ≠ [] ∧
      (∀ segment ∈ (splitAt (· == '/') path.toList).tail, SettledSegment segment) ∧
      segmentsText (splitAt (· == '/') path.toList).tail = path.toList := by
  decide +kernel

theorem segmentsText_segments {made : BackendCall} (hsendable : made.Sendable) :
    segmentsText made.segments = made.path.toList := by
  obtain ⟨first, -, -, -, htext⟩ :=
    settled_endpointPaths made.path (path_mem_endpointPaths hsendable)
  exact htext

/-- A call below a base takes the place of the empty segments at its end. -/
theorem endpoint_ofSegments {scheme : String} (hweb : IsWeb scheme) (authority : Authority)
    (segments : List (List Char)) {made : BackendCall} (hsendable : made.Sendable) :
    endpoint (ofSegments scheme authority segments) made =
      .ok (ofSegments scheme authority (segments.rdropWhile List.isEmpty ++ made.segments)) := by
  have hmem := path_mem_endpointPaths hsendable
  obtain ⟨first, hfirst, hsome, hsettled, htext⟩ := settled_endpointPaths made.path hmem
  obtain ⟨others, hsegments⟩ := List.head?_eq_some_iff.mp hfirst
  rw [hsegments] at hsettled htext
  have hreference : made.path.toList.dropWhile (· == '/') = first ++ segmentsText others := by
    obtain ⟨c, rest, rfl⟩ := List.exists_cons_of_ne_nil hsome
    have hend := (hsettled _ List.mem_cons_self).whole c List.mem_cons_self
    have hc : ¬(c == '/') = true := Bool.eq_false_iff.mp (Bool.or_eq_false_iff.mp hend).1
    have hslash : segmentsText ((c :: rest) :: others) =
        '/' :: (c :: (rest ++ segmentsText others)) := rfl
    rw [← htext, hslash, List.dropWhile_cons_of_pos rfl,
      List.dropWhile_cons_of_neg (p := (· == '/')) hc,
      List.cons_append]
  rw [BackendCall.segments, hsegments, endpoint, asDirectory_ofSegments hweb, hreference]
  exact join_ofSegments hweb _ hsettled

theorem length_endpointPath : ∀ path ∈ endpointPaths, path.toList.length ≤ 50 := by
  decide +kernel

end BackendClient

namespace SimulatedBackend

open Url

theorem utf8ByteSize_ofList_le (text : List Char) :
    (String.ofList text).utf8ByteSize ≤ 4 * text.length := by
  induction text with
  | nil => exact Nat.le_refl _
  | cons c text ih =>
      have hsize := c.utf8Size_le_four
      rw [String.ofList_cons, String.utf8ByteSize_append, String.utf8ByteSize_singleton,
        List.length_cons]
      omega

theorem length_chars_place_le (port : Option UInt16) (segments : List (List Char)) :
    (place port segments).chars.length ≤ 22 + (segmentsText segments).length := by
  have hchars : ∀ shown : List Char,
      ("http".toList ++ ':' :: ("//".toList ++ ((Host.ipv4 0x7f000001).text ++ shown)) ++
        segmentsText segments ++ [] ++ []).length =
          16 + shown.length + (segmentsText segments).length := by
    intro shown
    have hscheme : "http".toList.length = 4 := by decide
    have hslashes : "//".toList.length = 2 := by decide
    have hhost : (Host.ipv4 0x7f000001).text.length = 9 := by decide +kernel
    simp only [List.append_nil, List.length_append, List.length_cons, hscheme, hslashes, hhost]
    omega
  cases port with
  | none =>
      have hnone := hchars []
      change (place none segments).chars.length = _ at hnone
      rw [hnone]
      exact Nat.add_le_add_right (by decide) _
  | some port =>
      have hport := @length_toString_le port.toNat 5 (by decide)
        (Nat.lt_trans port.toNat_lt (by decide))
      have hsome := hchars (':' :: (toString port.toNat).toList)
      change (place (some port) segments).chars.length = _ at hsome
      rw [hsome, List.length_cons]
      omega

/-- A request can be made of a place whose path is not too long. -/
theorem isRequestable_place (port : Option UInt16) {segments : List (List Char)}
    (hpath : (segmentsText segments).length ≤ 50) :
    BackendClient.isRequestable (place port segments).withoutCredentials = true := by
  have hhost : (Host.ipv4 0x7f000001).text.any BackendClient.isRefusedInHost = false := by
    decide +kernel
  have hsize := utf8ByteSize_ofList_le (place port segments).chars
  have hchars := length_chars_place_le port segments
  have hfits : (place port segments).withoutCredentials.text.utf8ByteSize ≤
      BackendClient.maxUrlSize := by
    change (String.ofList (place port segments).chars).utf8ByteSize ≤ 65534
    omega
  change ((_ || _) && decide _ && !(Host.ipv4 0x7f000001).text.any BackendClient.isRefusedInHost) =
    true
  rw [hhost, decide_eq_true hfits]
  rfl

/-- A request for any of the endpoints can be made, and reaches it. -/
theorem exchangeUrl_url (port : Option UInt16) {made : BackendCall} (hsendable : made.Sendable) :
    ∃ target, BackendClient.exchangeUrl (url port) made = .ok target ∧
      String.ofList target.path.text = made.path := by
  have hmem := BackendClient.path_mem_endpointPaths hsendable
  have htext := BackendClient.segmentsText_segments hsendable
  have hendpoint : BackendClient.endpoint (url port) made = .ok (place port made.segments) :=
    BackendClient.endpoint_ofSegments ⟨rfl, rfl⟩ _ [[]] hsendable
  refine ⟨place port made.segments, ?_, ?_⟩
  · rw [BackendClient.exchangeUrl, hendpoint]
    exact if_pos (isRequestable_place port
      (htext ▸ BackendClient.length_endpointPath made.path hmem))
  · change String.ofList (segmentsText made.segments) = made.path
    rw [htext, String.ofList_toList]

end SimulatedBackend

end DebugBridge
