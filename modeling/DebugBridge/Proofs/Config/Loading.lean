import DebugBridge.Config.Load
import DebugBridge.Proofs.Toml.Settings

/-!
# Loaded configurations

A document is taken just if it has the two sections and nothing else, and each entry of a section
is a setting with a value of its type.  What is set has the value given, the rest its default,
whatever the order of entries and sections.
-/

namespace DebugBridge

open TomlDecoder

namespace Toml

/-- A text that is a URL. -/
def url? (value : Toml) : Option Url := (string? value).bind fun text => (Url.parse text).toOption

def layout? : Toml → Option ContextLayout
  | .string "single" => some .single
  | .string "server-and-client" => some .serverAndClient
  | _ => none

/-- The name of a file. -/
def file? (value : Toml) : Option (Option String) := (string? value).map some

theorem toOption_run_urlDecoder (value : Toml) :
    (TomlDecoder.run BackendConfig.urlDecoder value).toOption = url? value := by
  cases value with
  | string text =>
      simp only [BackendConfig.urlDecoder, Format.refine, Format.text, bind, Except.bind,
        BackendConfig.readUrl, url?, string?, Option.bind_some]
      cases Url.parse text <;> rfl
  | _ => rfl

/-- A layout of contexts is a name; tables can stand for names, too. -/
theorem toOption_run_layout {value : Toml} (hvalue : ∀ inner, value ≠ .table inner) :
    (TomlDecoder.run ContextLayout.decoder value).toOption = layout? value := by
  cases value with
  | string name =>
      by_cases hsingle : name = "single"
      · subst hsingle
        rfl
      · by_cases hboth : name = "server-and-client"
        · subst hboth
          rfl
        · have hunknown : ¬[ContextLayout.single.name,
              ContextLayout.serverAndClient.name].contains name = true := by
            simp [ContextLayout.name, hsingle, hboth]
          change ((decodeChoice.known _ name).map ContextLayout.ofName).toOption = _
          rw [decodeChoice.known, if_neg hunknown]
          unfold layout?
          split <;> simp_all [Except.map, Except.toOption]
  | table inner => exact absurd rfl (hvalue inner)
  | _ => rfl

end Toml

namespace BackendConfig

open Toml

/-- Whether there is a setting of this name, and the value has its type. -/
def takes (name : String) (value : Toml) : Bool :=
  match name with
  | "url" => (url? value).isSome
  | "contexts" => (layout? value).isSome
  | "launch_retry_interval_ms" => (interval? value).isSome
  | "poll_interval_ms" => (interval? value).isSome
  | "eval_result_delay_ms" => (interval? value).isSome
  | "request_timeout_ms" => (interval? value).isSome
  | "resources_subdir" => (string? value).isSome
  | _ => false

/-- The settings with those given. -/
def updated (entries : List (String × Toml)) (config : BackendConfig) : BackendConfig where
  url := setting url? "url" entries config.url
  contexts := setting layout? "contexts" entries config.contexts
  launchRetryIntervalMs :=
    setting interval? "launch_retry_interval_ms" entries config.launchRetryIntervalMs
  pollIntervalMs := setting interval? "poll_interval_ms" entries config.pollIntervalMs
  evalResultDelayMs := setting interval? "eval_result_delay_ms" entries config.evalResultDelayMs
  requestTimeoutMs := setting interval? "request_timeout_ms" entries config.requestTimeoutMs
  resourcesSubdir := setting string? "resources_subdir" entries config.resourcesSubdir

/-- The settings with one of them given. -/
def set? (name : String) (value : Toml) (config : BackendConfig) : Option BackendConfig :=
  match name with
  | "url" => (url? value).map fun url => { config with url }
  | "contexts" => (layout? value).map fun contexts => { config with contexts }
  | "launch_retry_interval_ms" =>
    (interval? value).map fun launchRetryIntervalMs => { config with launchRetryIntervalMs }
  | "poll_interval_ms" => (interval? value).map fun pollIntervalMs => { config with pollIntervalMs }
  | "eval_result_delay_ms" =>
    (interval? value).map fun evalResultDelayMs => { config with evalResultDelayMs }
  | "request_timeout_ms" =>
    (interval? value).map fun requestTimeoutMs => { config with requestTimeoutMs }
  | "resources_subdir" =>
    (string? value).map fun resourcesSubdir => { config with resourcesSubdir }
  | _ => none

theorem applied?_fields {name : String} {value : Toml} (hvalue : value.WellFormed)
    (hcontexts : name = "contexts" → ∀ inner, value ≠ .table inner) (config : BackendConfig) :
    applied? fields name value config = set? name value config := by
  unfold set?
  split
  · exact applied?_of_field fields "url"
      (fun url config => { config with url }) rfl
      (toOption_run_urlDecoder value) config
  · exact applied?_of_field fields "contexts"
      (fun contexts config => { config with contexts }) rfl
      (toOption_run_layout (hcontexts rfl)) config
  · exact applied?_of_field fields "launch_retry_interval_ms"
      (fun launchRetryIntervalMs config => { config with launchRetryIntervalMs }) rfl
      (toOption_run_nat64 hvalue) config
  · exact applied?_of_field fields "poll_interval_ms"
      (fun pollIntervalMs config => { config with pollIntervalMs }) rfl
      (toOption_run_nat64 hvalue) config
  · exact applied?_of_field fields "eval_result_delay_ms"
      (fun evalResultDelayMs config => { config with evalResultDelayMs }) rfl
      (toOption_run_nat64 hvalue) config
  · exact applied?_of_field fields "request_timeout_ms"
      (fun requestTimeoutMs config => { config with requestTimeoutMs }) rfl
      (toOption_run_nat64 hvalue) config
  · exact applied?_of_field fields "resources_subdir"
      (fun resourcesSubdir config => { config with resourcesSubdir }) rfl
      (toOption_run_text _ value) config
  · refine applied?_of_unknown ?_ value config
    simp_all [fields, Format.field]

theorem isSome_set? (name : String) (value : Toml) (config : BackendConfig) :
    (set? name value config).isSome = takes name value := by
  unfold set? takes
  split <;> simp

theorem updated_cons {name : String} {value : Toml} {entries : List (String × Toml)}
    {config changed : BackendConfig} (hnew : name ∉ entries.map (·.1))
    (hset : set? name value config = some changed) :
    updated ((name, value) :: entries) config = updated entries changed := by
  unfold set? at hset
  split at hset
  case h_8 => cases hset
  all_goals
    obtain ⟨given, hgiven, rfl⟩ := Option.map_eq_some_iff.mp hset
    simp [updated, setting_cons_self hgiven hnew, setting_cons_of_ne]

/-- What a table says, if each of its entries is a setting. -/
def ofTable? : Toml → Option BackendConfig := record? takes updated {}

theorem toOption_run_decoder {entries : List (String × Toml)}
    (hentries : (Toml.table entries).WellFormed)
    (hcontexts : ∀ inner, Json.lookup "contexts" entries ≠ some (.table inner)) :
    (TomlDecoder.run decoder (.table entries)).toOption = ofTable? (.table entries) := by
  have happly : ∀ entry ∈ entries, ∀ config,
      applied? fields entry.1 entry.2 config = set? entry.1 entry.2 config := by
    intro entry hentry config
    refine applied?_fields (hentries.values entry hentry) (fun hname inner hinner => ?_) config
    refine hcontexts inner ((lookup_eq_some_iff hentries.names).mpr ?_)
    rw [← hname, ← hinner]
    exact hentry
  change (decodeTable true fields entries {}).toOption = _
  rw [toOption_decodeTable (by decide +kernel)]
  refine toOption_decodeEntries takes updated (fun _ => rfl) (fun entry hentry config => ?_)
    (fun entry hentry more config changed hnew hset => ?_) hentries.names {}
  · rw [happly entry hentry, isSome_set?]
  · rw [happly entry hentry] at hset
    exact updated_cons hnew hset

end BackendConfig

namespace LoggingConfig

open Toml

/-- Whether there is a setting of this name, and the value has its type. -/
def takes (name : String) (value : Toml) : Bool :=
  match name with
  | "level" => (string? value).isSome
  | "json" => (boolean? value).isSome
  | "stderr" => (boolean? value).isSome
  | "file" => (file? value).isSome
  | _ => false

/-- The settings with those given. -/
def updated (entries : List (String × Toml)) (config : LoggingConfig) : LoggingConfig where
  level := setting string? "level" entries config.level
  json := setting boolean? "json" entries config.json
  stderr := setting boolean? "stderr" entries config.stderr
  file := setting file? "file" entries config.file

/-- The settings with one of them given. -/
def set? (name : String) (value : Toml) (config : LoggingConfig) : Option LoggingConfig :=
  match name with
  | "level" => (string? value).map fun level => { config with level }
  | "json" => (boolean? value).map fun json => { config with json }
  | "stderr" => (boolean? value).map fun stderr => { config with stderr }
  | "file" => (file? value).map fun file => { config with file }
  | _ => none

theorem toOption_run_file (value : Toml) :
    (TomlDecoder.run (Format.optional (Format.text "path string")) value).toOption =
      file? value := by
  cases value <;> rfl

theorem applied?_fields (name : String) (value : Toml) (config : LoggingConfig) :
    applied? fields name value config = set? name value config := by
  unfold set?
  split
  · exact applied?_of_field fields "level"
      (fun level config => { config with level }) rfl
      (toOption_run_text _ value) config
  · exact applied?_of_field fields "json"
      (fun json config => { config with json }) rfl
      (toOption_run_boolean value) config
  · exact applied?_of_field fields "stderr"
      (fun stderr config => { config with stderr }) rfl
      (toOption_run_boolean value) config
  · exact applied?_of_field fields "file"
      (fun file config => { config with file }) rfl
      (toOption_run_file value) config
  · refine applied?_of_unknown ?_ value config
    simp_all [fields, Format.field]

theorem isSome_set? (name : String) (value : Toml) (config : LoggingConfig) :
    (set? name value config).isSome = takes name value := by
  unfold set? takes
  split <;> simp

theorem updated_cons {name : String} {value : Toml} {entries : List (String × Toml)}
    {config changed : LoggingConfig} (hnew : name ∉ entries.map (·.1))
    (hset : set? name value config = some changed) :
    updated ((name, value) :: entries) config = updated entries changed := by
  unfold set? at hset
  split at hset
  case h_5 => cases hset
  all_goals
    obtain ⟨given, hgiven, rfl⟩ := Option.map_eq_some_iff.mp hset
    simp [updated, setting_cons_self hgiven hnew, setting_cons_of_ne]

/-- What a table says, if each of its entries is a setting. -/
def ofTable? : Toml → Option LoggingConfig := record? takes updated {}

theorem toOption_run_decoder {entries : List (String × Toml)}
    (hentries : (Toml.table entries).WellFormed) :
    (TomlDecoder.run decoder (.table entries)).toOption = ofTable? (.table entries) := by
  change (decodeTable true fields entries {}).toOption = _
  rw [toOption_decodeTable (by decide +kernel)]
  refine toOption_decodeEntries takes updated (fun _ => rfl) (fun entry _ config => ?_)
    (fun entry _ more config changed hnew hset => ?_) hentries.names {}
  · rw [applied?_fields, isSome_set?]
  · rw [applied?_fields] at hset
    exact updated_cons hnew hset

end LoggingConfig

namespace AdapterConfig

open Toml

def takes (name : String) (value : Toml) : Bool :=
  match name with
  | "backend" => (BackendConfig.ofTable? value).isSome
  | "logging" => (LoggingConfig.ofTable? value).isSome
  | _ => false

def updated (entries : List (String × Toml)) (config : AdapterConfig) : AdapterConfig where
  backend := setting BackendConfig.ofTable? "backend" entries config.backend
  logging := setting LoggingConfig.ofTable? "logging" entries config.logging

def set? (name : String) (value : Toml) (config : AdapterConfig) : Option AdapterConfig :=
  match name with
  | "backend" => (BackendConfig.ofTable? value).map fun backend => { config with backend }
  | "logging" => (LoggingConfig.ofTable? value).map fun logging => { config with logging }
  | _ => none

theorem isSome_set? (name : String) (value : Toml) (config : AdapterConfig) :
    (set? name value config).isSome = takes name value := by
  unfold set? takes
  split <;> simp

theorem updated_cons {name : String} {value : Toml} {entries : List (String × Toml)}
    {config changed : AdapterConfig} (hnew : name ∉ entries.map (·.1))
    (hset : set? name value config = some changed) :
    updated ((name, value) :: entries) config = updated entries changed := by
  unfold set? at hset
  split at hset
  case h_3 => cases hset
  all_goals
    obtain ⟨given, hgiven, rfl⟩ := Option.map_eq_some_iff.mp hset
    simp [updated, setting_cons_self hgiven hnew, setting_cons_of_ne]

/-- The sections as fields of the whole document. -/
def sections : List (Field TomlDecoder AdapterConfig) := [
  Format.field "backend" BackendConfig.decoder fun backend config => { config with backend },
  Format.field "logging" LoggingConfig.decoder fun logging config => { config with logging }]

/-- Sections are tables, and the layout of contexts is none. -/
structure Plain (entries : List (String × Toml)) : Prop where
  backend : ∀ value, Json.lookup "backend" entries = some value → ∃ inner, value = .table inner
  logging : ∀ value, Json.lookup "logging" entries = some value → ∃ inner, value = .table inner
  contexts : ∀ inner,
    Json.lookup "contexts" (tableOf "backend" entries) ≠ some (.table inner)

section Document

variable {text : String} {entries : List (String × Toml)}

theorem applied?_sections (hplain : Plain entries) (hentries : (Toml.table entries).WellFormed)
    {name : String} {value : Toml} (hmem : (name, value) ∈ entries) (config : AdapterConfig) :
    applied? sections name value config = set? name value config := by
  have hlookup := (lookup_eq_some_iff hentries.names).mpr hmem
  have hvalue := hentries.values _ hmem
  unfold set?
  split
  · obtain ⟨inner, rfl⟩ := hplain.backend value hlookup
    have hcontexts := hplain.contexts
    rw [tableOf_of_mem hentries.names hmem] at hcontexts
    exact applied?_of_field sections "backend" (fun backend config => { config with backend }) rfl
      (BackendConfig.toOption_run_decoder hvalue hcontexts) config
  · obtain ⟨inner, rfl⟩ := hplain.logging value hlookup
    exact applied?_of_field sections "logging" (fun logging config => { config with logging }) rfl
      (LoggingConfig.toOption_run_decoder hvalue) config
  · refine applied?_of_unknown ?_ value config
    simp_all [sections, Format.field]

theorem toOption_load (hdocument : Toml.parse? text = some (.table entries))
    (hplain : Plain entries) :
    (load text).toOption =
      if entries.all fun entry => takes entry.1 entry.2 then some (updated entries {})
      else none := by
  have hentries := (wellFormed_of_parse? hdocument).1
  have hrun : TomlDecoder.run decoder (.table entries) = decodeTable true sections entries {} := rfl
  have hresult : (load text).toOption = (decodeTable true sections entries {}).toOption := by
    simp only [load, hdocument, ofToml, hrun]
    cases decodeTable true sections entries {} <;> rfl
  rw [hresult, toOption_decodeTable (by decide +kernel)]
  refine toOption_decodeEntries takes updated (fun _ => rfl) (fun entry hentry config => ?_)
    (fun entry hentry more config changed hnew hset => ?_) hentries.names {}
  · rw [applied?_sections hplain hentries hentry, isSome_set?]
  · rw [applied?_sections hplain hentries hentry] at hset
    exact updated_cons hnew hset

/-- There is nothing but the two sections, and in them nothing but settings with values of their
types. -/
structure Accepted (entries : List (String × Toml)) : Prop where
  names : ∀ name ∈ entries.map (·.1), name = "backend" ∨ name = "logging"
  backend : ∀ entry ∈ tableOf "backend" entries, BackendConfig.takes entry.1 entry.2 = true
  logging : ∀ entry ∈ tableOf "logging" entries, LoggingConfig.takes entry.1 entry.2 = true

/-- The settings given in the two sections, and the defaults of the others. -/
def given (entries : List (String × Toml)) : AdapterConfig where
  backend := BackendConfig.updated (tableOf "backend" entries) {}
  logging := LoggingConfig.updated (tableOf "logging" entries) {}

theorem all_takes_iff (hplain : Plain entries) (hnames : (entries.map (·.1)).Nodup) :
    (entries.all fun entry => takes entry.1 entry.2) = true ↔ Accepted entries := by
  rw [List.all_eq_true]
  constructor
  · intro htakes
    refine ⟨fun name hname => ?_, (forall_tableOf_iff hnames).mpr fun inner hmem =>
      isSome_record?_iff.mp (htakes _ hmem), (forall_tableOf_iff hnames).mpr
        fun inner hmem => isSome_record?_iff.mp (htakes _ hmem)⟩
    obtain ⟨entry, hentry, rfl⟩ := List.mem_map.mp hname
    have htaken := htakes entry hentry
    unfold takes at htaken
    split at htaken
    · next hbackend => exact .inl hbackend
    · next hlogging => exact .inr hlogging
    · cases htaken
  · intro haccepted entry hentry
    obtain ⟨name, value⟩ := entry
    obtain rfl | rfl := haccepted.names name (List.mem_map_of_mem hentry)
    · obtain ⟨inner, rfl⟩ := hplain.backend value ((lookup_eq_some_iff hnames).mpr hentry)
      have hinner := (forall_tableOf_iff hnames).mp haccepted.backend inner hentry
      exact isSome_record?_iff.mpr hinner
    · obtain ⟨inner, rfl⟩ := hplain.logging value ((lookup_eq_some_iff hnames).mpr hentry)
      have hinner := (forall_tableOf_iff hnames).mp haccepted.logging inner hentry
      exact isSome_record?_iff.mpr hinner

theorem updated_eq_given (hplain : Plain entries) (haccepted : Accepted entries) :
    updated entries {} = given entries := by
  rw [updated, given, BackendConfig.ofTable?, LoggingConfig.ofTable?,
    setting_record? rfl hplain.backend haccepted.backend,
    setting_record? rfl hplain.logging haccepted.logging]

theorem load_eq_ok_iff (hdocument : Toml.parse? text = some (.table entries))
    (hplain : Plain entries) (config : AdapterConfig) :
    load text = .ok config ↔ Accepted entries ∧ config = given entries := by
  have hload := toOption_load hdocument hplain
  have hnames := (wellFormed_of_parse? hdocument).1.names
  have hok : load text = .ok config ↔ (load text).toOption = some config := by
    cases load text <;> simp [Except.toOption]
  rw [hok, hload]
  by_cases haccepted : Accepted entries
  · rw [if_pos ((all_takes_iff hplain hnames).mpr haccepted), updated_eq_given hplain haccepted,
      Option.some_inj, and_iff_right haccepted, eq_comm]
  · rw [if_neg (mt (all_takes_iff hplain hnames).mp haccepted)]
    exact ⟨fun hnone => (nomatch hnone), fun hboth => absurd hboth.1 haccepted⟩

end Document

/-! ## Order -/

section Order

variable {entries others : List (String × Toml)}

theorem Plain.reordered (hplain : Plain entries) (hsame : Reordered entries others)
    (hentries : (Toml.table entries).WellFormed) : Plain others := by
  have htable : ∀ name,
      (∀ value, Json.lookup name entries = some value → ∃ inner, value = .table inner) →
        ∀ value, Json.lookup name others = some value → ∃ inner, value = .table inner := by
    intro name hfirst value hvalue
    have hrel := hsame.rel_lookup hentries.names name
    rw [hvalue] at hrel
    cases hlookup : Json.lookup name entries with
    | none =>
        rw [hlookup] at hrel
        cases hrel
    | some original =>
        obtain ⟨inner, rfl⟩ := hfirst original hlookup
        rw [hlookup] at hrel
        cases hrel with
        | some hvalues =>
            cases hvalues with
            | refl => exact ⟨inner, rfl⟩
            | table _ => exact ⟨_, rfl⟩
  refine ⟨htable _ hplain.backend, htable _ hplain.logging, ?_⟩
  rw [lookup_perm (hentries.tableOf _).names (hsame.perm_tableOf hentries.names _)]
  exact hplain.contexts

theorem given_reordered (hsame : Reordered entries others)
    (hentries : (Toml.table entries).WellFormed) : given others = given entries := by
  have hlookup : ∀ part name, Json.lookup name (tableOf part others) =
      Json.lookup name (tableOf part entries) := fun part =>
    lookup_perm (hentries.tableOf part).names (hsame.perm_tableOf hentries.names part)
  simp only [given, BackendConfig.updated, LoggingConfig.updated, setting, hlookup]

theorem accepted_reordered (hsame : Reordered entries others)
    (hnames : (entries.map (·.1)).Nodup) : Accepted others ↔ Accepted entries := by
  have hmem : ∀ part entry, entry ∈ tableOf part others ↔ entry ∈ tableOf part entries :=
    fun part _ => (hsame.perm_tableOf hnames part).symm.mem_iff
  have hname : ∀ name, name ∈ others.map (·.1) ↔ name ∈ entries.map (·.1) :=
    fun _ => hsame.perm_names.symm.mem_iff
  constructor
  · rintro ⟨hknown, hbackend, hlogging⟩
    exact ⟨fun name hin => hknown name ((hname name).mpr hin),
      fun entry hin => hbackend entry ((hmem _ entry).mpr hin),
      fun entry hin => hlogging entry ((hmem _ entry).mpr hin)⟩
  · rintro ⟨hknown, hbackend, hlogging⟩
    exact ⟨fun name hin => hknown name ((hname name).mp hin),
      fun entry hin => hbackend entry ((hmem _ entry).mp hin),
      fun entry hin => hlogging entry ((hmem _ entry).mp hin)⟩

/-- A document whose sections are tables, and whose layout of contexts is none, is taken just if it
has nothing but settings with values of their types.  It has then the values given and the defaults
of the others, and the waits are a millisecond at least.  Documents with the same entries in another
order are taken alike. -/
theorem load_of_plain {text : String} (hdocument : Toml.parse? text = some (.table entries))
    (hplain : Plain entries) :
    ((∃ config, load text = .ok config) ↔ Accepted entries) ∧
    (∀ config, load text = .ok config → config = given entries ∧
      1 ≤ config.backend.launchRetryInterval ∧ 1 ≤ config.backend.pollInterval ∧
      1 ≤ config.backend.requestTimeout) ∧
    ∀ otherText others, Toml.parse? otherText = some (.table others) → Reordered entries others →
      ∀ config, load otherText = .ok config ↔ load text = .ok config := by
  have hload := load_eq_ok_iff hdocument hplain
  refine ⟨⟨fun ⟨config, hok⟩ => ((hload config).mp hok).1,
    fun haccepted => ⟨_, (hload _).mpr ⟨haccepted, rfl⟩⟩⟩, fun config hok => ?_,
    fun otherText others hother hsame config => ?_⟩
  · exact ⟨((hload config).mp hok).2, config.backend.launchRetryInterval_pos,
      config.backend.pollInterval_pos, Nat.le_max_left _ _⟩
  · have hentries := (wellFormed_of_parse? hdocument).1
    rw [hload, load_eq_ok_iff hother (hplain.reordered hsame hentries),
      accepted_reordered hsame hentries.names, given_reordered hsame hentries]

/-- The two sections, the second with a wait of no time. -/
def sampleEntries : List (String × Toml) :=
  [("logging", .table [("json", .boolean true)]),
    ("backend", .table [("contexts", .string "single"), ("poll_interval_ms", .integer 0)])]

def sampleText : String :=
  "[logging]\njson = true\n[backend]\ncontexts = \"single\"\npoll_interval_ms = 0\n"

/-- The names and the values in a document of the shape of the sample. -/
def sampleParts? : Toml → Option (List String × Bool × String × Int)
  | .table [(first, .table [(json, .boolean shown)]),
      (second, .table [(contexts, .string layout), (interval, .integer wait)])] =>
    some ([first, json, second, contexts, interval], shown, layout, wait)
  | _ => none

/-- Tables have no decidable equality, but the parts of this one have. -/
theorem parse?_sampleText : Toml.parse? sampleText = some (.table sampleEntries) := by
  have hparts : (Toml.parse? sampleText).bind sampleParts? =
      some (["logging", "json", "backend", "contexts", "poll_interval_ms"], true, "single", 0) := by
    decide +kernel
  obtain ⟨document, hdocument, hparts⟩ := Option.bind_eq_some_iff.mp hparts
  rw [hdocument]
  unfold sampleParts? at hparts
  split at hparts
  · cases hparts
    rfl
  · cases hparts

theorem load_of_sampleText :
    Toml.parse? sampleText = some (.table sampleEntries) ∧ Plain sampleEntries ∧
    Accepted sampleEntries ∧ (given sampleEntries).backend.pollIntervalMs = 0 ∧
    (given sampleEntries).backend.contexts = .single ∧ (given sampleEntries).logging.json = true ∧
    load sampleText = .ok (given sampleEntries) ∧
    1 ≤ (given sampleEntries).backend.pollInterval := by
  have hplain : Plain sampleEntries := by
    refine ⟨fun value hvalue => ?_, fun value hvalue => ?_, fun inner hinner => ?_⟩
    · cases hvalue
      exact ⟨_, rfl⟩
    · cases hvalue
      exact ⟨_, rfl⟩
    · cases hinner
  have haccepted : Accepted sampleEntries := by
    refine ⟨by decide, ?_, ?_⟩
    · exact List.all_eq_true.mp (by rfl)
    · exact List.all_eq_true.mp (by rfl)
  obtain ⟨hok, hresult, _⟩ := load_of_plain parse?_sampleText hplain
  obtain ⟨config, hconfig⟩ := hok.mpr haccepted
  obtain ⟨rfl, _, hpoll, _⟩ := hresult config hconfig
  exact ⟨parse?_sampleText, hplain, haccepted, by rfl, by rfl, by rfl, hconfig, hpoll⟩

end Order

end AdapterConfig

end DebugBridge
