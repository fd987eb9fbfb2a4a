import DebugBridge.Config.Load
import DebugBridge.Proofs.Toml.Traced

/-!
# Rejected configurations

Two documents that differ in what their strings say and in the spelling of unknown names, and that
are rejected at the same entry for the same reason, are rejected in the same words: no string shows,
and no unknown name without a backquote.  The name of an unknown layout of contexts does show.
-/

namespace DebugBridge

namespace BackendConfig

open Mismatch

/-- A text is refused for a fault of the URL. -/
theorem run_urlDecoder_string {text : String} {mismatch : Mismatch}
    (hrun : TomlDecoder.run urlDecoder (.string text) = .error mismatch) :
    ∃ fault, mismatch = .refused (unusableUrl fault text) := by
  simp only [urlDecoder, Format.refine, Format.text, readUrl, bind, Except.bind] at hrun
  cases hurl : Url.parse text with
  | ok url =>
      simp only [hurl] at hrun
      cases hrun
  | error fault =>
      simp only [hurl] at hrun
      exact ⟨fault, (Except.error.inj hrun).symm⟩

theorem uniform_urlDecoder : TracedDecoder.Uniform urlDecoder := by
  intro value other first second halike hfirst hsecond _ hreason
  cases halike with
  | string text textOther =>
      obtain ⟨fault, rfl⟩ := run_urlDecoder_string hfirst
      obtain ⟨faultOther, rfl⟩ := run_urlDecoder_string hsecond
      cases hreason with
      | refused hfault =>
          obtain ⟨url, hurl⟩ := (hfault fault).mp ⟨text, rfl⟩
          rw [hurl]
          exact redacted_unusableUrl fault text url
  | _ =>
      cases hfirst
      cases hsecond
      exact Redacted.refl _

theorem uniform_nat64 : TracedDecoder.Uniform Format.nat64 :=
  TracedDecoder.uniform_map _ (TracedDecoder.uniform_integer _ _ _)

theorem uniform_decoder : TracedDecoder.Uniform (decoder : TracedDecoder BackendConfig) := by
  refine TracedDecoder.uniform_record ?_ (by decide) (by decide +kernel) _
  simp only [fields, Format.field, List.forall_mem_cons]
  refine ⟨?_, ?_, ?_, ?_, ?_, ?_, ?_, by simp⟩
  · exact TracedDecoder.uniform_map _ uniform_urlDecoder
  · exact TracedDecoder.uniform_map _ (TracedDecoder.uniform_map _ (TracedDecoder.uniform_choice _))
  · exact TracedDecoder.uniform_map _ uniform_nat64
  · exact TracedDecoder.uniform_map _ uniform_nat64
  · exact TracedDecoder.uniform_map _ uniform_nat64
  · exact TracedDecoder.uniform_map _ uniform_nat64
  · exact TracedDecoder.uniform_map _ (TracedDecoder.uniform_text _)

end BackendConfig

namespace LoggingConfig

open TracedDecoder

theorem uniform_decoder : Uniform (decoder : TracedDecoder LoggingConfig) := by
  refine uniform_record ?_ (by decide) (by decide) _
  simp only [fields, Format.field, List.forall_mem_cons]
  refine ⟨?_, ?_, ?_, ?_, by simp⟩
  · exact uniform_map _ (uniform_text _)
  · exact uniform_map _ uniform_boolean
  · exact uniform_map _ uniform_boolean
  · exact uniform_map _ (uniform_optional (uniform_text _))

end LoggingConfig

namespace AdapterConfig

/-- The decoder of configurations, with its names and places. -/
def traced : TracedDecoder AdapterConfig := decoder

theorem uniform_traced : traced.Uniform := by
  refine TracedDecoder.uniform_record ?_ (by decide) (by decide) _
  simp only [Format.field, List.forall_mem_cons]
  refine ⟨?_, ?_, by simp⟩
  · exact TracedDecoder.uniform_map _ BackendConfig.uniform_decoder
  · exact TracedDecoder.uniform_map _ LoggingConfig.uniform_decoder

theorem load_of_mismatch {text : String} {document : Toml} {mismatch : Mismatch}
    (hdocument : Toml.parse? text = some document)
    (hmismatch : TomlDecoder.run decoder document = .error mismatch) :
    load text = .error (rejection mismatch) := by
  simp only [load, hdocument, ofToml, hmismatch]

/-- The names of the layouts of contexts. -/
def layoutNames : List String := [ContextLayout.single.name, ContextLayout.serverAndClient.name]

/-- The name of an unknown layout shows, but for what is quoted in it. -/
theorem layout_shows {name : String}
    (hname : '\x60' ∉ Redaction.redactQuotations 0 name.toList) :
    Redaction.redactQuotations 0 name.toList <:+:
      (rejection (.unknownVariant name layoutNames)).message.toList := by
  have hallowed : '"' ∉ (Mismatch.expectedNames layoutNames).toList := by decide
  obtain ⟨rest, hrest⟩ := Mismatch.prefix_configuration_unknownVariant hallowed hname
  have hinside : ∀ words front : List Char, Redaction.redactQuotations 0 name.toList <:+:
      words ++ (front ++ '\x60' :: Redaction.redactQuotations 0 name.toList ++ ['\x60'] ++ rest) :=
    fun words front => ⟨words ++ front ++ ['\x60'], '\x60' :: rest, by simp⟩
  have htext : (rejection (.unknownVariant name layoutNames)).message.toList =
      "failed to parse toml config: ".toList ++
        (Redaction.configuration (Mismatch.unknownVariant name layoutNames).message).toList :=
    String.toList_append
  rw [htext, ← hrest]
  exact hinside _ _

/-- Two documents that are equal but for what their strings say and for the spelling of unknown
names, and that are rejected at the same entry for the same reason, are rejected in the same words
if no name can show in them: unless a layout of contexts is unknown, or a backquote in an unknown
name stands outside quotations.  The name of an unknown layout does show. -/
theorem rejections_of_alike_documents {text textOther : String} {document other : Toml}
    {first second : Mismatch} (hdocument : Toml.parse? text = some document)
    (hother : Toml.parse? textOther = some other)
    (halike : Toml.Alike traced.outline document other)
    (hfirst : TomlDecoder.run decoder document = .error first)
    (hsecond : TomlDecoder.run decoder other = .error second)
    (hplace : traced.place document = traced.place other) (hreason : first.SameReason second) :
    load text = .error (rejection first) ∧ load textOther = .error (rejection second) ∧
      Mismatch.HiddenIn Mismatch.NameHidden (fun mismatch => (rejection mismatch).message)
        first second ∧
      ∀ name, first = .unknownVariant name layoutNames →
        '\x60' ∉ Redaction.redactQuotations 0 name.toList →
          Redaction.redactQuotations 0 name.toList <:+: (rejection first).message.toList := by
  refine ⟨load_of_mismatch hdocument hfirst, load_of_mismatch hother hsecond, ?_, ?_⟩
  · have hredacted :=
      uniform_traced document other first second halike hfirst hsecond hplace hreason
    exact hredacted.after "failed to parse toml config: "
  · rintro name rfl hname
    exact layout_shows hname

/-- A document that sets one thing. -/
def setting (table name : String) (value : Toml) : Toml := .table [(table, .table [(name, value)])]

/-- A key of three characters: a letter, a quote and a backslash. -/
def oddKey : String := "a\"\\"

def hiddenToken : String := "[backend]\nhidden_token = 1\n"

def oddToken : String := "[backend]\n\"a\\\"\\\\\" = 1\n"

/-- The mismatch for a name in the backend's table. -/
def unknownSetting (name : String) : Mismatch :=
  .unknownField name ((BackendConfig.fields : List (Field TomlDecoder BackendConfig)).map (·.name))

/-- What a document sets, if it sets one number and nothing else. -/
def setNumber? : Toml → Option (String × String × Int)
  | .table [(table, .table [(name, .integer value)])] => some (table, name, value)
  | _ => none

theorem eq_setting_of_setNumber? {document : Toml} {table name : String} {value : Int}
    (hset : setNumber? document = some (table, name, value)) :
    document = setting table name (.integer value) := by
  unfold setNumber? at hset
  split at hset
  · cases hset
    rfl
  · cases hset

/-- Tables have no decidable equality, but what is set in one has. -/
theorem parse?_of_setNumber? {text table name : String} {value : Int}
    (hset : (Toml.parse? text).bind setNumber? = some (table, name, value)) :
    Toml.parse? text = some (setting table name (.integer value)) := by
  obtain ⟨document, hdocument, hset⟩ := Option.bind_eq_some_iff.mp hset
  rw [hdocument, eq_setting_of_setNumber? hset]

theorem rejections_of_hidden_and_odd_token :
    Toml.parse? hiddenToken = some (setting "backend" "hidden_token" (.integer 1)) ∧
    Toml.parse? oddToken = some (setting "backend" oddKey (.integer 1)) ∧
    load hiddenToken = .error (rejection (unknownSetting "hidden_token")) ∧
    load oddToken = .error (rejection (unknownSetting oddKey)) ∧
    (rejection (unknownSetting "hidden_token")).message =
      (rejection (unknownSetting oddKey)).message := by
  have hhidden : Toml.parse? hiddenToken = some (setting "backend" "hidden_token" (.integer 1)) :=
    parse?_of_setNumber? (by decide +kernel)
  have hodd : Toml.parse? oddToken = some (setting "backend" oddKey (.integer 1)) :=
    parse?_of_setNumber? (by decide +kernel)
  have halike : Toml.Alike traced.outline (setting "backend" "hidden_token" (.integer 1))
      (setting "backend" oddKey (.integer 1)) :=
    .table (.known rfl (.table (.unknown rfl rfl (.integer 1) .nil)) .nil)
  have hrun : TomlDecoder.run decoder (setting "backend" "hidden_token" (.integer 1)) =
      .error (unknownSetting "hidden_token") := rfl
  have hrunOdd : TomlDecoder.run decoder (setting "backend" oddKey (.integer 1)) =
      .error (unknownSetting oddKey) := rfl
  obtain ⟨hload, hloadOdd, hsame, -⟩ := rejections_of_alike_documents hhidden hodd halike hrun
    hrunOdd rfl (.unknownField _ _ _ _)
  refine ⟨hhidden, hodd, hload, hloadOdd, hsame.same ?_ ?_⟩
  · decide
  · decide

end AdapterConfig

end DebugBridge
