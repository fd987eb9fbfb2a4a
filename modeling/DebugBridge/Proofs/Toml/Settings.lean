import DebugBridge.Proofs.Toml.WellFormed
import DebugBridge.Toml.Decode
import Mathlib.Data.List.Forall2

/-!
# Tables of settings

A closed record is decoded from a table entry by entry.  Where each entry sets one thing and no
name stands twice, the table is taken just if each of its entries is, and each setting is the one
given under its name, whatever the order.
-/

namespace DebugBridge

namespace Toml

/-! ## What values say -/

/-- An integer from zero on. -/
def interval? : Toml → Option Nat
  | .integer value => if 0 ≤ value then some value.toNat else none
  | _ => none

def boolean? : Toml → Option Bool
  | .boolean value => some value
  | _ => none

def string? : Toml → Option String
  | .string value => some value
  | _ => none

theorem toOption_run_nat64 {value : Toml} (hvalue : value.WellFormed) :
    (TomlDecoder.run Format.nat64 value).toOption = interval? value := by
  cases hvalue with
  | @integer value hfits =>
      rw [fitsInteger, Bool.and_eq_true, decide_eq_true_eq, decide_eq_true_eq] at hfits
      change ((Json.Number.inRange "u64" 0 0xffffffffffffffff Binary64.positional
        (.int value)).map Int.toNat).toOption = _
      by_cases hvalue : 0 ≤ value
      · have hrange : 0 ≤ value ∧ value ≤ 0xffffffffffffffff := ⟨hvalue, by omega⟩
        rw [Json.Number.inRange, if_pos hrange, interval?, if_pos hvalue]
        rfl
      · rw [Json.Number.inRange, if_neg fun hrange => hvalue hrange.1, interval?, if_neg hvalue]
        rfl
  | _ => rfl

theorem toOption_run_boolean (value : Toml) :
    (TomlDecoder.run Format.boolean value).toOption = boolean? value := by
  cases value <;> rfl

theorem toOption_run_text (expected : String) (value : Toml) :
    (TomlDecoder.run (Format.text expected) value).toOption = string? value := by
  cases value <;> rfl

/-! ## What tables say -/

section Lookup

variable {α : Type} {name : String} {entries others : List (String × α)}

theorem lookup_eq_some_iff (hnames : (entries.map (·.1)).Nodup) {value : α} :
    Json.lookup name entries = some value ↔ (name, value) ∈ entries := by
  refine ⟨Entries.mem_of_lookup, fun hmem => ?_⟩
  cases hlookup : Json.lookup name entries with
  | none => exact absurd (List.mem_map_of_mem hmem) (Entries.lookup_eq_none_iff.mp hlookup)
  | some other =>
      have hother := Entries.mem_of_lookup hlookup
      rw [(Prod.mk.inj (List.inj_on_of_nodup_map hnames hmem hother rfl)).2]

theorem lookup_perm (hnames : (entries.map (·.1)).Nodup) (hperm : entries.Perm others)
    (name : String) : Json.lookup name others = Json.lookup name entries := by
  have hothers : (others.map (·.1)).Nodup := (hperm.map _).nodup_iff.mp hnames
  ext value
  rw [lookup_eq_some_iff hnames, lookup_eq_some_iff hothers, hperm.mem_iff]

end Lookup

/-- What the entries say under a name, and else the default. -/
def setting {α : Type} (read? : Toml → Option α) (name : String) (entries : List (String × Toml))
    (default : α) : α :=
  ((Json.lookup name entries).bind read?).getD default

section Setting

variable {α : Type} {read? : Toml → Option α} {name other : String} {value : Toml}
variable {entries : List (String × Toml)} {default given : α}

theorem setting_cons_of_ne (hname : name ≠ other) :
    setting read? name ((other, value) :: entries) default =
      setting read? name entries default := by
  rw [setting, Json.lookup_cons, if_neg hname, setting]

theorem setting_cons_self (hread : read? value = some given)
    (hnew : name ∉ entries.map (·.1)) :
    setting read? name ((name, value) :: entries) default = setting read? name entries given := by
  rw [setting, setting, Json.lookup_cons, if_pos rfl, Entries.lookup_eq_none_iff.mpr hnew,
    Option.bind_some, hread]
  rfl

end Setting

/-- What a table says, if each of its entries is taken. -/
def record? {Record : Type} (takes : String → Toml → Bool)
    (updated : List (String × Toml) → Record → Record) (defaults : Record) : Toml → Option Record
  | .table entries =>
    if entries.all fun entry => takes entry.1 entry.2 then some (updated entries defaults) else none
  | _ => none

/-- The entries of the table of this name; none when there is no such table. -/
def tableOf (name : String) (entries : List (String × Toml)) : List (String × Toml) :=
  match Json.lookup name entries with
  | some (.table inner) => inner
  | _ => []

section Records

variable {Record : Type} {takes : String → Toml → Bool}
variable {updated : List (String × Toml) → Record → Record} {defaults : Record}
variable {name : String} {entries inner : List (String × Toml)}

theorem isSome_record?_iff : (record? takes updated defaults (.table entries)).isSome = true ↔
    ∀ entry ∈ entries, takes entry.1 entry.2 = true := by
  rw [← List.all_eq_true, record?]
  split <;> simp_all

theorem tableOf_of_mem (hnames : (entries.map (·.1)).Nodup)
    (hmem : (name, Toml.table inner) ∈ entries) : tableOf name entries = inner := by
  rw [tableOf, (lookup_eq_some_iff hnames).mpr hmem]

theorem forall_tableOf_iff (hnames : (entries.map (·.1)).Nodup) {holds : String × Toml → Prop} :
    (∀ entry ∈ tableOf name entries, holds entry) ↔
      ∀ inner, (name, Toml.table inner) ∈ entries → ∀ entry ∈ inner, holds entry := by
  constructor
  · intro htable inner hmem
    rwa [tableOf_of_mem hnames hmem] at htable
  · intro hall
    rw [tableOf]
    split
    · next inner hlookup => exact hall inner (Entries.mem_of_lookup hlookup)
    · exact List.forall_mem_nil _

theorem WellFormed.tableOf (hentries : (Toml.table entries).WellFormed) (name : String) :
    (Toml.table (tableOf name entries)).WellFormed := by
  rw [Toml.tableOf]
  split
  · next hlookup => exact hentries.values _ (Entries.mem_of_lookup hlookup)
  · exact .table List.nodup_nil (List.forall_mem_nil _)

/-- A table within a table, all of whose entries are taken. -/
theorem setting_record? (hdefaults : updated [] defaults = defaults)
    (htable : ∀ value, Json.lookup name entries = some value → ∃ inner, value = .table inner)
    (htaken : ∀ entry ∈ tableOf name entries, takes entry.1 entry.2 = true) :
    setting (record? takes updated defaults) name entries defaults =
      updated (tableOf name entries) defaults := by
  rw [setting]
  rw [tableOf] at htaken ⊢
  cases hlookup : Json.lookup name entries with
  | none => exact hdefaults.symm
  | some value =>
      obtain ⟨inner, rfl⟩ := htable value hlookup
      rw [hlookup] at htaken
      rw [Option.bind_some, record?, if_pos (List.all_eq_true.mpr htaken)]
      rfl

end Records

/-! ## Order -/

/-- Two values that are equal, or tables with the same entries in another order. -/
inductive SameEntries : Toml → Toml → Prop
  | refl (value : Toml) : SameEntries value value
  | table {entries others : List (String × Toml)} (hperm : entries.Perm others) :
      SameEntries (.table entries) (.table others)

/-- The same entries in another order, those of the tables among them, too. -/
def Reordered (entries others : List (String × Toml)) : Prop :=
  ∃ between : List (String × Toml), entries.Perm between ∧
    List.Forall₂ (fun entry other => entry.1 = other.1 ∧ SameEntries entry.2 other.2) between others

theorem rel_lookup_of_forall₂ {entries others : List (String × Toml)}
    (hsame : List.Forall₂ (fun entry other => entry.1 = other.1 ∧ SameEntries entry.2 other.2)
      entries others) (name : String) :
    Option.Rel SameEntries (Json.lookup name entries) (Json.lookup name others) := by
  induction hsame with
  | nil => exact .none
  | @cons entry other entries others hentry _ ih =>
      obtain ⟨first, value⟩ := entry
      obtain ⟨second, another⟩ := other
      obtain ⟨rfl, hvalue⟩ := hentry
      rw [Json.lookup_cons, Json.lookup_cons]
      split
      · exact .some hvalue
      · exact ih

section Order

variable {entries others : List (String × Toml)}

theorem Reordered.rel_lookup (hsame : Reordered entries others)
    (hnames : (entries.map (·.1)).Nodup) (name : String) :
    Option.Rel SameEntries (Json.lookup name entries) (Json.lookup name others) := by
  obtain ⟨between, hperm, hothers⟩ := hsame
  rw [← lookup_perm hnames hperm]
  exact rel_lookup_of_forall₂ hothers name

theorem Reordered.perm_names (hsame : Reordered entries others) :
    (entries.map (·.1)).Perm (others.map (·.1)) := by
  obtain ⟨between, hperm, hothers⟩ := hsame
  have hnames : between.map (·.1) = others.map (·.1) := by
    rw [← List.forall₂_eq_eq_eq, List.forall₂_map_left_iff, List.forall₂_map_right_iff]
    exact hothers.imp fun _ _ hentry => hentry.1
  exact hnames ▸ hperm.map _

theorem Reordered.perm_tableOf (hsame : Reordered entries others)
    (hnames : (entries.map (·.1)).Nodup) (name : String) :
    (tableOf name entries).Perm (tableOf name others) := by
  have hrel := hsame.rel_lookup hnames name
  rw [tableOf, tableOf]
  generalize Json.lookup name entries = value at hrel ⊢
  generalize Json.lookup name others = other at hrel ⊢
  cases hrel with
  | none => exact .nil
  | some hvalue =>
      cases hvalue with
      | refl value => exact .refl _
      | table hperm => exact hperm

end Order

end Toml

namespace TomlDecoder

variable {Record : Type} {fields : List (Field TomlDecoder Record)}

/-- The record changed by one entry; nothing when the entry is refused. -/
def applied? (fields : List (Field TomlDecoder Record)) (name : String) (value : Toml)
    (record : Record) : Option Record :=
  (findField fields name).bind fun field =>
    (field.update.run value).toOption.map fun change => change record

theorem findField_eq_none_iff {name : String} :
    findField fields name = none ↔ name ∉ fields.map (·.name) := by
  simp [findField]

theorem applied?_of_unknown {name : String} (hunknown : name ∉ fields.map (·.name)) (value : Toml)
    (record : Record) : applied? fields name value record = none := by
  rw [applied?, findField_eq_none_iff.mpr hunknown, Option.bind_none]

variable (fields) in
theorem applied?_of_field {α : Type} (name : String) {decoder : TomlDecoder α}
    (set : α → Record → Record)
    (hfield : findField fields name = some (Format.field name decoder set)) {value : Toml}
    {read : Option α} (hread : (decoder.run value).toOption = read) (record : Record) :
    applied? fields name value record = read.map fun given => set given record := by
  subst hread
  rw [applied?, hfield, Option.bind_some]
  change ((decoder.run value).map set).toOption.map _ = _
  cases decoder.run value <;> rfl

theorem toOption_decodeEntries_cons (name : String) (value : Toml)
    (entries : List (String × Toml)) (record : Record) :
    (decodeEntries true fields ((name, value) :: entries) record).toOption =
      (applied? fields name value record).bind fun changed =>
        (decodeEntries true fields entries changed).toOption := by
  rw [decodeEntries, applied?]
  cases findField fields name with
  | none => rfl
  | some field =>
      simp only [Option.bind_some]
      cases field.update.run value <;> rfl

/-- With entries that each are taken or not, and that say one thing each, the table is taken just if
all of them are. -/
theorem toOption_decodeEntries (takes : String → Toml → Bool)
    (updated : List (String × Toml) → Record → Record) {entries : List (String × Toml)}
    (hsame : ∀ record, updated [] record = record)
    (htakes : ∀ entry ∈ entries, ∀ record,
      (applied? fields entry.1 entry.2 record).isSome = takes entry.1 entry.2)
    (happly : ∀ entry ∈ entries, ∀ more record changed, entry.1 ∉ more.map (·.1) →
      applied? fields entry.1 entry.2 record = some changed →
        updated (entry :: more) record = updated more changed)
    (hnames : (entries.map (·.1)).Nodup) (record : Record) :
    (decodeEntries true fields entries record).toOption =
      if entries.all fun entry => takes entry.1 entry.2 then some (updated entries record)
      else none := by
  induction entries generalizing record with
  | nil =>
      rw [hsame]
      rfl
  | cons entry entries ih =>
      obtain ⟨name, value⟩ := entry
      obtain ⟨hnew, hrest⟩ := List.nodup_cons.mp hnames
      obtain ⟨htaken, hmore⟩ := List.forall_mem_cons.mp htakes
      obtain ⟨hchange, hchanges⟩ := List.forall_mem_cons.mp happly
      rw [toOption_decodeEntries_cons, List.all_cons, ← htaken record]
      cases hresult : applied? fields name value record with
      | none => simp
      | some changed =>
          rw [Option.bind_some, ih hmore hchanges hrest changed,
            hchange entries record changed hnew hresult, Option.isSome_some, Bool.true_and]

theorem toOption_decodeTable (hoptional : ∀ field ∈ fields, field.required = false)
    (entries : List (String × Toml)) (record : Record) :
    (decodeTable true fields entries record).toOption =
      (decodeEntries true fields entries record).toOption := by
  have hcomplete : missingRequired fields (entries.map (·.1)) = none := by
    rw [missingRequired, Option.map_eq_none_iff, List.find?_eq_none]
    intro field hfield
    simp [hoptional field hfield]
  rw [decodeTable, hcomplete]
  cases decodeEntries true fields entries record <;> rfl

end TomlDecoder

end DebugBridge
