import DebugBridge.Proofs.Json.Members
import DebugBridge.Toml.Read
import Mathlib.Data.List.Nodup

/-!
# Well-formed documents

A document that was read defines no name twice in any of its tables, whether headers, dotted keys
or braces made them, and its integers are those of 64 bits.
-/

namespace DebugBridge.Toml

/-- Tables name nothing twice, and integers fit. -/
inductive WellFormed : Toml → Prop
  | string (value : String) : WellFormed (.string value)
  | integer {value : Int} (hfits : fitsInteger value = true) : WellFormed (.integer value)
  | float (value : Binary64) : WellFormed (.float value)
  | boolean (value : Bool) : WellFormed (.boolean value)
  | datetime : WellFormed .datetime
  | array {items : List Toml} (hitems : ∀ item ∈ items, WellFormed item) : WellFormed (.array items)
  | table {entries : List (String × Toml)} (hnames : (entries.map (·.1)).Nodup)
      (hentries : ∀ entry ∈ entries, WellFormed entry.2) : WellFormed (.table entries)

theorem WellFormed.names {entries : List (String × Toml)}
    (htable : WellFormed (.table entries)) : (entries.map (·.1)).Nodup := by
  cases htable with
  | table hnames _ => exact hnames

theorem WellFormed.values {entries : List (String × Toml)}
    (htable : WellFormed (.table entries)) : ∀ entry ∈ entries, WellFormed entry.2 := by
  cases htable with
  | table _ hentries => exact hentries

/-- The same of what names stand for while the document is read. -/
inductive Item.WellFormed : Item → Prop
  | value {value : Toml} (hvalue : value.WellFormed) : WellFormed (.value value)
  | table {implicit dotted : Bool} {entries : List (String × Item)}
      (hnames : (entries.map (·.1)).Nodup) (hentries : ∀ entry ∈ entries, WellFormed entry.2) :
      WellFormed (.table implicit dotted entries)
  | tables {items : List (List (String × Item))}
      (hnames : ∀ entries ∈ items, (entries.map (·.1)).Nodup)
      (hentries : ∀ entries ∈ items, ∀ entry ∈ entries, WellFormed entry.2) :
      WellFormed (.tables items)

structure Entries.WellFormed (entries : Entries) : Prop where
  names : (entries.map (·.1)).Nodup
  items : ∀ entry ∈ entries, entry.2.WellFormed

/-! ## Values of items -/

theorem entryValues_eq_map (entries : Entries) :
    entryValues entries = entries.map fun entry => (entry.1, entry.2.toValue) := by
  induction entries with
  | nil => rfl
  | cons entry entries ih => rw [entryValues, ih, List.map_cons]

theorem tableValues_eq_map (items : List Entries) :
    tableValues items = items.map fun entries => .table (entryValues entries) := by
  induction items with
  | nil => rfl
  | cons entries items ih => rw [tableValues, ih, List.map_cons]

theorem wellFormed_table_entryValues {entries : Entries} (hnames : (entries.map (·.1)).Nodup)
    (hentries : ∀ entry ∈ entries, entry.2.toValue.WellFormed) :
    (Toml.table (entryValues entries)).WellFormed := by
  rw [entryValues_eq_map]
  refine .table ?_ ?_
  · rw [List.map_map]
    exact hnames
  · intro entry hentry
    obtain ⟨source, hsource, rfl⟩ := List.mem_map.mp hentry
    exact hentries source hsource

theorem Item.WellFormed.toValue {item : Item} (hitem : item.WellFormed) :
    item.toValue.WellFormed := by
  induction hitem with
  | value hvalue => exact hvalue
  | table hnames _ ih =>
      rw [Item.toValue]
      exact wellFormed_table_entryValues hnames ih
  | tables hnames _ ih =>
      rw [Item.toValue, tableValues_eq_map]
      refine .array fun value hvalue => ?_
      obtain ⟨entries, hentries, rfl⟩ := List.mem_map.mp hvalue
      exact wellFormed_table_entryValues (hnames entries hentries) (ih entries hentries)

theorem Entries.WellFormed.toValue {entries : Entries} (hentries : entries.WellFormed) :
    (Toml.table (entryValues entries)).WellFormed :=
  wellFormed_table_entryValues hentries.names fun entry hentry =>
    (hentries.items entry hentry).toValue

/-! ## Building tables -/

namespace Entries

variable {entries result : Entries} {name : String} {item : Item}

theorem lookup_eq_none_iff {α : Type} {entries : List (String × α)} :
    Json.lookup name entries = none ↔ name ∉ entries.map (·.1) := by
  simp only [Json.lookup, Option.map_eq_none_iff, List.find?_eq_none, List.mem_map, beq_iff_eq]
  constructor
  · rintro habsent ⟨entry, hentry, hname⟩
    exact habsent entry hentry hname
  · exact fun habsent entry hentry hname => habsent ⟨entry, hentry, hname⟩

theorem mem_of_lookup {α : Type} {entries : List (String × α)} {value : α}
    (hlookup : Json.lookup name entries = some value) : (name, value) ∈ entries := by
  obtain ⟨entry, hfound, rfl⟩ := Option.map_eq_some_iff.mp hlookup
  have hname : entry.1 = name := by simpa using List.find?_some hfound
  rw [← hname]
  exact List.mem_of_find?_eq_some hfound

theorem names_put (name : String) (item : Item) (entries : Entries) :
    (entries.put name item).map (·.1) =
      if name ∈ entries.map (·.1) then entries.map (·.1) else entries.map (·.1) ++ [name] := by
  induction entries with
  | nil => rfl
  | cons entry entries ih =>
      obtain ⟨other, old⟩ := entry
      rw [put]
      by_cases hname : name = other
      · simp [hname]
      · rw [if_neg hname, List.map_cons, ih]
        simp only [List.map_cons, List.mem_cons, hname, false_or]
        split <;> rfl

theorem mem_put {entry : String × Item} (hentry : entry ∈ entries.put name item) :
    entry = (name, item) ∨ entry ∈ entries := by
  induction entries with
  | nil => exact .inl (List.mem_singleton.mp hentry)
  | cons first entries ih =>
      obtain ⟨other, old⟩ := first
      rw [put] at hentry
      split at hentry
      · obtain rfl | hmore := List.mem_cons.mp hentry
        · exact .inl rfl
        · exact .inr (List.mem_cons_of_mem _ hmore)
      · obtain rfl | hmore := List.mem_cons.mp hentry
        · exact .inr List.mem_cons_self
        · exact (ih hmore).imp_right (List.mem_cons_of_mem _)

namespace WellFormed

theorem nil : WellFormed [] := ⟨List.nodup_nil, fun _ hentry => nomatch hentry⟩

theorem lookup (hentries : entries.WellFormed) (hlookup : Json.lookup name entries = some item) :
    item.WellFormed :=
  hentries.items _ (mem_of_lookup hlookup)

theorem append_new (hentries : entries.WellFormed) (hnew : Json.lookup name entries = none)
    (hitem : item.WellFormed) : WellFormed (entries ++ [(name, item)]) := by
  constructor
  · rw [List.map_append, List.map_singleton, ← List.concat_eq_append]
    exact List.Nodup.concat (lookup_eq_none_iff.mp hnew) hentries.names
  · intro entry hentry
    obtain hold | hsame := List.mem_append.mp hentry
    · exact hentries.items entry hold
    · rw [List.mem_singleton.mp hsame]
      exact hitem

theorem put (hentries : entries.WellFormed) (hitem : item.WellFormed) :
    (entries.put name item).WellFormed := by
  constructor
  · rw [names_put]
    split
    · exact hentries.names
    · next hnew => exact List.concat_eq_append ▸ List.Nodup.concat hnew hentries.names
  · intro entry hentry
    obtain rfl | hold := mem_put hentry
    · exact hitem
    · exact hentries.items entry hold

theorem erase (hentries : entries.WellFormed) (name : String) :
    (entries.erase name).WellFormed :=
  ⟨hentries.names.sublist (List.filter_sublist.map _),
    fun entry hentry => hentries.items entry (List.mem_of_mem_filter hentry)⟩

theorem table (hentries : entries.WellFormed) (implicit dotted : Bool) :
    (Item.table implicit dotted entries).WellFormed :=
  .table hentries.names hentries.items

theorem of_table {implicit dotted : Bool}
    (hitem : (Item.table implicit dotted entries).WellFormed) : entries.WellFormed := by
  cases hitem with
  | table hnames hentries => exact ⟨hnames, hentries⟩

theorem of_tables {items : List Entries} (hitem : (Item.tables items).WellFormed) :
    ∀ entries ∈ items, entries.WellFormed := by
  cases hitem with
  | tables hnames hentries => exact fun entries hmem => ⟨hnames entries hmem, hentries entries hmem⟩

theorem tables {items : List Entries} (hitems : ∀ entries ∈ items, entries.WellFormed) :
    (Item.tables items).WellFormed :=
  .tables (fun entries hmem => (hitems entries hmem).names)
    fun entries hmem => (hitems entries hmem).items

/-- Repeated tables with another last one. -/
theorem replaceLast {items : List Entries} {last : Entries}
    (hitem : (Item.tables items).WellFormed) (hlast : last.WellFormed) :
    (Item.tables (items.dropLast ++ [last])).WellFormed := by
  refine tables fun entries hmem => ?_
  obtain hold | hnew := List.mem_append.mp hmem
  · exact of_tables hitem entries (List.dropLast_subset items hold)
  · rw [List.mem_singleton.mp hnew]
    exact hlast

theorem addKey {viaDots dotted : Bool} {value : Toml} {path : List String}
    (hentries : entries.WellFormed) (hvalue : value.WellFormed)
    (hadd : Entries.addKey viaDots value name path dotted entries = some result) :
    result.WellFormed := by
  induction path generalizing dotted entries result with
  | nil =>
      rw [Entries.addKey] at hadd
      split at hadd
      · cases hadd
      · split at hadd
        · cases hadd
        · next hnew =>
            cases hadd
            exact hentries.append_new hnew (.value hvalue)
  | cons step path ih =>
      rw [Entries.addKey] at hadd
      split at hadd
      · next hnew =>
          obtain ⟨inner, hinner, rfl⟩ := Option.map_eq_some_iff.mp hadd
          exact hentries.append_new hnew ((ih nil hinner).table _ _)
      · next implicit _ inner hlookup =>
          split at hadd
          · obtain ⟨changed, hchanged, rfl⟩ := Option.map_eq_some_iff.mp hadd
            exact hentries.put ((ih (of_table (hentries.lookup hlookup)) hchanged).table _ _)
          · cases hadd
      · next items hlookup =>
          split at hadd
          · next last hlast =>
              obtain ⟨changed, hchanged, rfl⟩ := Option.map_eq_some_iff.mp hadd
              have hitems := hentries.lookup hlookup
              have hinner := of_tables hitems last (List.mem_of_getLast? hlast)
              exact hentries.put (replaceLast hitems (ih hinner hchanged))
          · cases hadd
      · cases hadd

theorem add {key : List String} {value : Toml} (hentries : entries.WellFormed)
    (hvalue : value.WellFormed) (hadd : entries.add key value = some result) :
    result.WellFormed := by
  rw [Entries.add] at hadd
  split at hadd
  · exact hentries.addKey hvalue hadd
  · cases hadd

/-- A change below a path keeps what it keeps of the table at its end. -/
theorem under {α : Type} {change : Entries → Option (α × Entries)} (holds : α → Prop)
    (hchange : ∀ {entries : Entries} {found : α} {changed : Entries}, entries.WellFormed →
      change entries = some (found, changed) → holds found ∧ changed.WellFormed)
    {path : List String} {found : α} (hentries : entries.WellFormed)
    (hunder : Entries.under change path entries = some (found, result)) :
    holds found ∧ result.WellFormed := by
  induction path generalizing entries result with
  | nil => exact hchange hentries hunder
  | cons step path ih =>
      rw [Entries.under] at hunder
      split at hunder
      · next hnew =>
          obtain ⟨⟨_, inner⟩, hinner, hresult⟩ := Option.map_eq_some_iff.mp hunder
          cases hresult
          obtain ⟨hfound, hchanged⟩ := ih nil hinner
          exact ⟨hfound, hentries.append_new hnew (hchanged.table _ _)⟩
      · next hlookup =>
          obtain ⟨⟨_, inner⟩, hinner, hresult⟩ := Option.map_eq_some_iff.mp hunder
          cases hresult
          obtain ⟨hfound, hchanged⟩ := ih (of_table (hentries.lookup hlookup)) hinner
          exact ⟨hfound, hentries.put (hchanged.table _ _)⟩
      · next items hlookup =>
          split at hunder
          · next last hlast =>
              obtain ⟨⟨_, inner⟩, hinner, hresult⟩ := Option.map_eq_some_iff.mp hunder
              cases hresult
              have hitems := hentries.lookup hlookup
              obtain ⟨hfound, hchanged⟩ :=
                ih (of_tables hitems last (List.mem_of_getLast? hlast)) hinner
              exact ⟨hfound, hentries.put (replaceLast hitems hchanged)⟩
          · cases hunder
      · cases hunder

end WellFormed

end Entries

/-! ## Drafts -/

structure Draft.WellFormed (draft : Draft) : Prop where
  root : draft.root.WellFormed
  current : draft.current.WellFormed

namespace Draft.WellFormed

open Entries.WellFormed

variable {draft changed : Draft} {path : List String}

theorem closeTable {root : Entries} (hdraft : draft.WellFormed)
    (hclose : draft.closeTable = some root) : root.WellFormed := by
  rw [Draft.closeTable] at hclose
  split at hclose
  · cases hclose
    exact hdraft.current
  · next parent name _ =>
      obtain ⟨⟨⟨⟩, inner⟩, hinner, rfl⟩ := Option.map_eq_some_iff.mp hclose
      refine (under (fun _ => True) (fun hentries hchange => ?_) hdraft.root hinner).2
      cases hchange
      exact ⟨trivial, hentries.put (hdraft.current.table _ _)⟩
  · next parent name _ =>
      obtain ⟨⟨⟨⟩, inner⟩, hinner, rfl⟩ := Option.map_eq_some_iff.mp hclose
      refine (under (fun _ => True) (fun hentries hchange => ?_) hdraft.root hinner).2
      split at hchange
      · next items hlookup =>
          cases hchange
          refine ⟨trivial, hentries.put (tables fun entries hmem => ?_)⟩
          obtain hold | hnew := List.mem_append.mp hmem
          · exact of_tables (hentries.lookup hlookup) entries hold
          · rw [List.mem_singleton.mp hnew]
            exact hdraft.current
      · cases hchange

theorem takeImplicit {name : String} {entries taken left : Entries} (hentries : entries.WellFormed)
    (htake : Draft.takeImplicit name entries = some (taken, left)) :
    taken.WellFormed ∧ left.WellFormed := by
  rw [Draft.takeImplicit] at htake
  split at htake
  · cases htake
    exact ⟨nil, hentries⟩
  · next hlookup =>
      cases htake
      exact ⟨of_table (hentries.lookup hlookup), hentries.erase name⟩
  · cases htake

theorem reserveRepeated {name : String} {entries left : Entries} (hentries : entries.WellFormed)
    (hreserve : Draft.reserveRepeated name entries = some ((), left)) : left.WellFormed := by
  rw [Draft.reserveRepeated] at hreserve
  split at hreserve
  · next hnew =>
      cases hreserve
      exact hentries.append_new hnew (tables fun _ hmem => nomatch hmem)
  · cases hreserve
    exact hentries
  · cases hreserve

theorem openHeader (hdraft : draft.WellFormed) (hopen : draft.openHeader path = some changed) :
    changed.WellFormed := by
  obtain ⟨name, _, hopen⟩ := Option.bind_eq_some_iff.mp hopen
  obtain ⟨root, hclose, hopen⟩ := Option.bind_eq_some_iff.mp hopen
  obtain ⟨⟨current, left⟩, hunder, hopen⟩ := Option.bind_eq_some_iff.mp hopen
  cases hopen
  obtain ⟨hcurrent, hleft⟩ := under _ takeImplicit (hdraft.closeTable hclose) hunder
  exact ⟨hleft, hcurrent⟩

theorem openRepeated (hdraft : draft.WellFormed)
    (hopen : draft.openRepeated path = some changed) : changed.WellFormed := by
  obtain ⟨name, _, hopen⟩ := Option.bind_eq_some_iff.mp hopen
  obtain ⟨root, hclose, hopen⟩ := Option.bind_eq_some_iff.mp hopen
  obtain ⟨⟨⟨⟩, left⟩, hunder, hopen⟩ := Option.bind_eq_some_iff.mp hopen
  cases hopen
  have hleft := under (fun _ => True)
    (fun hentries hreserve => ⟨trivial, reserveRepeated hentries hreserve⟩)
    (hdraft.closeTable hclose) hunder
  exact ⟨hleft.2, nil⟩

theorem addKey {key : List String} {value : Toml} (hdraft : draft.WellFormed)
    (hvalue : value.WellFormed) (hadd : draft.addKey key value = some changed) :
    changed.WellFormed := by
  obtain ⟨current, hcurrent, rfl⟩ := Option.map_eq_some_iff.mp hadd
  exact ⟨hdraft.root, hdraft.current.add hvalue hcurrent⟩

end Draft.WellFormed

/-! ## Readers -/

/-- Whatever the reader reads has the property. -/
def Reader.Reads {α : Type} (holds : α → Prop) (reader : Reader α) : Prop :=
  ∀ ⦃input value rest⦄, reader input = some (value, rest) → holds value

theorem wellFormed_of_integer? {value : Int} {read : Toml} (hread : integer? value = some read) :
    read.WellFormed := by
  rw [integer?] at hread
  split at hread
  · next hfits =>
      cases hread
      exact .integer hfits
  · cases hread

theorem reads_readBased (base : Nat) : Reader.Reads WellFormed (readBased base) := by
  intro input value rest hread
  obtain ⟨⟨digits, left⟩, _, hread⟩ := Option.bind_eq_some_iff.mp hread
  obtain ⟨number, _, hread⟩ := Option.bind_eq_some_iff.mp hread
  obtain ⟨integer, hinteger, hread⟩ := Option.bind_eq_some_iff.mp hread
  cases hread
  exact wellFormed_of_integer? hinteger

theorem reads_readInteger : Reader.Reads WellFormed readInteger := by
  intro input value rest hread
  unfold readInteger at hread
  split at hread
  · exact reads_readBased 16 hread
  · exact reads_readBased 8 hread
  · exact reads_readBased 2 hread
  · obtain ⟨⟨digits, left⟩, _, hread⟩ := Option.bind_eq_some_iff.mp hread
    obtain ⟨number, _, hread⟩ := Option.bind_eq_some_iff.mp hread
    obtain ⟨integer, hinteger, hread⟩ := Option.bind_eq_some_iff.mp hread
    cases hread
    exact wellFormed_of_integer? hinteger

theorem reads_readSpecialFloat : Reader.Reads WellFormed readSpecialFloat := by
  intro input value rest hread
  simp only [readSpecialFloat] at hread
  split at hread
  · cases hread
    exact .float _
  · cases hread
    exact .float _
  · cases hread

theorem reads_readFloat : Reader.Reads WellFormed readFloat := by
  intro input value rest hread
  obtain ⟨⟨whole, afterWhole⟩, _, hread⟩ := Option.bind_eq_some_iff.mp hread
  obtain ⟨⟨fraction, afterFraction⟩, _, hread⟩ := Option.bind_eq_some_iff.mp hread
  obtain ⟨⟨exponent, left⟩, _, hread⟩ := Option.bind_eq_some_iff.mp hread
  obtain ⟨-, hread⟩ := Option.ite_none_left_eq_some.mp hread
  obtain ⟨digits, _, hread⟩ := Option.bind_eq_some_iff.mp hread
  cases (Option.ite_none_left_eq_some.mp hread).2
  exact .float _

theorem reads_readDatetime : Reader.Reads WellFormed readDatetime := by
  intro input value rest hread
  rw [readDatetime] at hread
  split at hread
  · cases hread
    exact .datetime
  · obtain ⟨left, _, hleft⟩ := Option.map_eq_some_iff.mp hread
    cases hleft
    exact .datetime

theorem reads_readScalar : Reader.Reads WellFormed readScalar := by
  intro input value rest hread
  unfold readScalar at hread
  split at hread
  · cases hread
  · split at hread
    · obtain ⟨text, _, htext⟩ := Option.map_eq_some_iff.mp hread
      cases htext
      exact .string _
    · split at hread
      · obtain ⟨left, _, hleft⟩ := Option.map_eq_some_iff.mp hread
        cases hleft
        exact .boolean _
      · split at hread
        · obtain ⟨left, _, hleft⟩ := Option.map_eq_some_iff.mp hread
          cases hleft
          exact .boolean _
        · split at hread
          · simp only [Option.or_eq_some_iff] at hread
            obtain (hdate | ⟨-, hfloat⟩) | ⟨-, hspecial | ⟨-, hinteger⟩⟩ := hread
            · exact reads_readDatetime hdate
            · exact reads_readFloat hfloat
            · exact reads_readSpecialFloat hspecial
            · exact reads_readInteger hinteger
          · exact reads_readSpecialFloat hread

section Nested

variable {value : Reader Toml} (hvalue : value.Reads WellFormed)
include hvalue

theorem reads_readItems {fuel : Nat} {done : List Toml} (hdone : ∀ item ∈ done, item.WellFormed) :
    Reader.Reads (fun items => ∀ item ∈ items, item.WellFormed) (readItems value fuel done) := by
  induction fuel generalizing done with
  | zero => exact fun _ _ _ hread => nomatch hread
  | succ fuel ih =>
      intro input items rest hread
      rw [readItems] at hread
      split at hread
      · cases hread
        exact fun item hitem => hdone item (List.mem_reverse.mp hitem)
      · split at hread
        · cases hread
        · next item left hitem =>
            have hmore : ∀ other ∈ item :: done, other.WellFormed :=
              List.forall_mem_cons.mpr ⟨hvalue hitem, hdone⟩
            split at hread
            · exact ih hmore hread
            · cases hread
              exact fun other hother => hmore other (List.mem_reverse.mp hother)
            · cases hread

theorem reads_readPair : Reader.Reads (fun pair => pair.2.WellFormed) (readPair value) := by
  intro input pair rest hread
  obtain ⟨⟨key, left⟩, _, hread⟩ := Option.bind_eq_some_iff.mp hread
  dsimp only at hread
  split at hread
  · obtain ⟨⟨read, behind⟩, hinner, hread⟩ := Option.bind_eq_some_iff.mp hread
    cases hread
    exact hvalue hinner
  · cases hread

theorem reads_readPairs {fuel : Nat} {entries : Entries} (hentries : entries.WellFormed) :
    Reader.Reads Entries.WellFormed (readPairs value fuel entries) := by
  induction fuel generalizing entries with
  | zero => exact fun _ _ _ hread => nomatch hread
  | succ fuel ih =>
      intro input result rest hread
      rw [readPairs] at hread
      split at hread
      · cases hread
      · next key read left hpair =>
          split at hread
          · cases hread
          · next added hadd =>
              have hadded := hentries.add (reads_readPair hvalue hpair) hadd
              split at hread
              · exact ih hadded hread
              · cases hread
                exact hadded
              · cases hread

theorem reads_readInlineTable : Reader.Reads WellFormed (readInlineTable value) := by
  intro input read rest hread
  rw [readInlineTable] at hread
  split at hread
  · cases hread
    exact Entries.WellFormed.nil.toValue
  · obtain ⟨⟨entries, left⟩, hentries, hresult⟩ := Option.map_eq_some_iff.mp hread
    cases hresult
    exact (reads_readPairs hvalue .nil hentries).toValue

end Nested

theorem reads_readValue (depth : Nat) : Reader.Reads WellFormed (readValue depth) := by
  induction depth with
  | zero =>
      intro input value rest hread
      unfold readValue at hread
      split at hread
      · cases hread
      · cases hread
      · exact reads_readScalar hread
  | succ depth ih =>
      intro input value rest hread
      unfold readValue at hread
      split at hread
      · obtain ⟨⟨items, left⟩, hitems, hresult⟩ := Option.map_eq_some_iff.mp hread
        cases hresult
        exact .array (reads_readItems ih (List.forall_mem_nil _) hitems)
      · exact reads_readInlineTable ih hread
      · exact reads_readScalar hread

/-! ## Documents -/

theorem Draft.WellFormed.readLine {draft changed : Draft} {input rest : List Char}
    (hdraft : draft.WellFormed) (hline : Toml.readLine draft input = some (changed, rest)) :
    changed.WellFormed := by
  unfold Toml.readLine at hline
  split at hline
  · obtain ⟨_, _, hresult⟩ := Option.map_eq_some_iff.mp hline
    cases hresult
    exact hdraft
  · obtain ⟨⟨path, _⟩, _, hline⟩ := Option.bind_eq_some_iff.mp hline
    obtain ⟨_, _, hline⟩ := Option.bind_eq_some_iff.mp hline
    obtain ⟨opened, hopen, hline⟩ := Option.bind_eq_some_iff.mp hline
    cases hline
    exact hdraft.openRepeated hopen
  · obtain ⟨⟨path, _⟩, _, hline⟩ := Option.bind_eq_some_iff.mp hline
    obtain ⟨_, _, hline⟩ := Option.bind_eq_some_iff.mp hline
    obtain ⟨opened, hopen, hline⟩ := Option.bind_eq_some_iff.mp hline
    cases hline
    exact hdraft.openHeader hopen
  · split at hline
    · cases hline
      exact hdraft
    · obtain ⟨⟨⟨key, value⟩, _⟩, hpair, hline⟩ := Option.bind_eq_some_iff.mp hline
      obtain ⟨added, hadd, hline⟩ := Option.bind_eq_some_iff.mp hline
      obtain ⟨_, _, hline⟩ := Option.bind_eq_some_iff.mp hline
      cases hline
      exact hdraft.addKey (reads_readPair (reads_readValue maxDepth) hpair) hadd

theorem wellFormed_of_readDocument {fuel : Nat} {draft : Draft} {input : List Char}
    {document : Toml} (hdraft : draft.WellFormed)
    (hread : readDocument fuel draft input = some document) :
    document.WellFormed ∧ ∃ entries, document = .table entries := by
  induction fuel generalizing draft input with
  | zero => cases hread
  | succ fuel ih =>
      rw [readDocument] at hread
      split at hread
      · obtain ⟨root, hroot, rfl⟩ := Option.map_eq_some_iff.mp hread
        exact ⟨(hdraft.closeTable hroot).toValue, _, rfl⟩
      · split at hread
        · next changed rest hline => exact ih (hdraft.readLine hline) hread
        · cases hread

/-- Every document is a table, and well-formed. -/
theorem wellFormed_of_parse? {text : String} {document : Toml}
    (hparse : parse? text = some document) :
    document.WellFormed ∧ ∃ entries, document = .table entries :=
  wellFormed_of_readDocument ⟨.nil, .nil⟩ hparse

end DebugBridge.Toml
