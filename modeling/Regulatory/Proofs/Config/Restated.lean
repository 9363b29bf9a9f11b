import Mathlib
import Regulatory.Proofs.Config.Decode

/-!
Documents that say the same. The order of the keys, keys that mean nothing and the form in which a
section is written make no difference to the configuration that is loaded.
-/

namespace Regulatory.Config

open Toml

/-- Where in a document a value stands. -/
inductive Place where
  | document
  | regulatory
  | logging
  /-- Anywhere else, where a value has nothing but itself to say. -/
  | field

namespace Place

/-- The keys that mean something in a table at a place, in the order of the section's array form. -/
def fields : Place → List String
  | document => ["regulatory", "logging", "interfaces"]
  | regulatory => ["default_country_code", "revert_on_loss"]
  | logging => ["json"]
  | field => []

/-- The place of the value of a key. -/
def below : Place → String → Place
  | document, "regulatory" => regulatory
  | document, "logging" => logging
  | _, _ => field

def isSection : Place → Bool
  | regulatory | logging => true
  | document | field => false

end Place

/-- The values at a place are written in other ways and say the same. -/
inductive Restated : Place → Value → Value → Prop
  | refl (p : Place) (v : Value) : Restated p v v
  | symm {p : Place} {v v' : Value} (h : Restated p v v') : Restated p v' v
  | trans {p : Place} {v v' v'' : Value} (h : Restated p v v') (h' : Restated p v' v'') :
      Restated p v v''
  /-- The keys of a table may come in any order. -/
  | order (p : Place) {entries entries' : Entries} (horder : entries.Perm entries') :
      Restated p (.table entries) (.table entries')
  /-- Any value may stand under a key that means nothing. -/
  | unknown (p : Place) {key : String} (hkey : key ∉ p.fields) (v : Value) (entries : Entries) :
      Restated p (.table entries) (.table ((key, v) :: entries))
  /-- A section may be written as an array of its first fields. -/
  | form {p : Place} (hsection : p.isSection = true) {items : List Value}
      (hlength : items.length ≤ p.fields.length) :
      Restated p (.table (p.fields.zip items)) (.array items)
  | entry {p : Place} {key : String} {v v' : Value} (h : Restated (p.below key) v v')
      (entries : Entries) :
      Restated p (.table ((key, v) :: entries)) (.table ((key, v') :: entries))
  | item {p : Place} {v v' : Value} (h : Restated .field v v') (before after : List Value) :
      Restated p (.array (before ++ v :: after)) (.array (before ++ v' :: after))

/-- What values can say. -/
inductive Meaning where
  | document (config : Config)
  | regulatory (s : RegulatorySection)
  | logging (s : LoggingSection)
  | string (s : String)
  | boolean (b : Bool)
  | strings (names : List String)

/-- What a value at a place says, if it fits there. -/
inductive Means : Place → Value → Meaning → Prop
  | document {entries : Entries} {config : Config} (h : Written entries config) :
      Means .document (.table entries) (.document config)
  | regulatory {v : Value} {s : RegulatorySection} (h : RegulatorySection.Written v s) :
      Means .regulatory v (.regulatory s)
  | logging {v : Value} {s : LoggingSection} (h : LoggingSection.Written v s) :
      Means .logging v (.logging s)
  | string (s : String) : Means .field (.string s) (.string s)
  | boolean (b : Bool) : Means .field (.boolean b) (.boolean b)
  | strings (names : List String) : Means .field (.array (names.map .string)) (.strings names)

/-- Two values say the same. -/
def Alike (p : Place) (v v' : Value) : Prop :=
  ∀ m, Means p v m ↔ Means p v' m

/-- Two tables have the same to say under every key that means something. -/
structure AlikeEntries (p : Place) (entries entries' : Entries) : Prop where
  meaning : ∀ key ∈ p.fields, ∀ m, (∃ v, (key, v) ∈ entries ∧ Means (p.below key) v m) →
    ∃ v, (key, v) ∈ entries' ∧ Means (p.below key) v m
  present : ∀ key ∈ p.fields, ∀ v, (key, v) ∈ entries' → ∃ v, (key, v) ∈ entries

theorem eq_string_of_means {v : Value} {s : String} (h : Means .field v (.string s)) :
    v = .string s := by
  cases h
  rfl

theorem eq_boolean_of_means {v : Value} {b : Bool} (h : Means .field v (.boolean b)) :
    v = .boolean b := by
  cases h
  rfl

theorem eq_array_of_means {v : Value} {names : List String} (h : Means .field v (.strings names)) :
    v = .array (names.map .string) := by
  cases h
  rfl

theorem AlikeEntries.gives {p : Place} {entries entries' : Entries}
    (h : AlikeEntries p entries entries') {key : String} (hkey : key ∈ p.fields) {α : Type}
    {Reads : Value → α → Prop} {meaning : α → Meaning}
    (hreads : ∀ v a, Reads v a ↔ Means (p.below key) v (meaning a)) {fallback a : α}
    (hgives : Gives entries key Reads fallback a) : Gives entries' key Reads fallback a := by
  obtain ⟨v, hv, ha⟩ | ⟨habsent, ha⟩ := hgives
  · obtain ⟨v', hv', ha'⟩ := h.meaning key hkey (meaning a) ⟨v, hv, (hreads v a).1 ha⟩
    exact .inl ⟨v', hv', (hreads v' a).2 ha'⟩
  · refine .inr ⟨fun v' hv' => ?_, ha⟩
    obtain ⟨v, hv⟩ := h.present key hkey v' hv'
    exact habsent v hv

theorem means_boolean_iff (v : Value) (b : Bool) : v = .boolean b ↔ Means .field v (.boolean b) :=
  ⟨fun h => h ▸ .boolean b, eq_boolean_of_means⟩

theorem means_strings_iff (v : Value) (names : List String) :
    v = .array (names.map .string) ↔ Means .field v (.strings names) :=
  ⟨fun h => h ▸ .strings names, eq_array_of_means⟩

theorem means_logging_iff (v : Value) (s : LoggingSection) :
    LoggingSection.Written v s ↔ Means .logging v (.logging s) :=
  ⟨.logging, fun h => by cases h; assumption⟩

theorem AlikeEntries.means {p : Place} {entries entries' : Entries}
    (h : AlikeEntries p entries entries') {m : Meaning} (hm : Means p (.table entries) m) :
    Means p (.table entries') m := by
  cases hm with
  | document hwritten =>
    obtain ⟨⟨v, hv, hregulatory⟩, hlogging, hinterfaces⟩ := hwritten
    obtain ⟨v', hv', hm⟩ := h.meaning "regulatory" (by decide) _ ⟨v, hv, .regulatory hregulatory⟩
    cases hm with
    | regulatory hregulatory' =>
      exact .document ⟨⟨v', hv', hregulatory'⟩, h.gives (by decide) means_logging_iff hlogging,
        h.gives (by decide) means_strings_iff hinterfaces⟩
  | regulatory hwritten =>
    cases hwritten with
    | table hcode hrevert =>
      obtain ⟨v', hv', hm⟩ := h.meaning "default_country_code" (by decide) _ ⟨_, hcode, .string _⟩
      obtain rfl := eq_string_of_means hm
      exact .regulatory (.table hv' (h.gives (by decide) means_boolean_iff hrevert))
  | logging hwritten =>
    cases hwritten with
    | table hjson => exact .logging (.table (h.gives (by decide) means_boolean_iff hjson))

/-- What counts of a table is the entries under the keys that mean something. -/
theorem alike_of_mem_iff {p : Place} {entries entries' : Entries}
    (hmem : ∀ key ∈ p.fields, ∀ v, (key, v) ∈ entries ↔ (key, v) ∈ entries') :
    Alike p (.table entries) (.table entries') := by
  have hforth : AlikeEntries p entries entries' :=
    ⟨fun key hkey _ ⟨v, hv, hm⟩ => ⟨v, (hmem key hkey v).1 hv, hm⟩,
      fun key hkey v hv => ⟨v, (hmem key hkey v).2 hv⟩⟩
  have hback : AlikeEntries p entries' entries :=
    ⟨fun key hkey _ ⟨v, hv, hm⟩ => ⟨v, (hmem key hkey v).2 hv, hm⟩,
      fun key hkey v hv => ⟨v, (hmem key hkey v).1 hv⟩⟩
  exact fun m => ⟨hforth.means, hback.means⟩

theorem alikeEntries_cons {p : Place} {key : String} {v v' : Value} (h : Alike (p.below key) v v')
    (entries : Entries) : AlikeEntries p ((key, v) :: entries) ((key, v') :: entries) := by
  constructor
  · rintro other _ m ⟨w, hw, hm⟩
    obtain heq | hrest := List.mem_cons.1 hw
    · cases heq
      exact ⟨v', List.mem_cons_self, (h m).1 hm⟩
    · exact ⟨w, List.mem_cons_of_mem _ hrest, hm⟩
  · intro other _ w hw
    obtain heq | hrest := List.mem_cons.1 hw
    · cases heq
      exact ⟨v, List.mem_cons_self⟩
    · exact ⟨w, List.mem_cons_of_mem _ hrest⟩

/-- Items say the same one by one. -/
abbrev AlikeItems : List Value → List Value → Prop :=
  List.Forall₂ (Alike .field)

theorem Alike.symm {p : Place} {v v' : Value} (h : Alike p v v') : Alike p v' v :=
  fun m => (h m).symm

theorem AlikeItems.strings {names : List String} {items : List Value}
    (h : AlikeItems (names.map .string) items) : items = names.map .string := by
  induction names generalizing items with
  | nil =>
    cases h
    rfl
  | cons name names ih =>
    cases h with
    | cons hfirst hrest =>
      rw [ih hrest, eq_string_of_means ((hfirst _).1 (.string name)), List.map_cons]

theorem AlikeItems.means {p : Place} {items items' : List Value} (h : AlikeItems items items')
    {m : Meaning} (hm : Means p (.array items) m) : Means p (.array items') m := by
  cases hm with
  | regulatory hwritten =>
    cases hwritten with
    | code code =>
      have hcode : AlikeItems ([code].map .string) items' := h
      obtain rfl := hcode.strings
      exact .regulatory (.code code)
    | both code revert =>
      cases h with
      | cons hcode hrest =>
        cases hrest with
        | cons hrevert hnil =>
          cases hnil
          obtain rfl := eq_string_of_means ((hcode _).1 (.string code))
          obtain rfl := eq_boolean_of_means ((hrevert _).1 (.boolean revert))
          exact .regulatory (.both code revert)
  | logging hwritten =>
    cases hwritten with
    | empty =>
      cases h
      exact .logging .empty
    | json json =>
      cases h with
      | cons hjson hnil =>
        cases hnil
        obtain rfl := eq_boolean_of_means ((hjson _).1 (.boolean json))
        exact .logging (.json json)
  | strings names =>
    rw [h.strings]
    exact .strings names

theorem written_regulatory_form {items : List Value} (hlength : items.length ≤ 2)
    (s : RegulatorySection) :
    RegulatorySection.Written (.table (Place.regulatory.fields.zip items)) s ↔
      RegulatorySection.Written (.array items) s := by
  match items, hlength with
  | [], _ =>
    refine iff_of_false (fun h => ?_) nofun
    cases h with
    | table hcode _ => cases hcode
  | [v], _ =>
    have habsent (w : Value) : ("revert_on_loss", w) ∉ [("default_country_code", v)] := by simp
    constructor
    · intro h
      cases h with
      | table hcode hrevert =>
        cases List.mem_singleton.1 hcode
        obtain rfl := (gives_of_absent habsent).1 hrevert
        exact .code _
    · intro h
      cases h with
      | code code => exact .table List.mem_cons_self ((gives_of_absent habsent).2 rfl)
  | [v, w], _ =>
    have hsecond (b : Bool) : Gives [("default_country_code", v), ("revert_on_loss", w)]
        "revert_on_loss" (fun v b => v = .boolean b) true b ↔ w = .boolean b := by
      rw [gives_cons_of_ne (by decide), gives_cons_self (by simp)]
    constructor
    · intro h
      cases h with
      | table hcode hrevert =>
        obtain rfl := (hsecond _).1 hrevert
        obtain heq | hother := List.mem_cons.1 hcode
        · cases heq
          exact .both _ _
        · simp at hother
    · intro h
      cases h with
      | both code revert => exact .table List.mem_cons_self ((hsecond revert).2 rfl)

theorem written_logging_form {items : List Value} (hlength : items.length ≤ 1)
    (s : LoggingSection) :
    LoggingSection.Written (.table (Place.logging.fields.zip items)) s ↔
      LoggingSection.Written (.array items) s := by
  match items, hlength with
  | [], _ =>
    have hnone (b : Bool) : Gives [] "json" (fun v b => v = .boolean b) false b ↔ b = false :=
      gives_of_absent (by simp)
    constructor
    · intro h
      cases h with
      | table hjson =>
        obtain rfl := (hnone _).1 hjson
        exact .empty
    · intro h
      cases h with
      | empty => exact .table ((hnone false).2 rfl)
  | [v], _ =>
    have hfirst (b : Bool) :
        Gives [("json", v)] "json" (fun v b => v = .boolean b) false b ↔ v = .boolean b :=
      gives_cons_self (by simp)
    constructor
    · intro h
      cases h with
      | table hjson =>
        obtain rfl := (hfirst _).1 hjson
        exact .json _
    · intro h
      cases h with
      | json json => exact .table ((hfirst json).2 rfl)

theorem alike_form {p : Place} (hsection : p.isSection = true) {items : List Value}
    (hlength : items.length ≤ p.fields.length) :
    Alike p (.table (p.fields.zip items)) (.array items) := by
  intro m
  cases p with
  | regulatory =>
    have hforms := written_regulatory_form hlength
    constructor
    · intro h
      cases h with
      | regulatory hwritten => exact .regulatory ((hforms _).1 hwritten)
    · intro h
      cases h with
      | regulatory hwritten => exact .regulatory ((hforms _).2 hwritten)
  | logging =>
    have hforms := written_logging_form hlength
    constructor
    · intro h
      cases h with
      | logging hwritten => exact .logging ((hforms _).1 hwritten)
    · intro h
      cases h with
      | logging hwritten => exact .logging ((hforms _).2 hwritten)
  | document | field => cases hsection

/-- Values that are restated say the same. -/
theorem Restated.alike {p : Place} {v v' : Value} (h : Restated p v v') : Alike p v v' := by
  induction h with
  | refl p v => exact fun _ => Iff.rfl
  | symm _ ih => exact ih.symm
  | trans _ _ ih ih' => exact fun m => (ih m).trans (ih' m)
  | order p horder => exact alike_of_mem_iff fun key _ v => horder.mem_iff
  | @unknown p key hkey v entries =>
    refine alike_of_mem_iff fun other hother w => ?_
    have hne : other ≠ key := fun heq => hkey (heq ▸ hother)
    simp [hne]
  | form hsection hlength => exact alike_form hsection hlength
  | entry _ entries ih =>
    exact fun m => ⟨(alikeEntries_cons ih entries).means, (alikeEntries_cons ih.symm entries).means⟩
  | @item p v v' _ before after ih =>
    have hsame (items : List Value) : AlikeItems items items :=
      List.forall₂_same.2 fun _ _ _ => Iff.rfl
    have hitems {v v' : Value} (h : Alike .field v v') :
        AlikeItems (before ++ v :: after) (before ++ v' :: after) :=
      List.rel_append (hsame before) (.cons h (hsame after))
    exact fun m => ⟨(hitems ih).means, (hitems ih.symm).means⟩

theorem Restated.written_iff {entries entries' : Entries}
    (h : Restated .document (.table entries) (.table entries')) (config : Config) :
    Written entries config ↔ Written entries' config := by
  have hsame := h.alike (.document config)
  constructor
  · intro hwritten
    cases hsame.1 (.document hwritten)
    assumption
  · intro hwritten
    cases hsame.2 (.document hwritten)
    assumption

/-- A text with something in it can be the default. -/
theorem validate_iff_visible (config : Config) :
    config.validate = .ok () ↔
      ∃ c ∈ config.regulatory.defaultCode.toList, Text.isWhiteSpace c = false := by
  rw [validate_eq_ok_iff, ← Bool.not_eq_true, Text.isBlank_iff]
  simp

/-- What is written as it should be is read, and gives what is written. -/
theorem ofDocument_eq_ok_iff_written {entries : Entries} (htidy : TidyDocument entries)
    (hfits : Fitting entries) (config : Config) :
    ofDocument entries = .ok config ↔
      Written entries config ∧
        ∃ c ∈ config.regulatory.defaultCode.toList, Text.isWhiteSpace c = false := by
  rw [ofDocument_eq_ok_iff, ofEntries_eq_ok_iff htidy hfits, validate_iff_visible]

theorem toOption_ofDocument_congr {entries entries' : Entries} (htidy : TidyDocument entries)
    (hfits : Fitting entries) (htidy' : TidyDocument entries') (hfits' : Fitting entries')
    (h : Restated .document (.table entries) (.table entries')) :
    (ofDocument entries').toOption = (ofDocument entries).toOption := by
  refine toOption_congr fun config => ?_
  rw [ofDocument_eq_ok_iff_written htidy hfits, ofDocument_eq_ok_iff_written htidy' hfits',
    h.written_iff]

/-- Which documents stand for a configuration, and for which one. What counts is the values under
the keys that mean something, wherever and in whichever form they are written. A controller can be
made from each configuration that a document stands for. How documents are read off a text does not
matter, as long as no key comes twice. -/
theorem reading_of_tidy_document {entries : Entries} (htidy : TidyDocument entries)
    (hfits : Fitting entries) :
    (∀ config, ofDocument entries = .ok config ↔
        Written entries config ∧
          ∃ c ∈ config.regulatory.defaultCode.toList, Text.isWhiteSpace c = false) ∧
      (∀ entries', TidyDocument entries' → Fitting entries' →
        Restated .document (.table entries) (.table entries') →
          (ofDocument entries').toOption = (ofDocument entries).toOption) ∧
      ∀ config, ofDocument entries = .ok config → ∃ c, config.controller = .ok c ∧
        CountryCode.parse config.regulatory.defaultCode = some c.defaultCode ∧
          c.revertOnLoss = config.regulatory.revertOnLoss := by
  refine ⟨ofDocument_eq_ok_iff_written htidy hfits, fun _ htidy' hfits' h =>
    toOption_ofDocument_congr htidy hfits htidy' hfits' h, fun config hread => ?_⟩
  obtain ⟨c, hcontroller⟩ := config.exists_controller_iff.2 (ofDocument_eq_ok_iff.1 hread).2
  exact ⟨c, hcontroller, (config.controller_eq_ok_iff c).1 hcontroller⟩

/-- The bytes of a file are a document with these entries. -/
def Holds (bytes : List UInt8) (entries : Entries) : Prop :=
  ∃ text, Text.Utf8.decode bytes = .ok text ∧ parse? text = some entries

theorem Holds.tidy {bytes : List UInt8} {entries : Entries} (hholds : Holds bytes entries) :
    TidyDocument entries := by
  obtain ⟨_, _, hparse⟩ := hholds
  exact parse?_tidy hparse

theorem Holds.load_eq {bytes : List UInt8} {entries : Entries} (hholds : Holds bytes entries) :
    load (some bytes) = ofDocument entries := by
  obtain ⟨_, hdecode, hparse⟩ := hholds
  rw [load_of_decode hdecode, hparse, Option.elim_some]

/-- Which files load, and as which configurations: what `reading_of_tidy_document` says of their
documents. A configuration that has been loaded is one that a controller can be made from. -/
theorem loading_of_document {bytes : List UInt8} {entries : Entries} (hholds : Holds bytes entries)
    (hfits : Fitting entries) :
    (∀ config, load (some bytes) = .ok config ↔
        Written entries config ∧
          ∃ c ∈ config.regulatory.defaultCode.toList, Text.isWhiteSpace c = false) ∧
      (∀ bytes' entries', Holds bytes' entries' → Fitting entries' →
        Restated .document (.table entries) (.table entries') →
          (load (some bytes')).toOption = (load (some bytes)).toOption) ∧
      ∀ config, load (some bytes) = .ok config → ∃ c, config.controller = .ok c ∧
        CountryCode.parse config.regulatory.defaultCode = some c.defaultCode ∧
          c.revertOnLoss = config.regulatory.revertOnLoss := by
  obtain ⟨hwritten, hrestated, hcontroller⟩ := reading_of_tidy_document hholds.tidy hfits
  rw [hholds.load_eq]
  refine ⟨hwritten, fun bytes' entries' hholds' hfits' h => ?_, hcontroller⟩
  rw [hholds'.load_eq]
  exact hrestated entries' hholds'.tidy hfits' h

/-- The bytes of a text in ASCII. -/
def ascii (text : String) : List UInt8 :=
  text.toList.map fun c => UInt8.ofNat c.toNat

def longDocument : List UInt8 :=
  ascii "logging={json=true}\n[regulatory]\nrevert_on_loss=false\ndefault_country_code=\" gb\""

def longEntries : Entries :=
  [("logging", .table [("json", .boolean true)]),
    ("regulatory", .table
      [("revert_on_loss", .boolean false), ("default_country_code", .string " gb")])]

/-- The same with the sections written as arrays, in another order, and with a key of its own. -/
def shortDocument : List UInt8 :=
  ascii "id=7\nregulatory=[\" gb\", false]\nlogging=[true]"

def shortEntries : Entries :=
  [("id", .integer 7), ("regulatory", .array [.string " gb", .boolean false]),
    ("logging", .array [.boolean true])]

theorem longEntries_restated :
    Restated .document (.table longEntries) (.table shortEntries) := by
  have hlogging := @Restated.form .logging rfl [.boolean true] (by decide)
  have hform := @Restated.form .regulatory rfl [.string " gb", .boolean false] (by decide)
  have hregulatory : Restated .regulatory
      (.table [("revert_on_loss", .boolean false), ("default_country_code", .string " gb")])
      (.array [.string " gb", .boolean false]) :=
    (Restated.order .regulatory (List.Perm.swap _ _ _)).trans hform
  have hfirst := @Restated.entry .document "logging" _ _ hlogging [("regulatory", .table
    [("revert_on_loss", .boolean false), ("default_country_code", .string " gb")])]
  have hsecond := @Restated.entry .document "regulatory" _ _ hregulatory
    [("logging", .array [.boolean true])]
  -- A section is rewritten where it comes first, so the two change places in between.
  refine hfirst.trans (.trans ?_ (hsecond.trans (.unknown .document (by decide) _ _)))
  exact .order .document (List.Perm.swap _ _ _)

theorem longEntries_written :
    Written longEntries ⟨⟨" gb", false⟩, ⟨true⟩, ["wlan0"]⟩ := by
  constructor
  · refine ⟨_, List.mem_cons_of_mem _ List.mem_cons_self, .table (by simp) ?_⟩
    exact (gives_cons_self (by simp)).2 rfl
  · exact (gives_cons_self (by simp)).2 (.table ((gives_cons_self (by simp)).2 rfl))
  · exact (gives_of_absent (by simp [longEntries])).2 rfl

theorem longDocument_loads :
    load (some longDocument) = .ok ⟨⟨" gb", false⟩, ⟨true⟩, ["wlan0"]⟩ ∧
      (load (some shortDocument)).toOption = (load (some longDocument)).toOption ∧
      ∃ c : Controller, CountryCode.parse " gb" = some c.defaultCode ∧ c.revertOnLoss = false := by
  have hlong : Holds longDocument longEntries := ⟨_, by cbv, by cbv⟩
  have hshort : Holds shortDocument shortEntries := ⟨_, by cbv, by cbv⟩
  have hfits : Fitting longEntries :=
    ⟨by simp [longEntries, Fits], by simp [longEntries, Fits]⟩
  have hfits' : Fitting shortEntries :=
    ⟨by simp [shortEntries, Fits], by simp [shortEntries, Fits]⟩
  obtain ⟨hloads, hsame, hcontroller⟩ := loading_of_document hlong hfits
  have hload := (hloads _).2 ⟨longEntries_written, 'g', by decide, by decide⟩
  obtain ⟨c, _, hcode, hrevert⟩ := hcontroller _ hload
  exact ⟨hload, hsame _ _ hshort hfits' longEntries_restated, c, hcode, hrevert⟩

end Regulatory.Config
