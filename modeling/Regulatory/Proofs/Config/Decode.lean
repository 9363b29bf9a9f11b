import Regulatory.Config.Load
import Regulatory.Proofs.Toml.Keys

/-!
What the values of a document have to be to make a configuration, said without an order among the
entries. Decoding goes through the entries one after another; it comes to the same.
-/

namespace Regulatory

namespace Toml

/-- What a table gives for a key: what its value stands for, or the fallback if the key is not
there. -/
def Gives {α : Type} (entries : Entries) (key : String) (Reads : Value → α → Prop)
    (fallback a : α) : Prop :=
  (∃ v, (key, v) ∈ entries ∧ Reads v a) ∨ ((∀ v, (key, v) ∉ entries) ∧ a = fallback)

/-- A value under the key of a section with so many fields is no date, and if it is an array, it has
no item in excess. -/
def Fits (fields : Nat) : Value → Prop
  | .array items => items.length ≤ fields
  | .dateTime _ => False
  | _ => True

/-- What a decoder makes of a value that it has come across. -/
def Finds {α : Type} (decode : Decoder α) (v : Value) (found : Option α) : Prop :=
  ∃ a, decode v = .ok a ∧ found = some a

section Gives

variable {α : Type} {entries : Entries} {key other : String} {Reads : Value → α → Prop}
  {fallback a : α} {v : Value}

theorem gives_of_absent (habsent : ∀ v, (key, v) ∉ entries) :
    Gives entries key Reads fallback a ↔ a = fallback := by
  constructor
  · rintro (⟨v, hv, _⟩ | ⟨_, ha⟩)
    · exact absurd hv (habsent v)
    · exact ha
  · exact fun ha => .inr ⟨habsent, ha⟩

theorem gives_cons_of_ne (hne : key ≠ other) :
    Gives ((other, v) :: entries) key Reads fallback a ↔ Gives entries key Reads fallback a := by
  have hmem (w : Value) : (key, w) ∈ (other, v) :: entries ↔ (key, w) ∈ entries := by
    simp [hne]
  simp only [Gives, hmem]

theorem gives_cons_self (habsent : ∀ w, (key, w) ∉ entries) :
    Gives ((key, v) :: entries) key Reads fallback a ↔ Reads v a := by
  simp [Gives, habsent]

theorem gives_cons_finds {decode : Decoder α} {before found : Option α}
    (habsent : ∀ w, (key, w) ∉ entries) :
    Gives ((key, v) :: entries) key (Finds decode) before found ↔
      ∃ a, decode v = .ok a ∧ Gives entries key (Finds decode) (some a) found := by
  simp only [gives_cons_self habsent, gives_of_absent habsent, Finds]

theorem gives_congr {Reads' : Value → α → Prop}
    (hreads : ∀ v, (key, v) ∈ entries → (Reads v a ↔ Reads' v a)) :
    Gives entries key Reads fallback a ↔ Gives entries key Reads' fallback a :=
  or_congr (exists_congr fun v => and_congr_right (hreads v)) Iff.rfl

theorem gives_finds_some {decode : Decoder α} :
    Gives entries key (Finds decode) none (some a) ↔
      ∃ v, (key, v) ∈ entries ∧ decode v = .ok a := by
  simp [Gives, Finds]

theorem gives_finds_getD {decode : Decoder α} :
    (∃ found, Gives entries key (Finds decode) none found ∧ found.getD fallback = a) ↔
      Gives entries key (fun v a => decode v = .ok a) fallback a := by
  constructor
  · rintro ⟨found, ⟨v, hv, b, hb, rfl⟩ | ⟨habsent, rfl⟩, rfl⟩
    · exact .inl ⟨v, hv, hb⟩
    · exact .inr ⟨habsent, rfl⟩
  · rintro (⟨v, hv, ha⟩ | ⟨habsent, rfl⟩)
    · exact ⟨some a, .inl ⟨v, hv, a, ha, rfl⟩, rfl⟩
    · exact ⟨none, .inr ⟨habsent, rfl⟩, rfl⟩

end Gives

theorem bind_eq_ok_iff {α β : Type} {x : Except DecodeError α} {f : α → Except DecodeError β}
    {b : β} : (x >>= f) = .ok b ↔ ∃ a, x = .ok a ∧ f a = .ok b := by
  cases x with
  | error _ => exact iff_of_false nofun nofun
  | ok a => exact ⟨fun h => ⟨a, rfl, h⟩, fun ⟨_, hok, h⟩ => by cases hok; exact h⟩

/-- An entry that is decoded and kept. -/
theorem foldlM_cons_of_kept {α F : Type} {add : F → String × Value → Except DecodeError F}
    (decode : Decoder α) (keep : α → F) {f g : F} {entry : String × Value} {rest : Entries}
    (hadd : add f entry = decode entry.2 >>= fun a => pure (keep a)) :
    (entry :: rest).foldlM add f = .ok g ↔
      ∃ a, decode entry.2 = .ok a ∧ rest.foldlM add (keep a) = .ok g := by
  rw [List.foldlM_cons, hadd, bind_assoc, bind_eq_ok_iff]
  simp only [pure_bind]

/-- An entry that means nothing. -/
theorem foldlM_cons_of_unknown {F : Type} {add : F → String × Value → Except DecodeError F}
    {f : F} {entry : String × Value} {rest : Entries} (hadd : add f entry = pure f) :
    (entry :: rest).foldlM add f = rest.foldlM add f := by
  rw [List.foldlM_cons, hadd, pure_bind]

theorem decodeString_eq_ok_iff {v : Value} {s : String} :
    decodeString v = .ok s ↔ v = .string s := by
  cases v with
  | string t => simp [decodeString]
  | integer _ | float _ | boolean _ | dateTime _ | array _ | table _ =>
    exact iff_of_false nofun nofun

theorem decodeBool_eq_ok_iff {v : Value} {b : Bool} : decodeBool v = .ok b ↔ v = .boolean b := by
  cases v with
  | boolean c => simp [decodeBool]
  | integer _ | float _ | string _ | dateTime _ | array _ | table _ =>
    exact iff_of_false nofun nofun

theorem mapM_decodeString_eq_ok_iff {items : List Value} {names : List String} :
    items.mapM decodeString = .ok names ↔ items = names.map .string := by
  induction items generalizing names with
  | nil =>
    rw [List.mapM_nil]
    cases names with
    | nil => exact iff_of_true rfl rfl
    | cons _ _ => exact iff_of_false nofun nofun
  | cons v rest ih =>
    rw [List.mapM_cons, bind_eq_ok_iff]
    simp only [bind_eq_ok_iff, decodeString_eq_ok_iff, ih]
    cases names with
    | nil =>
      refine iff_of_false ?_ nofun
      rintro ⟨_, _, _, _, hok⟩
      cases hok
    | cons name names =>
      constructor
      · rintro ⟨_, rfl, _, rfl, hok⟩
        cases hok
        rfl
      · intro h
        obtain ⟨rfl, rfl⟩ := List.cons.inj h
        exact ⟨name, rfl, names, rfl, rfl⟩

theorem decodeStrings_eq_ok_iff {v : Value} {names : List String} :
    decodeStrings v = .ok names ↔ v = .array (names.map .string) := by
  cases v with
  | array items =>
    rw [decodeStrings, mapM_decodeString_eq_ok_iff]
    exact ⟨congrArg _, fun h => Value.array.inj h⟩
  | integer _ | float _ | boolean _ | string _ | dateTime _ | table _ =>
    exact iff_of_false nofun nofun

theorem required_eq_ok_iff {α : Type} {name : String} {found : Option α} {a : α} :
    required name found = .ok a ↔ found = some a := by
  cases found with
  | none => exact iff_of_false nofun nofun
  | some b => simp [required]

end Toml

open Toml

namespace RegulatorySection

/-- A value stands for a regulatory section: a table, or an array of its one or two values. -/
inductive Written : Value → RegulatorySection → Prop
  | table {entries : Entries} {code : String} {revert : Bool}
      (hcode : ("default_country_code", .string code) ∈ entries)
      (hrevert : Gives entries "revert_on_loss" (fun v b => v = .boolean b) true revert) :
      Written (.table entries) ⟨code, revert⟩
  | code (code : String) : Written (.array [.string code]) ⟨code, true⟩
  | both (code : String) (revert : Bool) :
      Written (.array [.string code, .boolean revert]) ⟨code, revert⟩

theorem foldlM_add_iff {entries : Entries} (hkeys : Distinct entries) {f g : Found} :
    entries.foldlM Found.add f = .ok g ↔
      Gives entries "default_country_code" (Finds decodeString) f.defaultCode g.defaultCode ∧
        Gives entries "revert_on_loss" (Finds decodeBool) f.revertOnLoss g.revertOnLoss := by
  induction entries generalizing f with
  | nil =>
    rw [gives_of_absent (by simp), gives_of_absent (by simp)]
    cases f
    cases g
    simp [pure, Except.pure, eq_comm]
  | cons entry rest ih =>
    obtain ⟨key, v⟩ := entry
    have hrest : Distinct rest := hkeys.of_cons
    have hnew := hkeys.absent
    by_cases hcode : key = "default_country_code"
    · subst hcode
      rw [foldlM_cons_of_kept decodeString
        (fun code => { f with defaultCode := some code }) rfl, gives_cons_finds hnew,
        gives_cons_of_ne (by decide)]
      simp only [ih hrest, ← and_assoc, exists_and_right]
    · by_cases hrevert : key = "revert_on_loss"
      · subst hrevert
        rw [foldlM_cons_of_kept decodeBool
          (fun revert => { f with revertOnLoss := some revert }) rfl, gives_cons_finds hnew,
          gives_cons_of_ne (by decide)]
        simp only [ih hrest, and_left_comm, exists_and_left]
      · have hunknown : Found.add f (key, v) = pure f := by
          rw [Found.add, if_neg hcode, if_neg hrevert]
        rw [foldlM_cons_of_unknown hunknown, ih hrest, gives_cons_of_ne (Ne.symm hcode),
          gives_cons_of_ne (Ne.symm hrevert)]

theorem ofTable_eq_ok_iff {entries : Entries} (hkeys : Distinct entries) {s : RegulatorySection} :
    ofTable entries = .ok s ↔ Written (.table entries) s := by
  have hgives : ofTable entries = .ok s ↔
      (∃ v, ("default_country_code", v) ∈ entries ∧ decodeString v = .ok s.defaultCode) ∧
        Gives entries "revert_on_loss" (fun v b => decodeBool v = .ok b) true s.revertOnLoss := by
    rw [← gives_finds_some, ← gives_finds_getD, ofTable, bind_eq_ok_iff]
    simp only [foldlM_add_iff hkeys, bind_eq_ok_iff, required_eq_ok_iff]
    constructor
    · rintro ⟨found, ⟨hcode, hrevert⟩, code, hfound, hok⟩
      cases hok
      rw [hfound] at hcode
      exact ⟨hcode, found.revertOnLoss, hrevert, rfl⟩
    · rintro ⟨hcode, found, hrevert, hdefault⟩
      refine ⟨⟨some s.defaultCode, found⟩, ⟨hcode, hrevert⟩, s.defaultCode, rfl, ?_⟩
      rw [hdefault]
      rfl
  simp only [decodeString_eq_ok_iff, decodeBool_eq_ok_iff] at hgives
  rw [hgives]
  constructor
  · rintro ⟨⟨_, hcode, rfl⟩, hrevert⟩
    exact .table hcode hrevert
  · intro hwritten
    cases hwritten with
    | table hcode hrevert => exact ⟨⟨_, hcode, rfl⟩, hrevert⟩

theorem ofArray_eq_ok_iff {items : List Value} (hlength : items.length ≤ 2)
    {s : RegulatorySection} : ofArray items = .ok s ↔ Written (.array items) s := by
  match items, hlength with
  | [], _ => exact iff_of_false nofun nofun
  | [v], _ =>
    rw [ofArray, bind_eq_ok_iff]
    simp only [decodeString_eq_ok_iff]
    constructor
    · rintro ⟨code, rfl, hok⟩
      cases hok
      exact .code code
    · intro hwritten
      cases hwritten with
      | code code => exact ⟨code, rfl, rfl⟩
  | [v, w], _ =>
    rw [ofArray, bind_eq_ok_iff]
    simp only [bind_eq_ok_iff, decodeFirst, decodeString_eq_ok_iff, decodeBool_eq_ok_iff]
    constructor
    · rintro ⟨code, rfl, revert, rfl, hok⟩
      cases hok
      exact .both code revert
    · intro hwritten
      cases hwritten with
      | both code revert => exact ⟨code, rfl, revert, rfl, rfl⟩

theorem decode_eq_ok_iff {v : Value} (hkeys : v.Tidy) (hfits : Fits 2 v) {s : RegulatorySection} :
    decode v = .ok s ↔ Written v s := by
  cases v with
  | table entries => exact ofTable_eq_ok_iff hkeys
  | array items => exact ofArray_eq_ok_iff hfits
  | dateTime _ => cases hfits
  | string _ | integer _ | float _ | boolean _ => exact iff_of_false nofun nofun

end RegulatorySection

namespace LoggingSection

/-- A value stands for a logging section: a table, or an array of its value, or of none. -/
inductive Written : Value → LoggingSection → Prop
  | table {entries : Entries} {json : Bool}
      (hjson : Gives entries "json" (fun v b => v = .boolean b) false json) :
      Written (.table entries) ⟨json⟩
  | empty : Written (.array []) ⟨false⟩
  | json (json : Bool) : Written (.array [.boolean json]) ⟨json⟩

theorem foldlM_add_iff {entries : Entries} (hkeys : Distinct entries) {s t : LoggingSection} :
    entries.foldlM add s = .ok t ↔
      Gives entries "json" (fun v b => decodeBool v = .ok b) s.json t.json := by
  induction entries generalizing s with
  | nil =>
    rw [gives_of_absent (by simp)]
    cases s
    cases t
    simp [pure, Except.pure, eq_comm]
  | cons entry rest ih =>
    obtain ⟨key, v⟩ := entry
    have hrest : Distinct rest := hkeys.of_cons
    have hnew := hkeys.absent
    by_cases hjson : key = "json"
    · subst hjson
      rw [foldlM_cons_of_kept decodeBool (fun json => { s with json := json }) rfl,
        gives_cons_self hnew]
      simp only [ih hrest, gives_of_absent hnew, exists_eq_right']
    · have hunknown : add s (key, v) = pure s := if_neg hjson
      rw [foldlM_cons_of_unknown hunknown, ih hrest, gives_cons_of_ne (Ne.symm hjson)]

theorem ofTable_eq_ok_iff {entries : Entries} (hkeys : Distinct entries) {s : LoggingSection} :
    ofTable entries = .ok s ↔ Written (.table entries) s := by
  rw [ofTable, foldlM_add_iff hkeys]
  simp only [decodeBool_eq_ok_iff]
  constructor
  · exact .table
  · intro hwritten
    cases hwritten with
    | table hjson => exact hjson

theorem ofArray_eq_ok_iff {items : List Value} (hlength : items.length ≤ 1)
    {s : LoggingSection} : ofArray items = .ok s ↔ Written (.array items) s := by
  match items, hlength with
  | [], _ =>
    constructor
    · intro hok
      cases hok
      exact .empty
    · intro hwritten
      cases hwritten with
      | empty => rfl
  | [v], _ =>
    rw [ofArray, bind_eq_ok_iff]
    simp only [decodeFirst, decodeBool_eq_ok_iff]
    constructor
    · rintro ⟨json, rfl, hok⟩
      cases hok
      exact .json json
    · intro hwritten
      cases hwritten with
      | json json => exact ⟨json, rfl, rfl⟩

theorem decode_eq_ok_iff {v : Value} (hkeys : v.Tidy) (hfits : Fits 1 v) {s : LoggingSection} :
    decode v = .ok s ↔ Written v s := by
  cases v with
  | table entries => exact ofTable_eq_ok_iff hkeys
  | array items => exact ofArray_eq_ok_iff hfits
  | dateTime _ => cases hfits
  | string _ | integer _ | float _ | boolean _ => exact iff_of_false nofun nofun

end LoggingSection

namespace Config

/-- The entries of a document stand for a configuration. What is left out has its default. -/
structure Written (entries : Entries) (config : Config) : Prop where
  regulatory : ∃ v, ("regulatory", v) ∈ entries ∧ RegulatorySection.Written v config.regulatory
  logging : Gives entries "logging" LoggingSection.Written {} config.logging
  interfaces : Gives entries "interfaces" (fun v names => v = .array (names.map .string)) ["wlan0"]
    config.interfaces

theorem foldlM_add_iff {entries : Entries} (hkeys : Distinct entries) {f g : Found} :
    entries.foldlM Found.add f = .ok g ↔
      Gives entries "regulatory" (Finds RegulatorySection.decode) f.regulatory g.regulatory ∧
        Gives entries "logging" (Finds LoggingSection.decode) f.logging g.logging ∧
          Gives entries "interfaces" (Finds decodeStrings) f.interfaces g.interfaces := by
  induction entries generalizing f with
  | nil =>
    rw [gives_of_absent (by simp), gives_of_absent (by simp), gives_of_absent (by simp)]
    cases f
    cases g
    simp [pure, Except.pure, eq_comm]
  | cons entry rest ih =>
    obtain ⟨key, v⟩ := entry
    have hrest : Distinct rest := hkeys.of_cons
    have hnew := hkeys.absent
    -- One case for each key that means something, and one for all others. A key that has been read
    -- does not come again, so what it gave stays until the end.
    by_cases hregulatory : key = "regulatory"
    · subst hregulatory
      rw [foldlM_cons_of_kept RegulatorySection.decode
        (fun s => { f with regulatory := some s }) rfl, gives_cons_finds hnew,
        gives_cons_of_ne (by decide), gives_cons_of_ne (by decide)]
      simp only [ih hrest, ← and_assoc, exists_and_right]
    · by_cases hlogging : key = "logging"
      · subst hlogging
        rw [foldlM_cons_of_kept LoggingSection.decode
          (fun s => { f with logging := some s }) rfl, gives_cons_finds hnew,
          gives_cons_of_ne (by decide), gives_cons_of_ne (by decide)]
        simp only [ih hrest]
        constructor
        · rintro ⟨s, hs, hregulatory, hfound, hinterfaces⟩
          exact ⟨hregulatory, ⟨s, hs, hfound⟩, hinterfaces⟩
        · rintro ⟨hregulatory, ⟨s, hs, hfound⟩, hinterfaces⟩
          exact ⟨s, hs, hregulatory, hfound, hinterfaces⟩
      · by_cases hinterfaces : key = "interfaces"
        · subst hinterfaces
          rw [foldlM_cons_of_kept decodeStrings
            (fun names => { f with interfaces := some names }) rfl, gives_cons_finds hnew,
            gives_cons_of_ne (by decide), gives_cons_of_ne (by decide)]
          simp only [ih hrest, and_left_comm, exists_and_left]
        · have hunknown : Found.add f (key, v) = pure f := by
            rw [Found.add, if_neg hregulatory, if_neg hlogging, if_neg hinterfaces]
          rw [foldlM_cons_of_unknown hunknown, ih hrest, gives_cons_of_ne (Ne.symm hregulatory),
            gives_cons_of_ne (Ne.symm hlogging), gives_cons_of_ne (Ne.symm hinterfaces)]

/-- The values under the keys of sections are neither dates nor too long. -/
structure Fitting (entries : Entries) : Prop where
  regulatory : ∀ v, ("regulatory", v) ∈ entries → Fits 2 v
  logging : ∀ v, ("logging", v) ∈ entries → Fits 1 v

theorem ofEntries_eq_ok_iff {entries : Entries} (htidy : TidyDocument entries)
    (hfits : Fitting entries) {config : Config} :
    ofEntries entries = .ok config ↔ Written entries config := by
  have hgives : ofEntries entries = .ok config ↔
      (∃ v, ("regulatory", v) ∈ entries ∧ RegulatorySection.decode v = .ok config.regulatory) ∧
        Gives entries "logging" (fun v s => LoggingSection.decode v = .ok s) {} config.logging ∧
          Gives entries "interfaces" (fun v names => decodeStrings v = .ok names) ["wlan0"]
            config.interfaces := by
    rw [← gives_finds_some, ← gives_finds_getD, ← gives_finds_getD, ofEntries, bind_eq_ok_iff]
    simp only [foldlM_add_iff htidy.keys, bind_eq_ok_iff, required_eq_ok_iff]
    constructor
    · rintro ⟨found, ⟨hregulatory, hlogging, hinterfaces⟩, s, hfound, hok⟩
      cases hok
      rw [hfound] at hregulatory
      exact ⟨hregulatory, ⟨_, hlogging, rfl⟩, _, hinterfaces, rfl⟩
    · rintro ⟨hregulatory, ⟨logging, hlogging, hjson⟩, interfaces, hinterfaces, hnames⟩
      refine ⟨⟨some config.regulatory, logging, interfaces⟩, ⟨hregulatory, hlogging, hinterfaces⟩,
        config.regulatory, rfl, ?_⟩
      rw [hjson, hnames]
      rfl
  have hregulatory (v : Value) (hv : ("regulatory", v) ∈ entries) :
      RegulatorySection.decode v = .ok config.regulatory ↔
        RegulatorySection.Written v config.regulatory :=
    RegulatorySection.decode_eq_ok_iff (htidy.values _ v hv) (hfits.regulatory v hv)
  have hlogging : Gives entries "logging" (fun v s => LoggingSection.decode v = .ok s) {}
      config.logging ↔ Gives entries "logging" LoggingSection.Written {} config.logging :=
    gives_congr fun v hv =>
      LoggingSection.decode_eq_ok_iff (htidy.values _ v hv) (hfits.logging v hv)
  rw [hgives, hlogging]
  simp only [decodeStrings_eq_ok_iff]
  constructor
  · rintro ⟨⟨v, hv, hdecode⟩, hjson, hnames⟩
    exact ⟨⟨v, hv, (hregulatory v hv).1 hdecode⟩, hjson, hnames⟩
  · rintro ⟨⟨v, hv, hwritten⟩, hjson, hnames⟩
    exact ⟨⟨v, hv, (hregulatory v hv).2 hwritten⟩, hjson, hnames⟩

end Config

end Regulatory
