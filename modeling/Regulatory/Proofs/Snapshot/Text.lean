import Regulatory.Proofs.Text.Legible

/-!
What the text form of a snapshot tells. Nothing is escaped in it, and a code may hold line ends and
spell whatever looks like other fields; but no code holds a lower-case letter, and all that the form
itself writes behind a value goes on with one.
-/

namespace Regulatory.Snapshot

/-- What may stand behind a value: one character that is no lower-case letter, then one that is. -/
def FieldEnd (t : List Char) : Prop :=
  ∃ c l rest, t = c :: l :: rest ∧ c.isLower = false ∧ l.isLower = true

/-- Values without lower-case letters end where the first such letter is to be seen. -/
theorem legible_of_isLower {α : Type} {write : α → List Char}
    (hcapital : ∀ a, ∀ c ∈ write a, c.isLower = false) (hinj : Function.Injective write) :
    Legible FieldEnd write := by
  rintro a b _ _ ⟨c, l, t, rfl, hc, hl⟩ ⟨d, m, u, rfl, hd, hm⟩ hsame
  have hclass {x : α} {e : Char} (he : e.isLower = false) :
      ∀ f ∈ write x ++ [e], (!f.isLower) = true := by
    intro f hf
    rcases List.mem_append.1 hf with hf | hf
    · simp [hcapital x f hf]
    · simp [List.mem_singleton.1 hf, he]
  have hrun : (write a ++ [c]) ++ l :: t = (write b ++ [d]) ++ m :: u := by
    simpa using hsame
  obtain ⟨hvalues, hrest⟩ := run_inj (hclass hc) (hclass hd) (by simp [hl]) (by simp [hm]) hrun
  obtain ⟨hab, hcd⟩ := List.append_inj' hvalues rfl
  obtain ⟨rfl, -⟩ := List.cons.inj hcd
  exact ⟨hinj hab, congrArg (c :: ·) hrest⟩

theorem isLower_iff {c : Char} : c.isLower = true ↔ 97 ≤ c.toNat ∧ c.toNat ≤ 122 := by
  change (decide (c.val ≥ 97) && decide (c.val ≤ 122)) = true ↔ _
  rw [Bool.and_eq_true, decide_eq_true_iff, decide_eq_true_iff]
  exact Iff.rfl

theorem isLower_codeText (code : CountryCode) : ∀ c ∈ codeText code, c.isLower = false := by
  intro c hc
  have hupper : c.toUpper = c := by
    obtain ⟨n, hn⟩ := List.mem_iff_getElem?.1 hc
    have hmap := congrArg (·[n]?) code.upper_text
    simp only [codeText] at hn
    simpa [hn] using hmap
  by_contra hlower
  have hrange := isLower_iff.1 (Bool.not_eq_false _ ▸ hlower)
  have hcapital := CountryCode.toNat_toUpper hrange
  rw [hupper] at hcapital
  omega

theorem isLower_toDigits (n : Nat) : ∀ c ∈ Nat.toDigits 10 n, c.isLower = false := by
  intro c hc
  have hdigit := isDigit_toDigits n c hc
  rw [Char.isDigit_iff_toNat] at hdigit
  by_contra hlower
  have hrange := isLower_iff.1 (Bool.not_eq_false _ ▸ hlower)
  have hnine : '9'.toNat = 57 := rfl
  omega

theorem legible_codeText : Legible FieldEnd codeText := by
  refine legible_of_isLower isLower_codeText fun code code' hsame => ?_
  exact CountryCode.text_injective (String.toList_inj.1 hsame)

theorem legible_toDigits : Legible FieldEnd (Nat.toDigits 10) :=
  legible_of_isLower isLower_toDigits toDigits_injective

/-- The word `none` is told from any value by its first letter. -/
theorem none_ne_append {v t u : List Char} (hv : ∀ c ∈ v, c.isLower = false) (hu : FieldEnd u) :
    "none".toList ++ t ≠ v ++ u := by
  intro hsame
  obtain ⟨d, l, rest, rfl, hd, _⟩ := hu
  cases v with
  | nil =>
    obtain ⟨rfl, -⟩ := List.cons.inj hsame
    cases hd
  | cons c v =>
    obtain ⟨rfl, -⟩ := List.cons.inj hsame
    cases hv _ List.mem_cons_self

theorem legible_orNone {α : Type} {write : α → List Char} (hwrite : Legible FieldEnd write)
    (hcapital : ∀ a, ∀ c ∈ write a, c.isLower = false) : Legible FieldEnd (orNone write) := by
  have helim : orNone write = fun o => o.elim "none".toList write := by
    funext o
    cases o <;> rfl
  rw [helim]
  exact hwrite.elim _ fun a t u _ hu => none_ne_append (hcapital a) hu

theorem legible_toString : Legible FieldEnd fun b : Bool => (toString b).toList := by
  intro a b t u _ _ hsame
  cases a <;> cases b <;> simp [toString] at hsame ⊢
  · exact hsame
  · exact hsame

theorem FieldEnd.append {s : List Char} (hs : FieldEnd s) (t : List Char) : FieldEnd (s ++ t) := by
  obtain ⟨c, l, rest, rfl, hc, hl⟩ := hs
  exact ⟨c, l, rest ++ t, rfl, hc, hl⟩

theorem fieldEnd_to : FieldEnd " to ".toList :=
  ⟨' ', 't', _, rfl, rfl, rfl⟩

theorem fieldEnd_interfaces : FieldEnd " interface(s), failed: [".toList :=
  ⟨' ', 'i', _, rfl, rfl, rfl⟩

/-- A line can be read back if the label of another one follows it. -/
theorem line_inj {α : Type} {write : α → List Char} (hwrite : Legible FieldEnd write)
    {label next : String} (hnext : FieldEnd ('\n' :: next.toList)) {a b : α} {v w t u : List Char}
    (hsame : line label (write a) ++ (line next v ++ t) =
      line label (write b) ++ (line next w ++ u)) :
    a = b ∧ line next v ++ t = line next w ++ u := by
  have hvalue : write a ++ ('\n' :: next.toList ++ (": ".toList ++ v ++ ['\n'] ++ t)) =
      write b ++ ('\n' :: next.toList ++ (": ".toList ++ w ++ ['\n'] ++ u)) := by
    simpa [line] using hsame
  obtain ⟨hab, hrest⟩ := hwrite a b _ _ (hnext.append _) (hnext.append _) hvalue
  refine ⟨hab, ?_⟩
  simpa [line] using hrest

/-- What the text form shows of a push: not when it was, and of those that failed only what their
names come to when they are joined. -/
def shownPush (p : PushReport) : CountryCode × Nat × String :=
  (p.code, p.attempted, ", ".intercalate p.failed)

theorem pushText_eq_iff (p q : PushReport) :
    pushText p = pushText q ↔ shownPush p = shownPush q := by
  simp only [shownPush, Prod.mk.injEq]
  constructor
  · intro hsame
    simp only [pushText, List.append_assoc] at hsame
    obtain ⟨hcode, hrest⟩ := legible_codeText _ _ _ _ (fieldEnd_to.append _) (fieldEnd_to.append _)
      hsame
    obtain ⟨hattempted, hrest⟩ := legible_toDigits _ _ _ _ (fieldEnd_interfaces.append _)
      (fieldEnd_interfaces.append _) (List.append_cancel_left hrest)
    have hfailed := List.append_cancel_right (List.append_cancel_left hrest)
    exact ⟨hcode, hattempted, String.toList_inj.1 hfailed⟩
  · rintro ⟨hcode, hattempted, hfailed⟩
    rw [pushText, pushText, hcode, hattempted, hfailed]

theorem none_ne_pushText (p : PushReport) : "none".toList ≠ pushText p := by
  intro hsame
  simp only [pushText, List.append_assoc] at hsame
  exact none_ne_append (t := []) (isLower_codeText p.code) (fieldEnd_to.append _)
    ((List.append_nil _).trans hsame)

theorem orNone_pushText_eq_iff (a b : Option PushReport) :
    orNone pushText a = orNone pushText b ↔ a.map shownPush = b.map shownPush := by
  cases a with
  | none =>
    cases b with
    | none => exact iff_of_true rfl rfl
    | some q => exact iff_of_false (none_ne_pushText q) nofun
  | some p =>
    cases b with
    | none => exact iff_of_false (none_ne_pushText p).symm nofun
    | some q => exact (pushText_eq_iff p q).trans (Option.some_inj (a := shownPush p)).symm

/-- Two snapshots that look the same to a reader of the text form. -/
structure LooksLike (s s' : Snapshot) : Prop where
  driver : s.driver = s'.driver
  telephony : s.telephony = s'.telephony
  defaultCode : s.defaultCode = s'.defaultCode
  active : s.active = s'.active
  ready : s.ready = s'.ready
  revertOnLoss : s.revertOnLoss = s'.revertOnLoss
  telephonyUpdated : s.telephonyUpdated = s'.telephonyUpdated
  driverUpdated : s.driverUpdated = s'.driverUpdated
  readyChanged : s.readyChanged = s'.readyChanged
  lastPush : s.lastPush.map shownPush = s'.lastPush.map shownPush

theorem LooksLike.text_eq {s s' : Snapshot} (hlike : s.LooksLike s') : s.text = s'.text := by
  have hpush := (orNone_pushText_eq_iff s.lastPush s'.lastPush).2 hlike.lastPush
  rw [text, text, hlike.driver, hlike.telephony, hlike.defaultCode, hlike.active, hlike.ready,
    hlike.revertOnLoss, hlike.telephonyUpdated, hlike.driverUpdated, hlike.readyChanged, hpush]

theorem looksLike_of_text {s s' : Snapshot} (hsame : s.text = s'.text) : s.LooksLike s' := by
  have hcode := legible_orNone legible_codeText isLower_codeText
  have htime := legible_orNone legible_toDigits isLower_toDigits
  simp only [text, List.append_assoc] at hsame
  obtain ⟨hdriver, hsame⟩ := line_inj hcode ⟨_, _, _, rfl, rfl, rfl⟩ hsame
  obtain ⟨htelephony, hsame⟩ := line_inj hcode ⟨_, _, _, rfl, rfl, rfl⟩ hsame
  obtain ⟨hdefault, hsame⟩ := line_inj legible_codeText ⟨_, _, _, rfl, rfl, rfl⟩ hsame
  obtain ⟨hactive, hsame⟩ := line_inj legible_codeText ⟨_, _, _, rfl, rfl, rfl⟩ hsame
  obtain ⟨htelephonyUpdated, hsame⟩ := line_inj htime ⟨_, _, _, rfl, rfl, rfl⟩ hsame
  obtain ⟨hdriverUpdated, hsame⟩ := line_inj htime ⟨_, _, _, rfl, rfl, rfl⟩ hsame
  obtain ⟨hreadyChanged, hsame⟩ := line_inj htime ⟨_, _, _, rfl, rfl, rfl⟩ hsame
  obtain ⟨hready, hsame⟩ := line_inj legible_toString ⟨_, _, _, rfl, rfl, rfl⟩ hsame
  obtain ⟨hrevert, hsame⟩ := line_inj (t := []) (u := []) legible_toString
    ⟨_, _, _, rfl, rfl, rfl⟩ (by simpa only [List.append_nil] using hsame)
  have hpush : orNone pushText s.lastPush = orNone pushText s'.lastPush := by
    simpa [line] using hsame
  exact ⟨hdriver, htelephony, hdefault, hactive, hready, hrevert, htelephonyUpdated, hdriverUpdated,
    hreadyChanged, (orNone_pushText_eq_iff _ _).1 hpush⟩

/-- Equal texts tell the same of everything that a text shows, and of nothing more: the time of the
last push and the bounds of the names in it are not in the text. -/
theorem text_eq_iff (s s' : Snapshot) : s.text = s'.text ↔ s.LooksLike s' :=
  ⟨looksLike_of_text, LooksLike.text_eq⟩

end Regulatory.Snapshot
