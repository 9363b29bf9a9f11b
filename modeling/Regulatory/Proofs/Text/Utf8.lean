import Mathlib.Tactic.SplitIfs
import Regulatory.Text.Utf8

/-!
The decoder takes exactly the texts that the standard encoder gives, and gives them back.
-/

namespace Regulatory.Text.Utf8

theorem lead?_two {b : Nat} (hge : 0xC2 ≤ b) (hle : b ≤ 0xDF) :
    lead? b = some ⟨b - 0xC0, 1, 1, 0x80, 0xBF⟩ := by
  simp [lead?, hge, hle]

theorem lead?_three {b : Nat} (hge : 0xE0 ≤ b) (hle : b ≤ 0xEF) :
    ∃ lo hi, lead? b = some ⟨b - 0xE0, 1, 2, lo, hi⟩ ∧ (b = 0xE0 → lo = 0xA0) ∧
      (b ≠ 0xE0 → lo = 0x80) ∧ (b = 0xED → hi = 0x9F) ∧ (b ≠ 0xED → hi = 0xBF) := by
  have htwo : ¬b ≤ 0xDF := by omega
  by_cases hoverlong : b = 0xE0
  · subst hoverlong
    exact ⟨0xA0, 0xBF, rfl, by omega⟩
  by_cases hsurrogate : b = 0xED
  · subst hsurrogate
    exact ⟨0x80, 0x9F, rfl, by omega⟩
  · have hrest : 0xE1 ≤ b := by omega
    exact ⟨0x80, 0xBF, by simp [lead?, htwo, hoverlong, hsurrogate, hrest, hle], by omega⟩

theorem lead?_four {b : Nat} (hge : 0xF0 ≤ b) (hle : b ≤ 0xF4) :
    ∃ lo hi, lead? b = some ⟨b - 0xF0, 1, 3, lo, hi⟩ ∧ (b = 0xF0 → lo = 0x90) ∧
      (b ≠ 0xF0 → lo = 0x80) ∧ (b = 0xF4 → hi = 0x8F) ∧ (b ≠ 0xF4 → hi = 0xBF) := by
  by_cases hoverlong : b = 0xF0
  · subst hoverlong
    exact ⟨0x90, 0xBF, rfl, by omega⟩
  by_cases hbeyond : b = 0xF4
  · subst hbeyond
    exact ⟨0x80, 0x8F, rfl, by omega⟩
  · obtain rfl | rfl | rfl : b = 0xF1 ∨ b = 0xF2 ∨ b = 0xF3 := by omega
    · exact ⟨0x80, 0xBF, rfl, by omega⟩
    · exact ⟨0x80, 0xBF, rfl, by omega⟩
    · exact ⟨0x80, 0xBF, rfl, by omega⟩

theorem bounds_of_lead? {b : Nat} {p : Pending} (hlead : lead? b = some p) :
    0xC2 ≤ b ∧ b ≤ 0xF4 := by
  unfold lead? at hlead
  simp only [Bool.and_eq_true, decide_eq_true_eq, beq_iff_eq] at hlead
  split_ifs at hlead
  all_goals omega

theorem push_owed (p : Pending) (b : Nat) : (p.push b).owed = p.owed - 1 := rfl

theorem push_code (p : Pending) (b : Nat) : (p.push b).code = p.code * 64 + (b - 0x80) := rfl

theorem push_lo (p : Pending) (b : Nat) : (p.push b).lo = 0x80 := rfl

theorem push_hi (p : Pending) (b : Nat) : (p.push b).hi = 0xBF := rfl

/-- The bytes that make an unfinished character whole, and its code then. -/
inductive Completes : Pending → List UInt8 → Nat → Prop
  | last {p : Pending} {b : UInt8} {n : Nat} (hlo : p.lo ≤ b.toNat) (hhi : b.toNat ≤ p.hi)
      (howed : (p.push b.toNat).owed = 0) (hcode : (p.push b.toNat).code = n) : Completes p [b] n
  | more {p : Pending} {b : UInt8} {todo : List UInt8} {n : Nat} (hlo : p.lo ≤ b.toNat)
      (hhi : b.toNat ≤ p.hi) (howed : (p.push b.toNat).owed ≠ 0)
      (hrest : Completes (p.push b.toNat) todo n) : Completes p (b :: todo) n

theorem Completes.one {p : Pending} {todo : List UInt8} {n : Nat} (hwhole : Completes p todo n)
    (howed : p.owed = 1) : ∃ b : UInt8, todo = [b] ∧ p.lo ≤ b.toNat ∧ b.toNat ≤ p.hi ∧
      n = p.code * 64 + (b.toNat - 0x80) := by
  cases hwhole with
  | last hlo hhi _ hcode => exact ⟨_, rfl, hlo, hhi, hcode.symm⟩
  | more _ _ howed' _ =>
    rw [push_owed] at howed'
    omega

theorem Completes.succ {p : Pending} {todo : List UInt8} {n : Nat} (hwhole : Completes p todo n)
    (howed : 1 < p.owed) : ∃ (b : UInt8) (rest : List UInt8), todo = b :: rest ∧
      p.lo ≤ b.toNat ∧ b.toNat ≤ p.hi ∧ Completes (p.push b.toNat) rest n := by
  cases hwhole with
  | last _ _ howed' _ =>
    rw [push_owed] at howed'
    omega
  | more hlo hhi _ hrest => exact ⟨_, _, rfl, hlo, hhi, hrest⟩

theorem decodeFrom_of_completes {p : Pending} {todo : List UInt8} {n : Nat}
    (hwhole : Completes p todo n) (pos : Nat) (rest : List UInt8) :
    ∃ pos', decodeFrom pos (some p) (todo ++ rest) =
      (decodeFrom pos' none rest).map (Char.ofNat n :: ·) := by
  induction hwhole with
  | @last p b n hlo hhi howed hcode =>
    refine ⟨pos + (p.push b.toNat).seen, ?_⟩
    simp [decodeFrom, hlo, hhi, howed, hcode]
  | more hlo hhi howed _ ih =>
    obtain ⟨pos', hrest⟩ := ih
    refine ⟨pos', ?_⟩
    simp [decodeFrom, hlo, hhi, howed, hrest]

theorem completes_of_decodeFrom {p : Pending} {bytes : List UInt8} {pos : Nat} {text : List Char}
    (hdecode : decodeFrom pos (some p) bytes = .ok text) :
    ∃ todo rest n pos' tail, bytes = todo ++ rest ∧ Completes p todo n ∧
      decodeFrom pos' none rest = .ok tail ∧ text = Char.ofNat n :: tail := by
  induction bytes generalizing p with
  | nil => cases hdecode
  | cons b rest ih =>
    rw [decodeFrom] at hdecode
    split at hdecode
    · rename_i hbounds
      simp only [Bool.and_eq_true, decide_eq_true_eq] at hbounds
      obtain ⟨hlo, hhi⟩ := hbounds
      simp only [beq_iff_eq] at hdecode
      split at hdecode
      · rename_i howed
        cases hrest : decodeFrom (pos + (p.push b.toNat).seen) none rest with
        | error fault => simp [hrest, Except.map] at hdecode
        | ok tail =>
          simp only [hrest, Except.map, Except.ok.injEq] at hdecode
          exact ⟨[b], rest, _, _, tail, rfl, .last hlo hhi howed rfl, hrest, hdecode.symm⟩
      · rename_i howed
        obtain ⟨todo, rest', n, pos', tail, rfl, hwhole, hrest, rfl⟩ := ih hdecode
        exact ⟨b :: todo, rest', n, pos', tail, rfl, .more hlo hhi howed hwhole, hrest, rfl⟩
    · cases hdecode

theorem ofNat_eq {x : Nat} {b : UInt8} (hx : x = b.toNat) : UInt8.ofNat x = b := by
  rw [hx, UInt8.ofNat_toNat]

theorem toNat_ofNat {n : Nat} (hvalid : n.isValidChar) : (Char.ofNat n).val.toNat = n := by
  rw [Char.ofNat, dif_pos hvalid]
  rfl

/-- A character that is made whole has the bytes that the encoder gives it. -/
theorem encode_of_completes {b : UInt8} {p : Pending} {todo : List UInt8} {n : Nat}
    (hlead : lead? b.toNat = some p) (hwhole : Completes p todo n) :
    String.utf8EncodeChar (Char.ofNat n) = b :: todo := by
  obtain ⟨hge, hle⟩ := bounds_of_lead? hlead
  by_cases htwo : b.toNat ≤ 0xDF
  · rw [lead?_two hge htwo, Option.some.injEq] at hlead
    subst hlead
    obtain ⟨b₁, rfl, hlo₁, hhi₁, hn⟩ := hwhole.one rfl
    dsimp only at hlo₁ hhi₁ hn
    have hvalid : n.isValidChar := .inl (by omega)
    rw [String.utf8EncodeChar, toNat_ofNat hvalid, if_neg (by omega), if_pos (by omega),
      ofNat_eq (b := b) (by omega), ofNat_eq (b := b₁) (by omega)]
  by_cases hthree : b.toNat ≤ 0xEF
  · obtain ⟨lo, hi, hkind, hbounds⟩ := lead?_three (by omega) hthree
    rw [hkind, Option.some.injEq] at hlead
    subst hlead
    obtain ⟨b₁, rest, rfl, hlo₁, hhi₁, hrest⟩ := hwhole.succ (by simp)
    obtain ⟨b₂, rfl, hlo₂, hhi₂, hn⟩ := hrest.one rfl
    simp only [push_lo, push_hi, push_code] at hlo₁ hhi₁ hlo₂ hhi₂ hn
    have hvalid : n.isValidChar := by
      unfold Nat.isValidChar
      omega
    rw [String.utf8EncodeChar, toNat_ofNat hvalid, if_neg (by omega), if_neg (by omega),
      if_pos (by omega), ofNat_eq (b := b) (by omega), ofNat_eq (b := b₁) (by omega),
      ofNat_eq (b := b₂) (by omega)]
  · obtain ⟨lo, hi, hkind, hbounds⟩ := lead?_four (by omega) hle
    rw [hkind, Option.some.injEq] at hlead
    subst hlead
    obtain ⟨b₁, rest, rfl, hlo₁, hhi₁, hrest⟩ := hwhole.succ (by simp)
    obtain ⟨b₂, rest, rfl, hlo₂, hhi₂, hrest⟩ := hrest.succ (by simp [push_owed])
    obtain ⟨b₃, rfl, hlo₃, hhi₃, hn⟩ := hrest.one rfl
    simp only [push_lo, push_hi, push_code] at hlo₁ hhi₁ hlo₂ hhi₂ hlo₃ hhi₃ hn
    have hvalid : n.isValidChar := by
      unfold Nat.isValidChar
      omega
    rw [String.utf8EncodeChar, toNat_ofNat hvalid, if_neg (by omega), if_neg (by omega),
      if_neg (by omega), ofNat_eq (b := b) (by omega), ofNat_eq (b := b₁) (by omega),
      ofNat_eq (b := b₂) (by omega), ofNat_eq (b := b₃) (by omega)]

theorem toNat_eq {x : Nat} (hx : x < 256) : (UInt8.ofNat x).toNat = x :=
  UInt8.toNat_ofNat_of_lt hx

/-- The bytes of a character beyond ASCII are a first byte and what makes it whole. -/
theorem completes_of_encode {c : Char} (hlong : 0x80 ≤ c.val.toNat) :
    ∃ b p todo, String.utf8EncodeChar c = b :: todo ∧ lead? b.toNat = some p ∧
      Completes p todo c.val.toNat := by
  have hvalid : c.val.toNat.isValidChar := c.valid
  generalize hn : c.val.toNat = n at hlong hvalid
  rw [String.utf8EncodeChar, hn, if_neg (by omega)]
  unfold Nat.isValidChar at hvalid
  have hlast : (UInt8.ofNat (n % 64 + 128)).toNat = n % 64 + 128 := toNat_eq (by omega)
  have hmiddle : (UInt8.ofNat (n / 64 % 64 + 128)).toNat = n / 64 % 64 + 128 :=
    toNat_eq (by omega)
  by_cases htwo : n ≤ 0x7ff
  · rw [if_pos htwo]
    have hfirst : (UInt8.ofNat (n / 64 % 32 + 192)).toNat = n / 64 % 32 + 192 :=
      toNat_eq (by omega)
    have hlead := lead?_two (b := n / 64 % 32 + 192) (by omega) (by omega)
    refine ⟨_, _, _, rfl, by rw [hfirst, hlead], .last ?_ ?_ rfl ?_⟩
    all_goals simp only [push_code, hlast]
    all_goals omega
  rw [if_neg htwo]
  by_cases hthree : n ≤ 0xffff
  · rw [if_pos hthree]
    have hfirst : (UInt8.ofNat (n / 4096 % 16 + 224)).toNat = n / 4096 % 16 + 224 :=
      toNat_eq (by omega)
    obtain ⟨lo, hi, hlead, hbounds⟩ := lead?_three (b := n / 4096 % 16 + 224) (by omega) (by omega)
    refine ⟨_, _, _, rfl, by rw [hfirst, hlead],
      .more ?_ ?_ (by simp [push_owed]) (.last ?_ ?_ rfl ?_)⟩
    all_goals simp only [push_code, push_lo, push_hi, hmiddle, hlast]
    all_goals omega
  · rw [if_neg hthree]
    have hfirst : (UInt8.ofNat (n / 262144 % 8 + 240)).toNat = n / 262144 % 8 + 240 :=
      toNat_eq (by omega)
    have hsecond : (UInt8.ofNat (n / 4096 % 64 + 128)).toNat = n / 4096 % 64 + 128 :=
      toNat_eq (by omega)
    obtain ⟨lo, hi, hlead, hbounds⟩ := lead?_four (b := n / 262144 % 8 + 240) (by omega) (by omega)
    refine ⟨_, _, _, rfl, by rw [hfirst, hlead], .more ?_ ?_ (by simp [push_owed])
      (.more ?_ ?_ (by simp [push_owed]) (.last ?_ ?_ rfl ?_))⟩
    all_goals simp only [push_code, push_lo, push_hi, hsecond, hmiddle, hlast]
    all_goals omega

theorem ascii_iff (b : UInt8) : b < 0x80 ↔ b.toNat < 0x80 :=
  UInt8.lt_iff_toNat_lt

/-- The bytes of the first character are taken off together. -/
theorem decodeFrom_cons (c : Char) (pos : Nat) (rest : List UInt8) :
    ∃ pos', decodeFrom pos none (String.utf8EncodeChar c ++ rest) =
      (decodeFrom pos' none rest).map (c :: ·) := by
  have hc : Char.ofNat c.val.toNat = c := Char.ofNat_toNat c
  by_cases hlong : 0x80 ≤ c.val.toNat
  · obtain ⟨b, p, todo, hencode, hlead, hwhole⟩ := completes_of_encode hlong
    obtain ⟨pos', hdecode⟩ := decodeFrom_of_completes hwhole pos rest
    have hb : ¬b < 0x80 := by
      have hbounds := bounds_of_lead? hlead
      rw [ascii_iff]
      omega
    refine ⟨pos', ?_⟩
    rw [hencode, List.cons_append, decodeFrom, if_neg hb]
    simp only [hlead, hdecode, hc]
  · have hbyte : (UInt8.ofNat c.val.toNat).toNat = c.val.toNat := toNat_eq (by omega)
    have hb : UInt8.ofNat c.val.toNat < 0x80 := by
      rw [ascii_iff]
      omega
    refine ⟨pos + 1, ?_⟩
    rw [String.utf8EncodeChar, if_pos (by omega), List.singleton_append, decodeFrom, if_pos hb,
      hbyte, hc]

theorem decode_encode (text : List Char) :
    decode (text.flatMap String.utf8EncodeChar) = .ok text := by
  suffices hfrom : ∀ pos, decodeFrom pos none (text.flatMap String.utf8EncodeChar) = .ok text from
    hfrom 0
  induction text with
  | nil =>
    intro pos
    rfl
  | cons c rest ih =>
    intro pos
    obtain ⟨pos', hcons⟩ := decodeFrom_cons c pos (rest.flatMap String.utf8EncodeChar)
    rw [List.flatMap_cons, hcons, ih]
    rfl

theorem encode_of_decodeFrom {pos : Nat} {bytes : List UInt8} {text : List Char}
    (hdecode : decodeFrom pos none bytes = .ok text) :
    bytes = text.flatMap String.utf8EncodeChar := by
  induction hlength : bytes.length using Nat.strongRecOn generalizing pos bytes text with
  | ind length ih =>
    cases bytes with
    | nil =>
      cases hdecode
      rfl
    | cons b rest =>
      rw [decodeFrom] at hdecode
      split at hdecode
      · rename_i hb
        rw [ascii_iff] at hb
        cases hrest : decodeFrom (pos + 1) none rest with
        | error fault => simp [hrest, Except.map] at hdecode
        | ok tail =>
          simp only [hrest, Except.map, Except.ok.injEq] at hdecode
          have hbyte : String.utf8EncodeChar (Char.ofNat b.toNat) = [b] := by
            rw [String.utf8EncodeChar, toNat_ofNat (.inl (by omega)), if_pos (by omega),
              ofNat_eq rfl]
          have hshorter : rest.length < length := by
            rw [← hlength, List.length_cons]
            omega
          have htail := ih rest.length hshorter hrest rfl
          rw [← hdecode, List.flatMap_cons, hbyte, ← htail]
          rfl
      · split at hdecode
        · rename_i p hlead
          obtain ⟨todo, rest', n, pos', tail, rfl, hwhole, hrest, rfl⟩ :=
            completes_of_decodeFrom hdecode
          have hshorter : rest'.length < length := by
            rw [← hlength, List.length_cons, List.length_append]
            omega
          have htail := ih rest'.length hshorter hrest rfl
          rw [List.flatMap_cons, encode_of_completes hlead hwhole, ← htail]
          rfl
        · cases hdecode

/-- Valid UTF-8 is what comes of encoding some text, and then the text is found again. -/
theorem decode_eq_ok_iff (bytes : List UInt8) (text : List Char) :
    decode bytes = .ok text ↔ bytes = text.flatMap String.utf8EncodeChar := by
  constructor
  · exact encode_of_decodeFrom
  · rintro rfl
    exact decode_encode text

end Regulatory.Text.Utf8
