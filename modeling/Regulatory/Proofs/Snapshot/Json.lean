import Regulatory.Proofs.Json.Legible

/-!
The JSON form of a snapshot holds all of it.
-/

namespace Regulatory.Snapshot

open Json

theorem legible_codeJson : Legible (fun _ => True) codeJson :=
  legible_string.comp CountryCode.text_injective

theorem codeJson_beginsUnlike {c : Char} (hc : '"' ≠ c) (code : CountryCode) :
    BeginsUnlike c (codeJson code) :=
  string_beginsUnlike hc code.text

theorem nat_injective : Function.Injective nat :=
  legible_nat.injective (by simp [Closes])

theorem legible_pushJson : Legible Closes pushJson := by
  intro p q t u _ _ hsame
  have hnames : Legible (fun _ => True) (array string) :=
    legible_array legible_string.anywhere (string_beginsUnlike (by decide))
  obtain ⟨hmembers, htu⟩ := object_inj (by
    simp only [List.zip_cons_cons, List.zip_nil_left, List.forall_mem_cons]
    exact ⟨apart_of_legible legible_codeJson.anywhere _ _, apart_of_legible legible_nat _ _,
      apart_of_legible hnames.anywhere _ _, apart_of_legible legible_nat _ _,
      List.forall_mem_nil _⟩) hsame
  simp only [List.cons.injEq, Prod.mk.injEq, true_and, and_true] at hmembers
  obtain ⟨hcode, hattempted, hfailed, htime⟩ := hmembers
  refine ⟨?_, htu⟩
  cases p
  cases q
  congr
  · exact legible_codeJson.injective trivial hcode
  · exact nat_injective hattempted
  · exact hnames.injective trivial hfailed
  · exact nat_injective htime

/-- No two snapshots have the same JSON form. -/
theorem json_injective : Function.Injective json := by
  intro s s' hsame
  have hcode : Legible Closes (option codeJson) :=
    legible_option legible_codeJson.anywhere (codeJson_beginsUnlike (by decide))
  have htime : Legible Closes (option nat) :=
    legible_option legible_nat (nat_beginsUnlike (by decide))
  have hpush : Legible Closes (option pushJson) :=
    legible_option legible_pushJson fun _ => object_beginsUnlike (by decide) _
  have hnone : Closes [] := by simp [Closes]
  obtain ⟨hmembers, -⟩ := object_inj (by
    simp only [List.zip_cons_cons, List.zip_nil_left, List.forall_mem_cons]
    exact ⟨apart_of_legible hcode _ _, apart_of_legible hcode _ _,
      apart_of_legible legible_codeJson.anywhere _ _,
      apart_of_legible legible_codeJson.anywhere _ _,
      apart_of_legible legible_bool.anywhere _ _, apart_of_legible legible_bool.anywhere _ _,
      apart_of_legible htime _ _, apart_of_legible htime _ _, apart_of_legible htime _ _,
      apart_of_legible hpush _ _, List.forall_mem_nil _⟩) (congrArg (· ++ []) hsame)
  simp only [List.cons.injEq, Prod.mk.injEq, true_and, and_true] at hmembers
  obtain ⟨hdriver, htelephony, hdefault, hactive, hready, hrevert, htelephonyUpdated,
    hdriverUpdated, hreadyChanged, hlastPush⟩ := hmembers
  cases s
  cases s'
  congr
  · exact hcode.injective hnone hdriver
  · exact hcode.injective hnone htelephony
  · exact legible_codeJson.injective trivial hdefault
  · exact legible_codeJson.injective trivial hactive
  · exact legible_bool.injective trivial hready
  · exact legible_bool.injective trivial hrevert
  · exact htime.injective hnone htelephonyUpdated
  · exact htime.injective hnone hdriverUpdated
  · exact htime.injective hnone hreadyChanged
  · exact hpush.injective hnone hlastPush

end Regulatory.Snapshot
