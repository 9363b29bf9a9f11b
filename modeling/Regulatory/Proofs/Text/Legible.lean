import Mathlib.Data.List.Basic
import Regulatory.Snapshot

/-!
Texts that can be read back in one way only, whatever is written behind them.
-/

namespace Regulatory

variable {α β : Type} {stop : List Char → Prop}

/-- What is written can be told apart from what follows it, and one value from another. `stop` says
what may follow. -/
def Legible (stop : List Char → Prop) (write : α → List Char) : Prop :=
  ∀ a b t u, stop t → stop u → write a ++ t = write b ++ u → a = b ∧ t = u

theorem Legible.injective {write : α → List Char} (hwrite : Legible stop write) (hstop : stop []) :
    Function.Injective write := by
  intro a b hsame
  exact (hwrite a b [] [] hstop hstop (congrArg (· ++ []) hsame)).1

theorem Legible.comp {write : β → List Char} (hwrite : Legible stop write) {f : α → β}
    (hf : Function.Injective f) : Legible stop fun a => write (f a) := by
  intro a b t u ht hu hsame
  obtain ⟨hab, htu⟩ := hwrite (f a) (f b) t u ht hu hsame
  exact ⟨hf hab, htu⟩

theorem Legible.anywhere {write : α → List Char} (hwrite : Legible (fun _ => True) write) :
    Legible stop write :=
  fun a b t u _ _ hsame => hwrite a b t u trivial trivial hsame

/-- A run of characters of one class ends where the first character of another one stands. -/
theorem run_inj {p : Char → Bool} {x y t u : List Char} (hx : ∀ c ∈ x, p c = true)
    (hy : ∀ c ∈ y, p c = true) (ht : ∀ c ∈ t.head?, p c = false) (hu : ∀ c ∈ u.head?, p c = false)
    (hsame : x ++ t = y ++ u) : x = y ∧ t = u := by
  have hnone {s : List Char} (hs : ∀ c ∈ s.head?, p c = false) : s.takeWhile p = [] := by
    cases s with
    | nil => rfl
    | cons c s => simp [hs c rfl]
  have hrun := congrArg (List.takeWhile p) hsame
  rw [List.takeWhile_append_of_pos hx, List.takeWhile_append_of_pos hy, hnone ht, hnone hu,
    List.append_nil, List.append_nil] at hrun
  subst hrun
  exact ⟨rfl, List.append_cancel_left hsame⟩

theorem toDigits_injective : Function.Injective (Nat.toDigits 10) := by
  intro m n hsame
  have hread := congrArg (fun digits => Nat.ofDigitChars 10 digits 0) hsame
  simpa [Nat.ofDigitChars_ten_toDigits] using hread

theorem isDigit_toDigits (n : Nat) : ∀ c ∈ Nat.toDigits 10 n, c.isDigit = true := by
  intro c hc
  exact Nat.isDigit_of_mem_toDigits (by decide) (by decide) hc

/-- A value that may be absent is legible if the word for its absence cannot be taken for the
beginning of a value. -/
theorem Legible.elim {write : α → List Char} (hwrite : Legible stop write) (word : List Char)
    (hword : ∀ a t u, stop t → stop u → word ++ t ≠ write a ++ u) :
    Legible stop fun o : Option α => o.elim word write := by
  intro a b t u ht hu hsame
  cases a with
  | none =>
    cases b with
    | none => exact ⟨rfl, List.append_cancel_left hsame⟩
    | some b => exact absurd hsame (hword b t u ht hu)
  | some a =>
    cases b with
    | none => exact absurd hsame.symm (hword a u t hu ht)
    | some b =>
      obtain ⟨hab, htu⟩ := hwrite a b t u ht hu hsame
      exact ⟨congrArg some hab, htu⟩

end Regulatory
