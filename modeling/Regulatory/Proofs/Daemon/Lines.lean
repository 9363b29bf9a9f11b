import Regulatory.Daemon
import Regulatory.Proofs.Text.Utf8

/-!
The daemon's input as lines, and what a line asks for. Only the lines before the first one that
quits or is not UTF-8 count, and of these only the ones with a command.
-/

namespace Regulatory

/-- The request that a command makes of the event loop. -/
def Command.request? : Command → Option Request
  | ready value => some (.ready value)
  | country raw => some (.country raw)
  | dump => some .dump
  | quit => none

namespace Daemon

/-- The lines of some bytes. A line ends with a line feed, and a carriage return right before it is
part of the end; the last line may lack its end. -/
inductive Lines : List UInt8 → List (List UInt8) → Prop
  | empty : Lines [] []
  | unended {line : List UInt8} (hsome : line ≠ []) (hfeed : 10 ∉ line) : Lines line [line]
  | ended {line rest : List UInt8} {lines : List (List UInt8)} (hfeed : 10 ∉ line)
      (hreturn : line.getLast? ≠ some 13) (hrest : Lines rest lines) :
      Lines (line ++ 10 :: rest) (line :: lines)
  | returned {line rest : List UInt8} {lines : List (List UInt8)} (hfeed : 10 ∉ line)
      (hrest : Lines rest lines) : Lines (line ++ 13 :: 10 :: rest) (line :: lines)

theorem lines_go {line : List UInt8} (hfeed : 10 ∉ line) (bytes : List UInt8) :
    Lines (line.reverse ++ bytes) (splitLines.go line bytes) := by
  induction bytes generalizing line with
  | nil =>
    cases line with
    | nil => exact .empty
    | cons b line =>
      rw [List.append_nil]
      exact .unended (by simp) fun hmem => hfeed (List.mem_reverse.1 hmem)
  | cons b rest ih =>
    have hrest : Lines rest (splitLines.go [] rest) := ih List.not_mem_nil
    rw [splitLines.go]
    by_cases hb : b = 10
    · subst hb
      rw [if_pos rfl]
      -- A carriage return is the last byte so far, which is the first one kept.
      cases line with
      | nil => exact .ended hfeed (by simp) hrest
      | cons a line =>
        by_cases ha : a = 13
        · subst ha
          have hline : 10 ∉ line.reverse := by simpa using hfeed
          simpa [splitLines.withoutReturn] using Lines.returned hline hrest
        · have hline : 10 ∉ (a :: line).reverse := fun hmem => hfeed (List.mem_reverse.1 hmem)
          have hkept : splitLines.withoutReturn (a :: line) = a :: line := by
            simp [splitLines.withoutReturn, ha]
          rw [hkept]
          exact .ended hline (by simpa using ha) hrest
    · rw [if_neg hb]
      have hline : 10 ∉ b :: line := by simpa [Ne.symm hb] using hfeed
      simpa using ih hline

theorem lines_splitLines (bytes : List UInt8) : Lines bytes (splitLines bytes) :=
  lines_go List.not_mem_nil bytes

theorem go_append (line bytes rest : List UInt8) :
    splitLines.go line (bytes ++ 10 :: rest) =
      splitLines.go line (bytes ++ [10]) ++ splitLines rest := by
  induction bytes generalizing line with
  | nil => simp [splitLines.go, splitLines]
  | cons b bytes ih =>
    simp only [List.cons_append, splitLines.go, ih]
    split <;> simp

/-- Bytes behind a line end make lines of their own. -/
theorem splitLines_append (bytes rest : List UInt8) :
    splitLines (bytes ++ 10 :: rest) = splitLines (bytes ++ [10]) ++ splitLines rest :=
  go_append [] bytes rest

/-- Lines that are whole stand apart from what comes later. -/
theorem splitLines_splitUnfinished (bytes later : List UInt8) :
    splitLines (bytes ++ later) = splitLines (splitUnfinished bytes).1 ++
      splitLines ((splitUnfinished bytes).2 ++ later) := by
  have hbytes : (splitUnfinished bytes).1 ++ (splitUnfinished bytes).2 = bytes := by
    rw [splitUnfinished, ← List.reverse_append, List.takeWhile_append_dropWhile,
      List.reverse_reverse]
  have hhead := List.head?_dropWhile_not (fun b : UInt8 => decide (b ≠ 10)) bytes.reverse
  have hwhole : (splitUnfinished bytes).1 =
      (bytes.reverse.dropWhile fun b => decide (b ≠ 10)).reverse := rfl
  generalize bytes.reverse.dropWhile (fun b => decide (b ≠ 10)) = reversed at hhead hwhole
  cases reversed with
  | nil =>
    rw [hwhole, List.reverse_nil, List.nil_append] at hbytes
    rw [hwhole, hbytes]
    rfl
  | cons b rest =>
    obtain rfl : b = 10 := by simpa using hhead
    rw [List.reverse_cons] at hwhole
    have hcut : bytes ++ later = rest.reverse ++ 10 :: ((splitUnfinished bytes).2 ++ later) :=
      calc bytes ++ later
          = (splitUnfinished bytes).1 ++ (splitUnfinished bytes).2 ++ later := by rw [hbytes]
        _ = rest.reverse ++ 10 :: ((splitUnfinished bytes).2 ++ later) := by
          rw [hwhole, List.append_assoc, List.append_assoc, List.singleton_append]
    rw [hcut, hwhole, splitLines_append]

/-- The fault of a line that is not UTF-8. -/
def faultIn? (line : List UInt8) : Option Text.Utf8.Fault :=
  match Text.Utf8.decode line with
  | .ok _ => none
  | .error fault => some fault

def isUtf8 (line : List UInt8) : Bool :=
  (faultIn? line).isNone

/-- The command of a line, if it is one. -/
def commandOf? (line : List UInt8) : Option Command :=
  match Text.Utf8.decode line with
  | .ok text => (Command.parse (String.ofList text)).toOption
  | .error _ => none

/-- A line that is blank or that is no command. -/
def isIgnored (line : List UInt8) : Bool :=
  match Text.Utf8.decode line with
  | .ok text => Text.isBlank text || (Command.parse (String.ofList text)).toOption.isNone
  | .error _ => false

/-- The daemon reads on after this line. -/
def goesOn (line : List UInt8) : Bool :=
  isUtf8 line && commandOf? line != some .quit

/-- What is requested by the lines that the daemon gets to serve, in order. -/
def requestsOf (lines : List (List UInt8)) : List Request :=
  (lines.takeWhile goesOn).filterMap fun line => (commandOf? line).bind Command.request?

/-- The fault of the line that the daemon cannot read, if it comes to one. -/
def faultOf? (lines : List (List UInt8)) : Option Text.Utf8.Fault :=
  (lines.find? fun line => !goesOn line).bind faultIn?

/-- Being UTF-8 does not hang on the decoder. -/
theorem isUtf8_iff (line : List UInt8) :
    isUtf8 line = true ↔ ∃ text : List Char, line = text.flatMap String.utf8EncodeChar := by
  unfold isUtf8 faultIn?
  cases hdecode : Text.Utf8.decode line with
  | ok text => simpa using ⟨text, (Text.Utf8.decode_eq_ok_iff line text).1 hdecode⟩
  | error fault =>
    refine iff_of_false (by simp) ?_
    rintro ⟨text, htext⟩
    rw [(Text.Utf8.decode_eq_ok_iff line text).2 htext] at hdecode
    cases hdecode

theorem goesOn_iff (line : List UInt8) :
    goesOn line = true ↔ isUtf8 line = true ∧ commandOf? line ≠ some .quit := by
  simp [goesOn]

theorem isUtf8_of_command {line : List UInt8} {command : Command}
    (hcommand : commandOf? line = some command) : isUtf8 line = true := by
  unfold commandOf? at hcommand
  cases hdecode : Text.Utf8.decode line with
  | ok text => simp [isUtf8, faultIn?, hdecode]
  | error fault => simp [hdecode] at hcommand

/-- A blank line or one without a command is read over. -/
theorem goesOn_of_isIgnored {line : List UInt8} (hignored : isIgnored line = true) :
    goesOn line = true ∧ commandOf? line = none := by
  unfold isIgnored at hignored
  rw [goesOn_iff]
  unfold isUtf8 faultIn? commandOf?
  cases hdecode : Text.Utf8.decode line with
  | error fault => simp [hdecode] at hignored
  | ok text =>
    simp only [hdecode, Bool.or_eq_true] at hignored
    have hnone : (Command.parse (String.ofList text)).toOption = none := by
      obtain hblank | hparse := hignored
      · rw [Command.parse_of_isBlank (by simpa using hblank)]
        rfl
      · exact Option.isNone_iff_eq_none.1 hparse
    simp [hnone]

theorem requestsOf_cons (line : List UInt8) (rest : List (List UInt8)) :
    requestsOf (line :: rest) =
      if goesOn line then ((commandOf? line).bind Command.request?).toList ++ requestsOf rest
      else [] := by
  unfold requestsOf
  rw [List.takeWhile_cons]
  split
  · rw [List.filterMap_cons]
    cases (commandOf? line).bind Command.request? <;> rfl
  · rfl

theorem faultOf?_cons (line : List UInt8) (rest : List (List UInt8)) :
    faultOf? (line :: rest) = if goesOn line then faultOf? rest else faultIn? line := by
  unfold faultOf?
  rw [List.find?_cons]
  cases goesOn line <;> rfl

/-- Ignored lines may come and go. -/
theorem filter_isIgnored (lines : List (List UInt8)) :
    requestsOf (lines.filter fun line => !isIgnored line) = requestsOf lines ∧
      faultOf? (lines.filter fun line => !isIgnored line) = faultOf? lines := by
  induction lines with
  | nil => exact ⟨rfl, rfl⟩
  | cons line rest ih =>
    obtain ⟨hrequests, hfault⟩ := ih
    cases hignored : isIgnored line with
    | false =>
      rw [List.filter_cons_of_pos (by simp [hignored])]
      simp only [requestsOf_cons, faultOf?_cons, hrequests, hfault, and_self]
    | true =>
      obtain ⟨hgoes, hnone⟩ := goesOn_of_isIgnored hignored
      rw [List.filter_cons_of_neg (by simp [hignored])]
      simp [requestsOf_cons, faultOf?_cons, hgoes, hnone, hrequests, hfault]

/-- Some line is not UTF-8, and no line before it quits. -/
def Broken (lines : List (List UInt8)) : Prop :=
  ∃ before line after, lines = before ++ line :: after ∧
    (∀ l ∈ before, commandOf? l ≠ some .quit) ∧
    ¬∃ text : List Char, line = text.flatMap String.utf8EncodeChar

theorem broken_cons {line : List UInt8} (hutf8 : isUtf8 line = true)
    (rest : List (List UInt8)) :
    Broken (line :: rest) ↔ commandOf? line ≠ some .quit ∧ Broken rest := by
  constructor
  · rintro ⟨before, bad, after, hsplit, hreads, hbad⟩
    cases before with
    | nil =>
      obtain ⟨rfl, _⟩ := List.cons.inj hsplit
      exact absurd ((isUtf8_iff line).1 hutf8) hbad
    | cons head before =>
      obtain ⟨rfl, rfl⟩ := List.cons.inj hsplit
      obtain ⟨hline, hreads⟩ := List.forall_mem_cons.1 hreads
      exact ⟨hline, before, bad, after, rfl, hreads, hbad⟩
  · rintro ⟨hline, before, bad, after, rfl, hreads, hbad⟩
    exact ⟨line :: before, bad, after, rfl, List.forall_mem_cons.2 ⟨hline, hreads⟩, hbad⟩

/-- The daemon comes to every line that it cannot read if no earlier line quits. -/
theorem faultOf?_isSome_iff (lines : List (List UInt8)) :
    (faultOf? lines).isSome = true ↔ Broken lines := by
  induction lines with
  | nil => simp [faultOf?, Broken]
  | cons line rest ih =>
    rw [faultOf?_cons]
    cases hutf8 : isUtf8 line with
    | false =>
      have hfault : (faultIn? line).isSome = true := by simpa [isUtf8] using hutf8
      have hbroken : Broken (line :: rest) := by
        refine ⟨[], line, rest, rfl, by simp, ?_⟩
        rw [← isUtf8_iff, hutf8]
        simp
      simp [goesOn, hutf8, hfault, hbroken]
    | true =>
      have hnone : faultIn? line = none := by simpa [isUtf8] using hutf8
      rw [broken_cons hutf8, ← ih]
      by_cases hquit : commandOf? line = some .quit
      · simp [goesOn, hquit, hnone]
      · simp [goesOn, hutf8, hquit]

end Daemon

end Regulatory
