import Colloquy.Proofs.Text.Decimal
import Colloquy.World.Flag

/-!
# Assignments — what is displayed is assigned again

What a written value is can be told from its text without the blanks at the ends (`Written`): one of
the truth values, an integer that fits into 64 bits, or else a text. Displaying a value that was
read makes a text that is this value again (`Written.written_display`). An assignment is cut at its
first equals sign, so a name without one is given any such value, whatever the value contains
(`readAssignment_append`). Only the name can be wrong with an assignment, and only by being blank
(`readAssignment_eq_error_iff`).
-/

namespace Colloquy

open Text

namespace FlagValue

variable {raw word : List Char} {v : FlagValue}

/-! ## Written values -/

/-- The value that is written as a word. -/
inductive Written : List Char → FlagValue → Prop
  | bool (b : Bool) : Written (FlagValue.bool b).display.toList (.bool b)
  | integer {word : List Char} {n : Int64} (h : Denotes word n.toInt) : Written word (.integer n)
  | text {word : List Char} (hbool : ∀ b : Bool, word ≠ (FlagValue.bool b).display.toList)
    (hinteger : ∀ n : Int64, ¬ Denotes word n.toInt) : Written word (.text (String.ofList word))

theorem bind_int64?_eq_some_iff {n : Int64} :
    (integer? word).bind int64? = some n ↔ Denotes word n.toInt := by
  constructor
  · intro h
    obtain ⟨k, hk, hn⟩ := Option.bind_eq_some_iff.1 h
    rw [int64?_eq_some_iff.1 hn]
    exact integer?_eq_some_iff.1 hk
  · intro h
    rw [integer?_eq_some_iff.2 h, Option.bind_some, int64?_eq_some_iff]

/-- No truth value is a number. -/
theorem not_denotes_display_bool (b : Bool) (k : Int) :
    ¬ Denotes (FlagValue.bool b).display.toList k := by
  have hnone : integer? (FlagValue.bool b).display.toList = none := by cases b <;> decide
  rw [← integer?_eq_some_iff, hnone]
  exact nofun

/-- A word is written for one value only. -/
theorem Written.unique {v' : FlagValue} (h : Written word v) (h' : Written word v') : v = v' := by
  cases h with
  | bool b =>
    generalize hword : (FlagValue.bool b).display.toList = word at h'
    cases h' with
    | bool b' =>
      have hsame : b = b' := by
        revert hword
        cases b <;> cases b' <;> decide
      rw [hsame]
    | integer h => exact absurd (hword ▸ h) (not_denotes_display_bool b _)
    | text hbool _ => exact absurd hword.symm (hbool b)
  | @integer word n h =>
    cases h' with
    | bool b => exact absurd h (not_denotes_display_bool b _)
    | integer h' =>
      have hsame := (bind_int64?_eq_some_iff.2 h).symm.trans (bind_int64?_eq_some_iff.2 h')
      rw [Option.some.inj hsame]
    | text _ hinteger => exact absurd h (hinteger n)
  | text hbool hinteger =>
    cases h' with
    | bool b => exact absurd rfl (hbool b)
    | integer h => exact absurd h (hinteger _)
    | text _ _ => rfl

/-- **A value is read as it is written.** -/
theorem written_read (raw : List Char) : Written (trim raw) (read raw) := by
  unfold read
  dsimp only
  split
  · next h => rw [h]; exact .bool true
  · next htrue =>
    split
    · next h => rw [h]; exact .bool false
    · next hfalse =>
      split
      · next n hn => exact .integer (bind_int64?_eq_some_iff.1 hn)
      · next hnone =>
        refine .text (fun b => ?_) fun n hn => ?_
        · cases b
          · exact hfalse
          · exact htrue
        · rw [bind_int64?_eq_some_iff.2 hn] at hnone
          cases hnone

theorem read_eq_iff : read raw = v ↔ Written (trim raw) v :=
  ⟨fun h => h ▸ written_read raw, fun h => (written_read raw).unique h⟩

/-- A text without blanks is trimmed. -/
theorem trim_of_not_isBlank (h : ∀ c ∈ word, isBlank c = false) : trim word = word :=
  trim_eq_self (fun c hc => h c (List.mem_of_mem_head? hc))
    fun c hc => h c (List.mem_of_mem_getLast? hc)

/-- **A value is displayed as a word that is written for it.** -/
theorem Written.display (h : Written word v) (htrim : trim word = word) :
    Written (trim v.display.toList) v := by
  cases h with
  | bool b =>
    rw [htrim]
    exact .bool b
  | @integer _ n _ =>
    have hdenotes : Denotes (FlagValue.integer n).display.toList n.toInt := denotes_toString n.toInt
    rw [trim_of_not_isBlank hdenotes.not_isBlank]
    exact .integer hdenotes
  | text hbool hinteger =>
    have htext : (FlagValue.text (String.ofList word)).display.toList = word :=
      String.toList_ofList
    rw [htext, htrim]
    exact .text hbool hinteger

/-- **A value that was read is displayed and read again.** -/
theorem read_display_of_read (raw : List Char) : read (read raw).display.toList = read raw :=
  read_eq_iff.2 ((written_read raw).display (trim_trim raw))

theorem read_eq_bool_iff {b : Bool} :
    read raw = .bool b ↔ trim raw = (FlagValue.bool b).display.toList := by
  rw [read_eq_iff]
  generalize trim raw = word
  constructor
  · intro h
    cases h with
    | bool b => rfl
  · rintro rfl
    exact .bool b

theorem read_eq_integer_iff {n : Int64} : read raw = .integer n ↔ Denotes (trim raw) n.toInt := by
  rw [read_eq_iff]
  generalize trim raw = word
  constructor
  · intro h
    cases h with
    | integer h => exact h
  · exact .integer

/-- An integer that no flag can hold is text. -/
theorem not_denotes_iff :
    (∀ n : Int64, ¬ Denotes word n.toInt) ↔
      ∀ k, Denotes word k → k < Int64.minValue.toInt ∨ Int64.maxValue.toInt < k := by
  constructor
  · intro h k hk
    rw [← int64?_eq_none_iff, Option.eq_none_iff_forall_ne_some]
    intro n hn
    rw [← int64?_eq_some_iff.1 hn] at hk
    exact h n hk
  · intro h n hn
    have hrange := h n.toInt hn
    have hlow := Int64.minValue_le_toInt n
    have hhigh := Int64.toInt_le n
    omega

theorem read_eq_text_iff {s : String} :
    read raw = .text s ↔ s.toList = trim raw ∧
      (∀ b : Bool, trim raw ≠ (FlagValue.bool b).display.toList) ∧
      ∀ k, Denotes (trim raw) k → k < Int64.minValue.toInt ∨ Int64.maxValue.toInt < k := by
  rw [read_eq_iff, ← not_denotes_iff]
  generalize trim raw = word
  constructor
  · intro h
    cases h with
    | text hbool hinteger => exact ⟨String.toList_ofList, hbool, hinteger⟩
  · rintro ⟨rfl, hbool, hinteger⟩
    have h := Written.text hbool hinteger
    rwa [String.ofList_toList] at h

/-! ## Assignments -/

/-- A name that an assignment can give a value to. -/
structure Assignable (name : String) : Prop where
  filled : name ≠ ""
  trimmed : Text.trimmed name = name
  uncut : '=' ∉ name.toList

/-- A value that a flag is given: a truth value, an integer, or what a text is read as. -/
inductive Given : FlagValue → Prop
  | bool (b : Bool) : Given (.bool b)
  | integer (n : Int64) : Given (.integer n)
  | read (raw : List Char) : Given (read raw)

/-- **A given value is displayed and read again.** -/
theorem Given.read_display (h : Given v) : FlagValue.read v.display.toList = v := by
  cases h with
  | bool b => cases b <;> decide
  | integer n =>
    have hdenotes : Denotes (FlagValue.integer n).display.toList n.toInt := denotes_toString n.toInt
    rw [read_eq_integer_iff, trim_of_not_isBlank hdenotes.not_isBlank]
    exact hdenotes
  | read raw => exact read_display_of_read raw

/-- **An assignment is cut behind its name**, whatever the value contains. -/
theorem readAssignment_append {name : String} (h : Assignable name) (value : String) :
    readAssignment (name ++ "=" ++ value) = .ok (name, FlagValue.read value.toList) := by
  have hcut : cut '=' (name ++ "=" ++ value).toList = some (name.toList, value.toList) := by
    rw [String.toList_append, String.toList_append, List.append_assoc]
    exact cut_append h.uncut value.toList
  have hback : String.ofList (trim name.toList) = name := h.trimmed
  have hfilled : trim name.toList ≠ [] := fun hnil => h.filled (by rw [← hback, hnil])
  rw [readAssignment, hcut]
  show (if trim name.toList = [] then _ else _) = _
  rw [if_neg hfilled, hback]

/-- The name of an assignment is what stands in front of the first equals sign. -/
theorem exists_readAssignment_eq (raw : String) :
    ∃ value, readAssignment raw =
      if trim (raw.toList.takeWhile (· ≠ '=')) = [] then .error ⟨raw⟩
      else .ok (String.ofList (trim (raw.toList.takeWhile (· ≠ '='))), value) := by
  rw [readAssignment]
  cases hcut : cut '=' raw.toList with
  | none =>
    have hfront : raw.toList.takeWhile (· ≠ '=') = raw.toList :=
      List.takeWhile_eq_self_iff.2 fun c hc => by
        simpa using fun heq : c = '=' => cut_eq_none.1 hcut (heq ▸ hc)
    rw [hfront]
    exact ⟨_, rfl⟩
  | some parts =>
    obtain ⟨name, value⟩ := parts
    obtain ⟨htext, huncut⟩ := cut_eq_some hcut
    have hfront : raw.toList.takeWhile (· ≠ '=') = name := by
      rw [htext, List.takeWhile_append_of_pos fun c hc => by
        simpa using fun heq : c = '=' => huncut (heq ▸ hc), List.takeWhile_cons_of_neg (by simp),
        List.append_nil]
    rw [hfront]
    exact ⟨_, rfl⟩

/-- **An assignment fails just if it has no name**: all is blank in front of the first equals sign,
or everywhere if there is none. -/
theorem readAssignment_eq_error_iff {raw : String} {e : NamelessAssignment} :
    readAssignment raw = .error e ↔
      e = ⟨raw⟩ ∧ ∀ c ∈ raw.toList.takeWhile (· ≠ '='), isBlank c = true := by
  obtain ⟨value, hread⟩ := exists_readAssignment_eq raw
  rw [hread, ← trim_eq_nil_iff]
  split
  · next hblank =>
    rw [Except.error.injEq, eq_comm, and_iff_left hblank]
  · next hfilled => exact iff_of_false nofun fun h => hfilled h.2

/-- **What is displayed is assigned again.** A name that an assignment can give a value to is given
any truth value, any integer and whatever a text is read as by its display, so displaying a value
that was read and reading it again gives it back. A text is read as a truth value just if it is its
word, as an integer just if it denotes one in range, and else as the text that it is. An assignment
fails just if all is blank in front of its first equals sign. -/
theorem assignments_round_trip :
    (∀ name v, Assignable name → Given v →
      readAssignment (name ++ "=" ++ v.display) = .ok (name, v)) ∧
    (∀ raw, read (read raw).display.toList = read raw) ∧
    (∀ raw (b : Bool), read raw = .bool b ↔ trim raw = (if b then "true" else "false").toList) ∧
    (∀ raw (n : Int64), read raw = .integer n ↔ Denotes (trim raw) n.toInt) ∧
    (∀ raw s, read raw = .text s ↔ s.toList = trim raw ∧
      (∀ b : Bool, trim raw ≠ (if b then "true" else "false").toList) ∧
      ∀ k, Denotes (trim raw) k → k < Int64.minValue.toInt ∨ Int64.maxValue.toInt < k) ∧
    ∀ raw e, readAssignment raw = .error e ↔
      e = ⟨raw⟩ ∧ ∀ c ∈ raw.toList.takeWhile (· ≠ '='), isBlank c = true := by
  have hword : ∀ b : Bool, (if b then "true" else "false") = (FlagValue.bool b).display := by decide
  simp only [hword]
  refine ⟨fun name v hname hv => ?_, read_display_of_read, fun _ _ => read_eq_bool_iff,
    fun _ _ => read_eq_integer_iff, fun _ _ => read_eq_text_iff,
    fun _ _ => readAssignment_eq_error_iff⟩
  rw [readAssignment_append hname, hv.read_display]

/-- At the least integer, at one more than the greatest and at a text with an equals sign. -/
theorem assignments_round_trip_brink :
    Assignable "lamp oil" ∧ Given (.integer Int64.minValue) ∧
      readAssignment "lamp oil=-9223372036854775808" = .ok ("lamp oil", .integer Int64.minValue) ∧
      readAssignment "lamp oil=+9223372036854775808" =
        .ok ("lamp oil", .text "+9223372036854775808") ∧
      readAssignment "lamp oil=a = b" = .ok ("lamp oil", .text "a = b") := by
  have hname : Assignable "lamp oil" := ⟨by decide, by decide, by decide⟩
  have hleast := assignments_round_trip.1 "lamp oil" (.integer Int64.minValue) hname (.integer _)
  have hmore := assignments_round_trip.1 "lamp oil" (read " +9223372036854775808 ".toList) hname
    (.read _)
  have hcut := assignments_round_trip.1 "lamp oil" (read "\ta = b".toList) hname (.read _)
  exact ⟨hname, .integer _, hleast, hmore, hcut⟩

end FlagValue

end Colloquy
