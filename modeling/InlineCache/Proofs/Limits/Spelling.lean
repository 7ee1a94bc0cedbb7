import InlineCache.Limits.Environment
import Mathlib.Data.List.Induction
import Mathlib.Data.List.TakeWhile
import Mathlib.Data.Nat.Digits.Defs

/-!
# How a limit is spelled

A text spells a number if it consists of the decimal digits of the number, any number of zeros
before them included, after one plus sign at most, and with white space around. The reader of limits
takes exactly the texts that spell a positive number below `2 ^ 64`, and reads what they spell.

## Main definitions

* `Numeral`: digits and their value
* `Signed`: digits after one plus sign at most
* `Spells`: the whole text, white space included

## Main results

* `Text.exists_eq_append_trim`, `Text.trim_append`: what trimming takes off
* `readNat_eq_some_iff`: the reader of digits
* `readLimit_eq_some_iff`: the reader of limits
-/

namespace InlineCache

namespace Text

variable {before body after cs : List Char}

/-- Trimming takes white space off both ends. -/
theorem exists_eq_append_trim (cs : List Char) :
    ∃ before after, cs = before ++ trim cs ++ after ∧ (∀ c ∈ before, isBlank c = true) ∧
      ∀ c ∈ after, isBlank c = true := by
  have front := List.takeWhile_append_dropWhile (p := isBlank) (l := cs)
  have back := List.takeWhile_append_dropWhile (p := isBlank) (l := (cs.dropWhile isBlank).reverse)
  refine ⟨cs.takeWhile isBlank, ((cs.dropWhile isBlank).reverse.takeWhile isBlank).reverse, ?_,
    fun c mem => List.mem_takeWhile_imp mem,
    fun c mem => List.mem_takeWhile_imp (List.mem_reverse.1 mem)⟩
  rw [trim, List.append_assoc, ← List.reverse_append, back, List.reverse_reverse, front]

/-- White space around a text that neither starts nor ends with any is trimmed off. -/
theorem trim_append (some : body ≠ []) (first : ∀ c ∈ body.head?, isBlank c = false)
    (last : ∀ c ∈ body.getLast?, isBlank c = false) (blank : ∀ c ∈ before, isBlank c = true)
    (blank' : ∀ c ∈ after, isBlank c = true) : trim (before ++ body ++ after) = body := by
  have front : (before ++ body ++ after).dropWhile isBlank = body ++ after := by
    rw [List.append_assoc, List.dropWhile_append_of_pos blank]
    obtain ⟨c, rest, rfl⟩ := List.exists_cons_of_ne_nil some
    simp [first c rfl]
  have back : (body ++ after).reverse.dropWhile isBlank = body.reverse := by
    rw [List.reverse_append, List.dropWhile_append_of_pos (by simpa using blank')]
    obtain ⟨rest, c, rfl⟩ := (List.eq_nil_or_concat body).resolve_left some
    simp [last c (by simp)]
  rw [trim, front, back, List.reverse_reverse]

/-- A digit is no white space. -/
theorem isBlank_of_isDigit {c : Char} (digit : c.isDigit = true) : isBlank c = false := by
  simp only [Char.isDigit, Bool.and_eq_true, decide_eq_true_eq, ge_iff_le, UInt32.le_iff_toNat_le]
    at digit
  rw [Bool.eq_false_iff, isBlank, Ne, inRanges_iff]
  simp only [blankRanges, List.mem_cons, List.not_mem_nil, or_false, not_exists, not_and]
  rintro range (rfl | rfl | rfl | rfl | rfl | rfl | rfl | rfl | rfl | rfl) low <;>
    simp at low digit ⊢ <;> omega

end Text

/-- One or more decimal digits, the last of them worth the least, and their value. -/
structure Numeral (digits : List Char) (n : Nat) : Prop where
  nonempty : digits ≠ []
  decimal : ∀ c ∈ digits, c.isDigit = true
  value : n = Nat.ofDigits 10 (digits.reverse.map fun c => c.toNat - '0'.toNat)

/-- A numeral after one plus sign at most. -/
inductive Signed : List Char → Nat → Prop where
  /-- There is no sign. -/
  | plain {digits : List Char} {n : Nat} (numeral : Numeral digits n) : Signed digits n
  /-- There is one. -/
  | plus {digits : List Char} {n : Nat} (numeral : Numeral digits n) : Signed ('+' :: digits) n

/-- **The grammar of a limit**: a numeral after one plus sign at most, with white space around. -/
def Spells (raw : String) (n : Nat) : Prop :=
  ∃ before body after, raw.toList = before ++ body ++ after ∧ Signed body n ∧
    (∀ c ∈ before, Text.isBlank c = true) ∧ ∀ c ∈ after, Text.isBlank c = true

variable {raw : String} {cs : List Char} {n : Nat}

/-- Digits that are read from the front have the value of their positions. -/
theorem foldl_eq_ofDigits (cs : List Char) :
    cs.foldl (fun n c => 10 * n + (c.toNat - '0'.toNat)) 0 =
      Nat.ofDigits 10 (cs.reverse.map fun c => c.toNat - '0'.toNat) := by
  induction cs using List.reverseRecOn with
  | nil => rfl
  | append_singleton cs c ih =>
    rw [List.foldl_append, ih, List.reverse_concat, List.map_cons, Nat.ofDigits_cons]
    exact Nat.add_comm ..

/-- **The reader of digits** takes exactly the numerals. -/
theorem readNat_eq_some_iff : readNat cs = some n ↔ Numeral cs n := by
  unfold readNat
  split
  · next refused =>
    refine iff_of_false (by simp) fun numeral => ?_
    rw [Bool.or_eq_true, List.isEmpty_iff, List.any_eq_true] at refused
    rcases refused with rfl | ⟨c, mem, other⟩
    · exact numeral.nonempty rfl
    · rw [numeral.decimal c mem] at other
      cases other
  · next taken =>
    simp only [Bool.or_eq_true, List.isEmpty_iff, List.any_eq_true, Bool.not_eq_true', not_or,
      not_exists, not_and, Bool.not_eq_false] at taken
    rw [Option.some.injEq, foldl_eq_ofDigits]
    exact ⟨fun value => ⟨taken.1, taken.2, value.symm⟩, fun numeral => numeral.value.symm⟩

theorem readNat_dropPlus_eq_some_iff : readNat (dropPlus cs) = some n ↔ Signed cs n := by
  rw [readNat_eq_some_iff]
  constructor
  · intro numeral
    unfold dropPlus at numeral
    split at numeral
    · exact .plus numeral
    · exact .plain numeral
  · intro signed
    cases signed with
    | plus numeral => exact numeral
    | plain numeral =>
      unfold dropPlus
      split
      · next rest =>
        have sign := numeral.decimal '+' (List.mem_cons_self ..)
        cases sign
      · exact numeral

/-- A signed numeral neither starts nor ends with white space. -/
theorem Signed.trim_append {before body after : List Char} (signed : Signed body n)
    (blank : ∀ c ∈ before, Text.isBlank c = true) (blank' : ∀ c ∈ after, Text.isBlank c = true) :
    Text.trim (before ++ body ++ after) = body := by
  have solid : ∀ c ∈ body, Text.isBlank c = false := by
    cases signed with
    | plain numeral => exact fun c mem => Text.isBlank_of_isDigit (numeral.decimal c mem)
    | plus numeral =>
      rw [List.forall_mem_cons]
      exact ⟨by decide, fun c mem => Text.isBlank_of_isDigit (numeral.decimal c mem)⟩
  have nonempty : body ≠ [] := by
    cases signed with
    | plain numeral => exact numeral.nonempty
    | plus numeral => exact List.cons_ne_nil _ _
  exact Text.trim_append nonempty (fun c head => solid c (List.mem_of_mem_head? head))
    (fun c last => solid c (List.mem_of_mem_getLast? last)) blank blank'

/-- **The reader of limits** takes exactly the texts that spell a positive number below `2 ^ 64`. -/
theorem readLimit_eq_some_iff :
    readLimit raw = some n ↔ Spells raw n ∧ 1 ≤ n ∧ n ≤ 2 ^ 64 - 1 := by
  have range : (0 < n ∧ n < Nat.pow 2 64) ↔ 1 ≤ n ∧ n ≤ 2 ^ 64 - 1 :=
    and_congr Iff.rfl (Nat.lt_iff_le_pred (by decide))
  rw [readLimit, Option.filter_eq_some_iff, decide_eq_true_eq, range,
    readNat_dropPlus_eq_some_iff]
  refine and_congr_left' ⟨fun signed => ?_, ?_⟩
  · obtain ⟨before, after, text, blank, blank'⟩ := Text.exists_eq_append_trim raw.toList
    exact ⟨before, _, after, text, signed, blank, blank'⟩
  · rintro ⟨before, body, after, text, signed, blank, blank'⟩
    rwa [text, signed.trim_append blank blank']

/-- A text spells one number at most. -/
theorem Spells.unique {m : Nat} (first : Spells raw m) (second : Spells raw n) : m = n := by
  have read {k : Nat} (spells : Spells raw k) :
      readNat (dropPlus (Text.trim raw.toList)) = some k := by
    obtain ⟨before, body, after, text, signed, blank, blank'⟩ := spells
    rwa [text, signed.trim_append blank blank', readNat_dropPlus_eq_some_iff]
  exact Option.some.inj ((read first).symm.trans (read second))

end InlineCache
