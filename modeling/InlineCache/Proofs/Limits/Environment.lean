import InlineCache.Proofs.Limits.Spelling

/-!
# What an environment sets

An environment that switches the other variables off leaves the standard limits. Any other one is
taken if the text of each variable spells a positive number that fits in a word, and then sets each
limit to this number, or leaves the standard one if the variable is not set. The first text that
does not is reported as it stands, the variable of the chain before that of the hierarchy; that a
limit is zero is never reported. Limits that come from here, and from the builders, are positive and
fit in a word.

## Main definitions

* `Ignores`: the environment switches the other variables off
* `Gives`, `Refuses`: a variable gives a limit a value, or its text is refused
* `Limits.Obtainable`: limits that a client can come to

## Main results

* `ofEnvironment_cases`: an environment is taken, or one text is refused
* `Limits.environment_grammar`: what an environment sets, and what it reports
-/

namespace InlineCache

/-- The environment switches the other variables off. -/
def Ignores (lookup : String → Option String) : Prop :=
  ∃ text, lookup ignoreVariable = some text ∧ text ≠ "" ∧ text ≠ "0"

/-- The number fits in a word, and is positive. -/
def InRange (n : Nat) : Prop := 1 ≤ n ∧ n ≤ 2 ^ 64 - 1

/-- The value of either limit. -/
def Limits.value (limits : Limits) : Limit → Nat
  | .chain => limits.chain
  | .hierarchy => limits.hierarchy

/-- The environment gives the limit a value: the standard one, or the number that a text spells. -/
inductive Gives (lookup : String → Option String) (limit : Limit) : Nat → Prop where
  /-- The variable is not set. -/
  | unset (missing : lookup limit.envName = none) : Gives lookup limit (Limits.standard.value limit)
  /-- The variable is set to a text that spells a number in range. -/
  | spelled {raw : String} {n : Nat} (text : lookup limit.envName = some raw)
    (spells : Spells raw n) (range : InRange n) : Gives lookup limit n

/-- The variable of the limit is set to a text that spells no number in range. -/
structure Refuses (lookup : String → Option String) (limit : Limit) (raw : String) : Prop where
  text : lookup limit.envName = some raw
  spells_none : ¬ ∃ n, Spells raw n ∧ InRange n

namespace Limits

/-- Limits that a client can come to. A builder is given a word. -/
inductive Obtainable : Limits → Prop where
  /-- The limits where nothing else is set. -/
  | standard : Obtainable standard
  /-- The limits that an environment sets. -/
  | environment {lookup : String → Option String} {limits : Limits}
    (taken : ofEnvironment lookup = .ok limits) : Obtainable limits
  /-- Another limit of cached nodes. -/
  | chain {limits changed : Limits} {n : Nat} (before : Obtainable limits) (word : n ≤ 2 ^ 64 - 1)
    (taken : limits.withChain n = .ok changed) : Obtainable changed
  /-- Another limit of walked classes. -/
  | hierarchy {limits changed : Limits} {n : Nat} (before : Obtainable limits)
    (word : n ≤ 2 ^ 64 - 1) (taken : limits.withHierarchy n = .ok changed) : Obtainable changed

end Limits

variable {lookup : String → Option String} {limit : Limit} {limits : Limits} {raw : String}
  {m n : Nat} {error : LimitsError}

theorem isSwitchedOn_iff : isSwitchedOn (lookup ignoreVariable) = true ↔ Ignores lookup := by
  unfold Ignores
  cases lookup ignoreVariable <;> simp [isSwitchedOn]

/-! ## One variable -/

/-- A variable gives one value at most. -/
theorem Gives.unique (first : Gives lookup limit m) (second : Gives lookup limit n) : m = n := by
  cases first with
  | unset missing =>
    cases second with
    | unset _ => rfl
    | spelled text spells range => simp [missing] at text
  | spelled text spells range =>
    cases second with
    | unset missing => simp [missing] at text
    | spelled text' spells' range' =>
      obtain rfl := Option.some.inj (text.symm.trans text')
      exact spells.unique spells'

/-- A variable that gives a value is not refused. -/
theorem Gives.not_refuses (gives : Gives lookup limit n) : ¬ Refuses lookup limit raw := by
  rintro ⟨text, none⟩
  cases gives with
  | unset missing => simp [missing] at text
  | spelled text' spells range =>
    obtain rfl := Option.some.inj (text.symm.trans text')
    exact none ⟨_, spells, range⟩

theorem Refuses.raw_eq {raw' : String} (first : Refuses lookup limit raw)
    (second : Refuses lookup limit raw') : raw' = raw :=
  Option.some.inj (second.text.symm.trans first.text)

theorem Gives.inRange (gives : Gives lookup limit n) : InRange n := by
  cases gives with
  | unset _ => cases limit <;> exact ⟨by decide, by decide⟩
  | spelled _ _ range => exact range

/-- **The reading of one variable** gives a value, or its text is refused. -/
theorem limitOf_cases (lookup : String → Option String) (limit : Limit) :
    (∃ given, limitOf lookup limit = .ok given ∧
        Gives lookup limit (given.getD (Limits.standard.value limit))) ∨
      ∃ raw, limitOf lookup limit = .error (.unparsable limit raw) ∧ Refuses lookup limit raw := by
  unfold limitOf
  cases text : lookup limit.envName with
  | none => exact .inl ⟨none, rfl, .unset text⟩
  | some raw =>
    cases read : readLimit raw with
    | some n =>
      obtain ⟨spells, range⟩ := readLimit_eq_some_iff.1 read
      exact .inl ⟨some n, by simp [read], .spelled text spells range⟩
    | none =>
      refine .inr ⟨raw, by simp [read], text, ?_⟩
      rintro ⟨n, spells, range⟩
      rw [readLimit_eq_some_iff.2 ⟨spells, range⟩] at read
      cases read

/-! ## The whole environment -/

namespace Limits

theorem eq_of_value_eq {a b : Limits} (same : ∀ limit, a.value limit = b.value limit) : a = b := by
  have chain : a.chain = b.chain := same .chain
  have hierarchy : a.hierarchy = b.hierarchy := same .hierarchy
  cases a
  cases b
  simp_all

/-- **An environment is taken, or one text is refused**: that of the chain, or that of the hierarchy
if the other one is not. -/
theorem ofEnvironment_cases (heeded : ¬ Ignores lookup) :
    (∃ limits, ofEnvironment lookup = .ok limits ∧
        ∀ limit, Gives lookup limit (limits.value limit)) ∨
      (∃ raw, ofEnvironment lookup = .error (.unparsable .chain raw) ∧
        Refuses lookup .chain raw) ∨
      ∃ n raw, ofEnvironment lookup = .error (.unparsable .hierarchy raw) ∧
        Gives lookup .chain n ∧ Refuses lookup .hierarchy raw := by
  have off : isSwitchedOn (lookup ignoreVariable) = false :=
    Bool.eq_false_iff.2 fun on => heeded (isSwitchedOn_iff.1 on)
  rcases limitOf_cases lookup .chain with ⟨chain, read, gives⟩ | ⟨raw, read, refuses⟩
  · rcases limitOf_cases lookup .hierarchy with ⟨hierarchy, read', gives'⟩ | ⟨raw, read', refuses⟩
    · refine .inl ⟨⟨_, _, gives.inRange.1, gives'.inRange.1⟩, ?_, ?_⟩
      · have chain_pos : 0 < chain.getD standard.chain := gives.inRange.1
        have hierarchy_pos : 0 < hierarchy.getD standard.hierarchy := gives'.inRange.1
        simp [ofEnvironment, off, read, read', withChain, withHierarchy, chain_pos, hierarchy_pos,
          bind, Except.bind, value]
      · rintro (_ | _)
        · exact gives
        · exact gives'
    · refine .inr (.inr ⟨_, raw, ?_, gives, refuses⟩)
      simp [ofEnvironment, off, read, read', bind, Except.bind]
  · refine .inr (.inl ⟨raw, ?_, refuses⟩)
    simp [ofEnvironment, off, read, bind, Except.bind]

theorem ofEnvironment_eq_ok_iff (heeded : ¬ Ignores lookup) :
    ofEnvironment lookup = .ok limits ↔ ∀ limit, Gives lookup limit (limits.value limit) := by
  rcases ofEnvironment_cases heeded with
    ⟨taken, read, gives⟩ | ⟨raw, read, refuses⟩ | ⟨n, raw, read, -, refuses⟩
  · rw [read, Except.ok.injEq]
    constructor
    · rintro rfl
      exact gives
    · exact fun gives' => eq_of_value_eq fun limit => (gives limit).unique (gives' limit)
  · exact iff_of_false (by simp [read]) fun gives => (gives .chain).not_refuses refuses
  · exact iff_of_false (by simp [read]) fun gives => (gives .hierarchy).not_refuses refuses

theorem ofEnvironment_eq_error_iff (heeded : ¬ Ignores lookup) :
    ofEnvironment lookup = .error error ↔
      (∃ raw, Refuses lookup .chain raw ∧ error = .unparsable .chain raw) ∨
        (¬ ∃ raw, Refuses lookup .chain raw) ∧
          ∃ raw, Refuses lookup .hierarchy raw ∧ error = .unparsable .hierarchy raw := by
  rcases ofEnvironment_cases heeded with
    ⟨taken, read, gives⟩ | ⟨raw, read, refuses⟩ | ⟨n, raw, read, gives, refuses⟩
  · refine iff_of_false (by simp [read]) ?_
    rintro (⟨raw, refuses, -⟩ | ⟨-, raw, refuses, -⟩)
    · exact (gives .chain).not_refuses refuses
    · exact (gives .hierarchy).not_refuses refuses
  · rw [read, Except.error.injEq]
    constructor
    · rintro rfl
      exact .inl ⟨raw, refuses, rfl⟩
    · rintro (⟨raw', refuses', rfl⟩ | ⟨none, -⟩)
      · rw [refuses.raw_eq refuses']
      · exact absurd ⟨raw, refuses⟩ none
  · rw [read, Except.error.injEq]
    constructor
    · rintro rfl
      exact .inr ⟨fun ⟨_, other⟩ => gives.not_refuses other, raw, refuses, rfl⟩
    · rintro (⟨raw', other, -⟩ | ⟨-, raw', refuses', rfl⟩)
      · exact absurd other gives.not_refuses
      · rw [refuses.raw_eq refuses']

/-- Limits that a client can come to are positive, and fit in a word. -/
theorem Obtainable.inRange (obtainable : Obtainable limits) (limit : Limit) :
    InRange (limits.value limit) := by
  induction obtainable with
  | standard => cases limit <;> exact ⟨by decide, by decide⟩
  | @environment lookup limits taken =>
    by_cases ignored : Ignores lookup
    · rw [ofEnvironment_of_ignored (isSwitchedOn_iff.2 ignored), Except.ok.injEq] at taken
      subst taken
      cases limit <;> exact ⟨by decide, by decide⟩
    · exact ((ofEnvironment_eq_ok_iff ignored).1 taken limit).inRange
  | chain before word taken ih =>
    obtain ⟨positive, chain, hierarchy⟩ := withChain_eq_ok_iff.1 taken
    cases limit with
    | chain =>
      rw [value, chain]
      exact ⟨positive, word⟩
    | hierarchy =>
      rw [value, hierarchy]
      exact ih
  | hierarchy before word taken ih =>
    obtain ⟨positive, hierarchy, chain⟩ := withHierarchy_eq_ok_iff.1 taken
    cases limit with
    | chain =>
      rw [value, chain]
      exact ih
    | hierarchy =>
      rw [value, hierarchy]
      exact ⟨positive, word⟩

/-- **What an environment sets, and what it reports.** If it switches the other variables off, the
limits are the standard ones. Otherwise limits are taken exactly if each is the one that its
variable gives: the number, positive and within a word, that the text spells, or the standard value
without a text. An error reports the first text that is refused, as it stands, and never that a
limit is zero. Limits that a client can come to are positive and fit in a word. -/
theorem environment_grammar :
    (∀ lookup, Ignores lookup → ofEnvironment lookup = .ok standard) ∧
      (∀ lookup, ¬ Ignores lookup →
        (∀ limits, ofEnvironment lookup = .ok limits ↔
          ∀ limit, Gives lookup limit (limits.value limit)) ∧
        ∀ error, ofEnvironment lookup = .error error ↔
          (∃ raw, Refuses lookup .chain raw ∧ error = .unparsable .chain raw) ∨
            (¬ ∃ raw, Refuses lookup .chain raw) ∧
              ∃ raw, Refuses lookup .hierarchy raw ∧ error = .unparsable .hierarchy raw) ∧
      (∀ lookup limit, ofEnvironment lookup ≠ .error (.zero limit)) ∧
      ∀ limits, Obtainable limits → ∀ limit, InRange (limits.value limit) := by
  have ignored (lookup) (ignores : Ignores lookup) : ofEnvironment lookup = .ok standard :=
    ofEnvironment_of_ignored (isSwitchedOn_iff.2 ignores)
  refine ⟨ignored, ?_, ?_, fun limits obtainable => obtainable.inRange⟩
  · intro lookup heeded
    exact ⟨fun limits => ofEnvironment_eq_ok_iff heeded,
      fun error => ofEnvironment_eq_error_iff heeded⟩
  · intro lookup limit zero
    by_cases ignores : Ignores lookup
    · rw [ignored lookup ignores] at zero
      cases zero
    · rcases (ofEnvironment_eq_error_iff ignores).1 zero with
        ⟨raw, -, reported⟩ | ⟨-, raw, -, reported⟩ <;> cases reported

/-- A limit with a sign, zeros before it and white space around, and the largest word. -/
def padded (name : String) : Option String :=
  if name = Limit.chain.envName then some "\u00a0+0007 \n"
  else if name = Limit.hierarchy.envName then some "18446744073709551615"
  else if name = ignoreVariable then some "0"
  else none

/-- One more than the largest word, and a limit of zero. -/
def excessive (name : String) : Option String :=
  if name = Limit.chain.envName then some "18446744073709551616"
  else if name = Limit.hierarchy.envName then some "+00"
  else none

/-- The same texts, in an environment that switches them off. -/
def excused (name : String) : Option String :=
  if name = ignoreVariable then some "no" else excessive name

/-- The first environment is read in full. Of the second one the first text is reported, and in the
third one it does no harm. -/
theorem environment_grammar_of_padded :
    (∃ limits, ofEnvironment padded = .ok limits ∧ limits.chain = 7 ∧
        limits.hierarchy = 2 ^ 64 - 1) ∧
      ofEnvironment excessive = .error (.unparsable .chain "18446744073709551616") ∧
      ofEnvironment excused = .ok standard := by
  obtain ⟨ignored, heeded, -, -⟩ := environment_grammar
  have first : ¬ Ignores padded := by
    rintro ⟨text, set, -, other⟩
    obtain rfl : "0" = text := Option.some.inj set
    exact other rfl
  have second : ¬ Ignores excessive := fun ⟨_, set, _⟩ => nomatch set
  refine ⟨?_, ?_, ignored excused ⟨"no", rfl, by decide, by decide⟩⟩
  · have seven : Spells "\u00a0+0007 \n" 7 :=
      ⟨['\u00a0'], ['+', '0', '0', '0', '7'], [' ', '\n'], by decide,
        .plus ⟨by decide, List.all_eq_true.1 rfl, by decide⟩, List.all_eq_true.1 rfl,
        List.all_eq_true.1 rfl⟩
    have largest : Spells "18446744073709551615" (2 ^ 64 - 1) :=
      ⟨[], "18446744073709551615".toList, [], by decide,
        .plain ⟨by decide, List.all_eq_true.1 rfl, by decide⟩, nofun, nofun⟩
    refine ⟨⟨7, 2 ^ 64 - 1, by decide, by decide⟩, ((heeded padded first).1 _).2 ?_, rfl, rfl⟩
    rintro (_ | _)
    · exact .spelled rfl seven ⟨by decide, by decide⟩
    · exact .spelled rfl largest ⟨by decide, by decide⟩
  · have larger : Spells "18446744073709551616" (2 ^ 64) :=
      ⟨[], "18446744073709551616".toList, [], by decide,
        .plain ⟨by decide, List.all_eq_true.1 rfl, by decide⟩, nofun, nofun⟩
    refine ((heeded excessive second).2 _).2 (.inl ⟨_, ⟨rfl, ?_⟩, rfl⟩)
    rintro ⟨n, spells, range⟩
    obtain rfl := spells.unique larger
    exact absurd range.2 (by decide)

end Limits

end InlineCache
