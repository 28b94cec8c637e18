import InteractionKit.Id
/-
Decimal text: which texts are read as an integer, and as which.

What a text spells is told without a range. A reader takes just the texts that spell an integer in its range, and reads
that integer. So a number is read back from its digits, also behind zeros.

- `Digits`, `Spells`: the number in a text of digits, and the integer in a text that may have a sign.
- `SpellsNatural`: the number in a text that may have a plus.
- `readDigits_eq_ok_iff`: digits continue a number, as long as it stays within the limit.
- `readNatural_eq_ok_iff`, `readInteger_eq_ok_iff`: what is read, exactly.
- `readNatural_zeros`: a number is read back from its digits.
- `spells_toString`: the text of an integer spells it.
- `Id.parse_eq_ok_iff`, `Id.parse_text`: the texts that an id is read from; its own text is one of them.
-/
namespace InteractionKit

/-! ## What a text spells -/

/-- a text of ASCII digits, at least one, and their number -/
structure Digits (cs : List Char) (n : Nat) : Prop where
  ne_nil : cs ≠ []
  isDigit : ∀ c ∈ cs, c.isDigit = true
  value : Nat.ofDigitChars 10 cs 0 = n

/-- an integer as it may be written: digits, with at most one sign in front of them -/
inductive Spells : List Char → Int → Prop where
  | bare {cs : List Char} {n : Nat} : Digits cs n → Spells cs n
  | plus {cs : List Char} {n : Nat} : Digits cs n → Spells ('+' :: cs) n
  | minus {cs : List Char} {n : Nat} : Digits cs n → Spells ('-' :: cs) (-(n : Int))

/-- a natural number as it may be written: digits, with at most one plus in front of them -/
def SpellsNatural (cs : List Char) (n : Nat) : Prop := Digits cs n ∨ ∃ ds, cs = '+' :: ds ∧ Digits ds n

theorem SpellsNatural.spells {cs : List Char} {n : Nat} (h : SpellsNatural cs n) : Spells cs n := by
  rcases h with h | ⟨ds, rfl, h⟩
  · exact .bare h
  · exact .plus h

/-- only zero may stand behind a minus and not be negative -/
theorem Spells.natural {cs : List Char} {n : Int} (h : Spells cs n) (hpos : 0 < n) : SpellsNatural cs n.toNat := by
  cases h with
  | @bare _ m h => exact .inl h
  | @plus ds m h => exact .inr ⟨ds, rfl, h⟩
  | @minus ds m h => omega

theorem Digits.head {c : Char} {cs : List Char} {n : Nat} (h : Digits (c :: cs) n) : c.isDigit = true :=
  h.isDigit c List.mem_cons_self

/-! ## Reading -/

/-- more digits never make a number smaller -/
theorem le_ofDigitChars (cs : List Char) (n : Nat) : n ≤ Nat.ofDigitChars 10 cs n := by
  induction cs generalizing n with
  | nil => simp
  | cons c cs ih =>
    rw [Nat.ofDigitChars_cons]
    have := ih (10 * n + (c.toNat - '0'.toNat))
    omega

theorem digit?_eq_some_iff {c : Char} {d : Nat} : digit? c = some d ↔ c.isDigit = true ∧ d = c.toNat - 48 := by
  have hc : c.isDigit = true ↔ 48 ≤ c.toNat ∧ c.toNat ≤ 57 := by
    simp only [Char.isDigit, Bool.and_eq_true, decide_eq_true_eq]
    exact Iff.rfl
  rw [digit?, hc]
  split
  · next h => simp [h, eq_comm]
  · next h => simp [h]

/-- digits continue a number, as long as it stays within the limit -/
theorem readDigits_eq_ok_iff {limit n m : Nat} {cs : List Char} (hn : n ≤ limit) : readDigits limit n cs = .ok m ↔
    (∀ c ∈ cs, c.isDigit = true) ∧ Nat.ofDigitChars 10 cs n = m ∧ m ≤ limit := by
  induction cs generalizing n with
  | nil =>
    simp only [readDigits, Except.ok.injEq, Nat.ofDigitChars_nil]
    constructor
    · rintro rfl
      exact ⟨nofun, rfl, hn⟩
    · exact fun h => h.2.1
  | cons c cs ih =>
    have hstep : n * 10 + (c.toNat - 48) = 10 * n + (c.toNat - '0'.toNat) := by
      rw [Nat.mul_comm]; rfl
    rw [readDigits, List.forall_mem_cons, Nat.ofDigitChars_cons]
    cases hd : digit? c with
    | none =>
      have hc : ¬ c.isDigit = true := fun hc => by simp [digit?_eq_some_iff.2 ⟨hc, rfl⟩] at hd
      simp [hc]
    | some d =>
      obtain ⟨hc, rfl⟩ := digit?_eq_some_iff.1 hd
      simp only [hstep]
      split
      · next hle => rw [ih hle]; simp [hc]
      · next hgt =>
        -- the limit is checked after every digit, and the number never gets smaller again
        refine iff_of_false nofun fun ⟨_, hm, hle⟩ => hgt ?_
        exact Nat.le_trans (le_ofDigitChars cs _) (hm ▸ hle)

theorem readMagnitude_eq_ok_iff {limit n : Nat} {cs : List Char} :
    readMagnitude limit cs = .ok n ↔ Digits cs n ∧ n ≤ limit := by
  cases cs with
  | nil => exact iff_of_false nofun fun h => h.1.ne_nil rfl
  | cons c cs =>
    rw [readMagnitude, readDigits_eq_ok_iff limit.zero_le]
    exact ⟨fun ⟨hd, hv, hle⟩ => ⟨⟨List.cons_ne_nil c cs, hd, hv⟩, hle⟩, fun ⟨h, hle⟩ => ⟨h.isDigit, h.value, hle⟩⟩

/-- a natural number is read from its digits, which may stand behind a plus -/
theorem readNatural_eq_ok_iff {limit n : Nat} {cs : List Char} :
    readNatural limit cs = .ok n ↔ SpellsNatural cs n ∧ n ≤ limit := by
  unfold readNatural SpellsNatural
  split
  · refine iff_of_false nofun ?_
    rintro ⟨h | ⟨ds, h, -⟩, -⟩
    · exact h.ne_nil rfl
    · cases h
  · next ds =>
    have hplus : ¬ Digits ('+' :: ds) n := fun h => absurd h.head (by decide)
    rw [readMagnitude_eq_ok_iff]
    simp [hplus]
  · next hplus =>
    have hsign : ¬ ∃ ds, cs = '+' :: ds ∧ Digits ds n := fun ⟨ds, h, _⟩ => hplus ds h
    rw [readMagnitude_eq_ok_iff, or_iff_left hsign]

theorem readInteger_minus {below limit : Nat} {n : Int} {cs : List Char} :
    readInteger below limit ('-' :: cs) = .ok n ↔ ∃ m, readMagnitude below cs = .ok m ∧ -(m : Int) = n := by
  rw [readInteger]
  cases readMagnitude below cs <;> simp [Except.map, bind, Except.bind, pure, Except.pure]

theorem readInteger_of_no_minus {below limit : Nat} {n : Int} {cs : List Char} (h : ∀ ds, cs ≠ '-' :: ds) :
    readInteger below limit cs = .ok n ↔ ∃ m, readNatural limit cs = .ok m ∧ (m : Int) = n := by
  unfold readInteger
  split
  · exact absurd rfl (h _)
  · cases readNatural limit cs <;> simp [Except.map, Functor.map]

/-- an integer is read from the texts that spell it, if it is in the range -/
theorem readInteger_eq_ok_iff {below limit : Nat} {n : Int} {cs : List Char} :
    readInteger below limit cs = .ok n ↔ Spells cs n ∧ -(below : Int) ≤ n ∧ n ≤ limit := by
  by_cases hminus : ∃ ds, cs = '-' :: ds
  · obtain ⟨ds, rfl⟩ := hminus
    simp only [readInteger_minus, readMagnitude_eq_ok_iff]
    constructor
    · rintro ⟨m, ⟨hm, hle⟩, rfl⟩
      exact ⟨.minus hm, by omega, by omega⟩
    · rintro ⟨h, hlow, -⟩
      cases h with
      | bare h => exact absurd h.head (by decide)
      | @minus _ m h => exact ⟨m, ⟨h, by omega⟩, rfl⟩
  · have hne : ∀ ds, cs ≠ '-' :: ds := fun ds h => hminus ⟨ds, h⟩
    simp only [readInteger_of_no_minus hne, readNatural_eq_ok_iff]
    constructor
    · rintro ⟨m, ⟨h | ⟨ds, rfl, h⟩, hle⟩, rfl⟩
      · exact ⟨.bare h, by omega, by omega⟩
      · exact ⟨.plus h, by omega, by omega⟩
    · rintro ⟨h, -, hle⟩
      cases h with
      | @bare _ m h => exact ⟨m, ⟨.inl h, by omega⟩, rfl⟩
      | @plus ds m h => exact ⟨m, ⟨.inr ⟨ds, rfl, h⟩, by omega⟩, rfl⟩
      | @minus ds m h => exact absurd rfl (hne ds)

/-- a text spells one integer -/
theorem Spells.unique {cs : List Char} {m n : Int} (hm : Spells cs m) (hn : Spells cs n) : m = n := by
  -- some range holds both, and there both are what is read
  let range := max m.natAbs n.natAbs
  have hreadm : readInteger range range cs = .ok m := readInteger_eq_ok_iff.2 ⟨hm, by omega, by omega⟩
  have hreadn : readInteger range range cs = .ok n := readInteger_eq_ok_iff.2 ⟨hn, by omega, by omega⟩
  exact Except.ok.inj (hreadm.symm.trans hreadn)

/-! ## Reading back -/

theorem isDigit_zeros (k n : Nat) : ∀ c ∈ List.replicate k '0' ++ Nat.toDigits 10 n, c.isDigit = true := by
  intro c hc
  rcases List.mem_append.1 hc with hc | hc
  · rw [List.eq_of_mem_replicate hc]
    rfl
  · exact Nat.isDigit_of_mem_toDigits (by decide) (by decide) hc

theorem ofDigitChars_zeros (k n : Nat) : Nat.ofDigitChars 10 (List.replicate k '0' ++ Nat.toDigits 10 n) 0 = n := by
  rw [Nat.ofDigitChars_append, Nat.ofDigitChars_replicate_zero, Nat.mul_zero, Nat.ofDigitChars_ten_toDigits]

/-- the digits of a number, with zeros in front of them -/
theorem digits_zeros (k n : Nat) : Digits (List.replicate k '0' ++ Nat.toDigits 10 n) n :=
  ⟨by simp [Nat.toDigits_ne_nil], isDigit_zeros k n, ofDigitChars_zeros k n⟩

/-- zeros in front of a number make no difference -/
theorem readNatural_zeros {limit n : Nat} (h : n ≤ limit) (k : Nat) :
    readNatural limit (List.replicate k '0' ++ Nat.toDigits 10 n) = .ok n :=
  readNatural_eq_ok_iff.2 ⟨.inl (digits_zeros k n), h⟩

/-- the text of an integer spells it -/
theorem spells_toString (n : Int) : Spells (toString n).toList n := by
  rw [Int.toString_eq_repr, Int.repr_eq_if]
  split
  · next h =>
    have hdigits : Digits n.toNat.repr.toList n.toNat := by
      rw [Nat.toList_repr]
      exact digits_zeros 0 n.toNat
    have hspells := Spells.bare hdigits
    rwa [Int.toNat_of_nonneg h] at hspells
  · next h =>
    have hdigits : Digits (-n).toNat.repr.toList (-n).toNat := by
      rw [Nat.toList_repr]
      exact digits_zeros 0 (-n).toNat
    have hspells := Spells.minus hdigits
    have hneg : -((-n).toNat : Int) = n := by omega
    rw [hneg] at hspells
    rw [String.toList_append]
    exact hspells

/-- a positive number is written without a zero in front -/
theorem head?_toDigits_ne_zero {n : Nat} (h : 0 < n) : (Nat.toDigits 10 n).head? ≠ some '0' := by
  induction n using Nat.strongRecOn with
  | ind n ih =>
    by_cases hn : n < 10
    · rw [Nat.toDigits_of_lt_base hn]
      have hdigit : ∀ m < 10, 0 < m → [Nat.digitChar m].head? ≠ some '0' := by decide
      exact hdigit n hn h
    · have hlt : n / 10 < n := by omega
      have hpos : 0 < n / 10 := by omega
      rw [Nat.toDigits_of_base_le (by decide) (by omega), List.head?_append,
        Option.or_of_isSome (by simp [Nat.toDigits_ne_nil])]
      exact ih (n / 10) hlt hpos

/-! ## Ids -/

namespace Id

variable {k : Resource} {a : Id k} {n : Nat}

theorem ofNat?_eq_some_iff : ofNat? n = some a ↔ a.val = n := by
  unfold ofNat?
  split
  · rw [Option.some.injEq]
    exact ⟨fun h => h ▸ rfl, fun h => ext_val h.symm⟩
  · next hrange =>
    have hpos := a.pos
    have hlt := a.lt
    constructor
    · intro h
      cases h
    · rintro rfl
      exact absurd ⟨hpos, hlt⟩ hrange

/-- an id is read just from the texts that spell its number -/
theorem parse_eq_ok_iff {s : String} : parse s = .ok a ↔ SpellsNatural s.toList a.val := by
  unfold parse
  cases hread : readNatural 18446744073709551615 s.toList with
  | error e =>
    refine iff_of_false nofun fun h => ?_
    rw [readNatural_eq_ok_iff.2 ⟨h, Nat.le_of_lt_succ a.lt⟩] at hread
    cases hread
  | ok n =>
    have hn := (readNatural_eq_ok_iff.1 hread).1
    have hspells : SpellsNatural s.toList a.val ↔ a.val = n := by
      refine ⟨fun h => ?_, fun h => h ▸ hn⟩
      exact Int.ofNat_inj.1 (h.spells.unique hn.spells)
    rw [hspells, ← ofNat?_eq_some_iff]
    dsimp only
    split
    · next b hb => simp [hb]
    · next hb => simp [hb]

theorem toList_text (a : Id k) : a.text.toList = Nat.toDigits 10 a.val := by simp [text]

/-- the text of an id is its digits -/
theorem digits_text (a : Id k) : Digits a.text.toList a.val := by
  rw [toList_text]
  exact digits_zeros 0 a.val

/-- an id is read back from its text -/
theorem parse_text (a : Id k) : Id.parse a.text = .ok a := parse_eq_ok_iff.2 (.inl a.digits_text)

end Id

end InteractionKit
