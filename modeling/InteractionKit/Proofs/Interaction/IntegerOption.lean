import InteractionKit.Command
import InteractionKit.Proofs.Binary64.Rounding
import InteractionKit.Proofs.Text.Decimal
/-
Integer options: what is read from the forms of an integer.

An integer is sent as a number, and as text while it is typed. Within 64 signed bits either form is read exactly. Beyond
them both are read by way of the nearest double, which is no nearer to zero than the end of the range. So every integer is
read as the nearest one in the range, whatever its form.

- `trimChars_padded`: text between blanks, without them.
- `Binary64.ofText?_of_spells`: a text that spells an integer, as a double.
- `CommandOption.intOfText_padded`, `CommandOption.intOf_int`, `CommandOption.intOf_wholeNumber`: each form, exactly.
- `integer_option_saturates`: what an integer option answers for an integer.
-/
namespace InteractionKit

/-! ## Blanks -/

/-- text that begins and ends without a blank comes out of blanks as it is -/
theorem trimChars_padded {before cs after : List Char} (hbefore : ∀ c ∈ before, isBlank c = true)
    (hafter : ∀ c ∈ after, isBlank c = true) (hcs : cs ≠ []) (hsolid : ∀ c ∈ cs, isBlank c = false) :
    trimChars (before ++ cs ++ after) = cs := by
  have hfront : ∀ rest, (cs ++ rest).dropWhile isBlank = cs ++ rest := by
    obtain ⟨c, ds, rfl⟩ := List.exists_cons_of_ne_nil hcs
    intro rest
    rw [List.cons_append, List.dropWhile_cons_of_neg (by simp [hsolid c List.mem_cons_self])]
  have hback : cs.reverse.dropWhile isBlank = cs.reverse := by
    have hne : cs.reverse ≠ [] := by simpa using hcs
    obtain ⟨c, ds, hrev⟩ := List.exists_cons_of_ne_nil hne
    have hc : c ∈ cs := List.mem_reverse.1 (hrev ▸ List.mem_cons_self)
    rw [hrev, List.dropWhile_cons_of_neg (by simp [hsolid c hc])]
  have hafterReverse : ∀ c ∈ after.reverse, isBlank c = true := fun c hc => hafter c (List.mem_reverse.1 hc)
  rw [trimChars, List.append_assoc, List.dropWhile_append_of_pos hbefore, hfront, List.reverse_append,
    List.dropWhile_append_of_pos hafterReverse, hback, List.reverse_reverse]

theorem isBlank_of_isDigit {c : Char} (h : c.isDigit = true) : isBlank c = false := by
  have hdigit : 48 ≤ c.toNat ∧ c.toNat ≤ 57 := Char.isDigit_iff_toNat.1 h
  have hranges : ∀ r ∈ blankRanges, r.2 < 48 ∨ 57 < r.1 := by decide
  refine List.any_eq_false.2 fun r hr => ?_
  have hr := hranges r hr
  simp only [Bool.and_eq_true, decide_eq_true_eq]
  omega

theorem Digits.isBlank {cs : List Char} {n : Nat} (h : Digits cs n) : ∀ c ∈ cs, isBlank c = false :=
  fun c hc => isBlank_of_isDigit (h.isDigit c hc)

/-- no text of an integer is empty or has a blank in it -/
theorem Spells.solid {cs : List Char} {n : Int} (h : Spells cs n) : cs ≠ [] ∧ ∀ c ∈ cs, isBlank c = false := by
  cases h with
  | bare h => exact ⟨h.ne_nil, h.isBlank⟩
  | plus h => exact ⟨List.cons_ne_nil _ _, List.forall_mem_cons.2 ⟨by decide, h.isBlank⟩⟩
  | minus h => exact ⟨List.cons_ne_nil _ _, List.forall_mem_cons.2 ⟨by decide, h.isBlank⟩⟩

/-! ## Digits as doubles -/

namespace Binary64

theorem digitRun_digits {cs : List Char} (h : ∀ c ∈ cs, c.isDigit = true) (acc : Nat) :
    digitRun acc cs = (cs.length, Nat.ofDigitChars 10 cs acc, []) := by
  induction cs generalizing acc with
  | nil => rfl
  | cons c cs ih =>
    obtain ⟨hc, hcs⟩ := List.forall_mem_cons.1 h
    have hd : digit? c = some (c.toNat - 48) := digit?_eq_some_iff.2 ⟨hc, rfl⟩
    have hstep : acc * 10 + (c.toNat - 48) = 10 * acc + (c.toNat - '0'.toNat) := by
      rw [Nat.mul_comm]; rfl
    simp only [digitRun, hd, ih hcs, hstep, Nat.ofDigitChars_cons, List.length_cons]

theorem decimal?_digits {negative : Bool} {cs : List Char} {m : Nat} (h : Digits cs m) :
    decimal? negative cs = some (ofDecimal negative m 0) := by
  have hlength : cs.length ≠ 0 := by simpa using h.ne_nil
  simp [decimal?, digitRun_digits h.isDigit, h.value, hlength, exponentPart?]

theorem toLower_of_isDigit {c : Char} (h : c.isDigit = true) : c.toLower = c := by
  have hdigit : c.toNat ≤ 57 := (Char.isDigit_iff_toNat.1 h).2
  have hupper : ¬ 'A'.val ≤ c.val := fun hle => by
    have hle : 65 ≤ c.toNat := UInt32.le_iff_toNat_le.1 hle
    omega
  exact dif_neg fun hle => hupper hle.1

/-- digits are the name of no infinity and not of not-a-number -/
theorem unsigned?_digits {negative : Bool} {cs : List Char} {m : Nat} (h : Digits cs m) :
    unsigned? negative cs = some (ofDecimal negative m 0) := by
  obtain ⟨c, ds, rfl⟩ := List.exists_cons_of_ne_nil h.ne_nil
  have hlower : c.toLower.isDigit = true := by rw [toLower_of_isDigit h.head, h.head]
  have hname : ∀ name : List Char, name.all (fun d => !d.isDigit) = true → (c :: ds).map Char.toLower ≠ name := by
    rintro name hletters rfl
    rw [List.map_cons, List.all_cons, hlower] at hletters
    cases hletters
  have hinf := hname "inf".toList (by decide)
  have hinfinity := hname "infinity".toList (by decide)
  have hnan := hname "nan".toList (by decide)
  unfold unsigned?
  dsimp only
  rw [if_neg (not_or.2 ⟨hinf, hinfinity⟩), if_neg hnan, decimal?_digits h]

/-- a text that spells an integer is read as the double nearest to it -/
theorem ofText?_of_spells {cs : List Char} {n : Int} (h : Spells cs n) :
    ∃ negative m, ofText? cs = some (ofDecimal negative m 0) ∧ n = if negative then -(m : Int) else m := by
  cases h with
  | @bare cs m h =>
    refine ⟨false, m, ?_, rfl⟩
    unfold ofText?
    split
    · exact absurd h.head (by decide)
    · exact absurd h.head (by decide)
    · exact unsigned?_digits h
  | @plus cs m h => exact ⟨false, m, unsigned?_digits h, rfl⟩
  | @minus cs m h => exact ⟨true, m, unsigned?_digits h, rfl⟩

/-- an integer beyond 64 signed bits is held at the end of the range on its side -/
theorem toInt64_ofDecimal_of_out (negative : Bool) {m : Nat} {n : Int} (hn : n = if negative then -(m : Int) else m)
    (hout : ¬ (-9223372036854775808 ≤ n ∧ n ≤ 9223372036854775807)) :
    (ofDecimal negative m 0).toInt64 = clamp64 n := by
  have hlarge : 9223372036854775808 ≤ m := by cases negative <;> simp at hn <;> omega
  rw [toInt64_ofDecimal_of_le hlarge, clamp64]
  cases negative <;> simp at hn ⊢ <;> omega

end Binary64

/-! ## The forms of an integer -/

namespace CommandOption

variable {n : Int}

theorem eq_clamp64 (h : -9223372036854775808 ≤ n ∧ n ≤ 9223372036854775807) : n = Binary64.clamp64 n := by
  unfold Binary64.clamp64
  omega

theorem intOf_int (n : Int) : intOf (some (.int n)) = Binary64.clamp64 n := by
  simp only [intOf]
  split
  · next h => exact eq_clamp64 h
  · next h =>
    refine Binary64.toInt64_ofDecimal_of_out _ ?_ h
    simp only [decide_eq_true_eq]
    split <;> omega

/-- text that spells an integer, between any blanks -/
theorem intOfText_padded {before cs after : List Char} (hblank : ∀ c ∈ before ++ after, isBlank c = true)
    (h : Spells cs n) :
    intOfText (String.ofList (before ++ cs ++ after)) = Binary64.clamp64 n := by
  obtain ⟨hbefore, hafter⟩ := List.forall_mem_append.1 hblank
  obtain ⟨hcs, hsolid⟩ := h.solid
  unfold intOfText
  rw [String.toList_ofList, trimChars_padded hbefore hafter hcs hsolid]
  dsimp only
  cases hread : readInteger 9223372036854775808 9223372036854775807 cs with
  | ok m =>
    obtain ⟨hm, hlow, hhigh⟩ := readInteger_eq_ok_iff.1 hread
    obtain rfl := hm.unique h
    exact eq_clamp64 ⟨hlow, hhigh⟩
  | error e =>
    have hout : ¬ (-9223372036854775808 ≤ n ∧ n ≤ 9223372036854775807) := by
      intro hin
      rw [readInteger_eq_ok_iff.2 ⟨h, hin⟩] at hread
      cases hread
    obtain ⟨negative, m, hdouble, hn⟩ := Binary64.ofText?_of_spells h
    rw [hdouble]
    exact Binary64.toInt64_ofDecimal_of_out negative hn hout

/-- digits in a JSON text, whether they stand for an integer or for the double nearest to it -/
theorem intOf_wholeNumber (negative : Bool) (m : Nat) : intOf (some (Json.wholeNumber negative m)) =
    Binary64.clamp64 (if negative then -(m : Int) else m) := by
  cases negative with
  | true =>
    simp only [Json.wholeNumber, if_true]
    split
    · next h =>
      rcases h with rfl | h
      · rfl
      · exact Binary64.toInt64_ofDecimal_of_out true rfl (by omega)
    · exact intOf_int _
  | false =>
    simp only [Json.wholeNumber, Bool.false_eq_true, if_false]
    split
    · next h => exact Binary64.toInt64_ofDecimal_of_out false rfl (by omega)
    · exact intOf_int _

/-- an accessor used on an option of its kind answers what the value holds -/
theorem intValue_of_kind {o : CommandOption} (h : o.kind = .integer) : o.intValue = .ok (intOf o.value) := if_pos h

end CommandOption

/-! ## Main result -/

/-- **Integer options.** Every integer is read as the nearest one of 64 signed bits: from text that spells it between any
blanks, as its own text does, from the number, and from its digits in a JSON text, however many. -/
theorem integer_option_saturates {o : CommandOption} {n : Int} (hkind : o.kind = .integer) :
    (∀ before cs after, (∀ c ∈ before ++ after, isBlank c = true) → Spells cs n →
      o.value = some (.str (String.ofList (before ++ cs ++ after))) →
      o.intValue = .ok (min (max n (-9223372036854775808)) 9223372036854775807)) ∧
    Spells (toString n).toList n ∧
    (o.value = some (.int n) → o.intValue = .ok (min (max n (-9223372036854775808)) 9223372036854775807)) ∧
    (∀ negative m, n = (if negative then -(m : Int) else m) → o.value = some (Json.wholeNumber negative m) →
      o.intValue = .ok (min (max n (-9223372036854775808)) 9223372036854775807)) := by
  rw [CommandOption.intValue_of_kind hkind]
  refine ⟨fun before cs after hblank hcs hvalue => ?_, spells_toString n, fun hvalue => ?_, ?_⟩
  · rw [hvalue]
    exact congrArg Except.ok (CommandOption.intOfText_padded hblank hcs)
  · rw [hvalue]
    exact congrArg Except.ok (CommandOption.intOf_int n)
  · rintro negative m rfl hvalue
    rw [hvalue]
    exact congrArg Except.ok (CommandOption.intOf_wholeNumber negative m)

/-- one below the range, typed between blanks and sent as a number -/
theorem integer_option_saturates_below :
    let typed : CommandOption := .mk "offset" .integer (some (.str "\t-9223372036854775809 ")) [] true
    let sent : CommandOption := .mk "offset" .integer (some (.int (-9223372036854775809))) [] false
    typed.intValue = .ok (-9223372036854775808) ∧ sent.intValue = .ok (-9223372036854775808) := by
  intro typed sent
  have hspells : Spells "-9223372036854775809".toList (-9223372036854775809) :=
    .minus ⟨by decide, List.all_eq_true.1 (by decide), by decide⟩
  constructor
  · exact (integer_option_saturates (o := typed) rfl).1 ['\t'] _ [' '] (List.all_eq_true.1 (by decide)) hspells rfl
  · exact (integer_option_saturates (o := sent) (n := -9223372036854775809) rfl).2.2.1 rfl

end InteractionKit
