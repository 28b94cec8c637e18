import InteractionKit.Interaction.Basic
/-
The times of an interaction, from its id.

An id holds the milliseconds of its making above its low 22 bits. They are shifted down, brought to the Unix epoch in an
unsigned word, turned into a signed one, given to a calendar, and some seconds are added there. Every one of these steps
can fail or wrap for some number, and none does for an id: the largest of them was made in the year 2154. So each time is
told of every interaction, and since nothing is rounded on the way but by the shift, the times stand in the order of the
ids and fall together just for ids that were made in one millisecond.

- `Id.toNat_timestamp`, `timestamp_le`, `timestamp_eq_iff`: the word is the exact sum, in the order of the ids.
- `Calendar.Exact`: what is relied on in a calendar. `civil_exact`: the civil calendar is such a one.
- `Interaction.Told`: a time that is told of every interaction. `Told.ordered`: it is in the order of the ids.
- `times_follow_ids`: the three times of an interaction.
-/
namespace InteractionKit

/-! ## Words -/

namespace Id

variable {k : Resource} {a b : Id k}

theorem shiftRight_lt (a : Id k) : a.val >>> 22 < 4398046511104 := by
  have hlt := a.lt
  rw [Nat.shiftRight_eq_div_pow]
  omega

/-- the sum does not wrap -/
theorem toNat_timestamp (a : Id k) : a.timestamp.toNat = a.val >>> 22 + 1420070400000 := by
  have hval : (UInt64.ofNat a.val).toNat = a.val := UInt64.toNat_ofNat_of_lt' a.lt
  have hbits := a.shiftRight_lt
  calc a.timestamp.toNat
      = ((UInt64.ofNat a.val >>> 22).toNat + epoch.toNat) % 18446744073709551616 := UInt64.toNat_add _ _
    _ = (a.val >>> 22 + 1420070400000) % 18446744073709551616 := by rw [UInt64.toNat_shiftRight, hval]; rfl
    _ = a.val >>> 22 + 1420070400000 := Nat.mod_eq_of_lt (by omega)

theorem timestamp_lt (a : Id k) : a.timestamp.toNat < 5818116911104 := by
  have hbits := a.shiftRight_lt
  rw [toNat_timestamp]
  omega

theorem timestamp_le (h : a.val ≤ b.val) : a.timestamp.toNat ≤ b.timestamp.toNat := by
  rw [toNat_timestamp, toNat_timestamp, Nat.shiftRight_eq_div_pow, Nat.shiftRight_eq_div_pow]
  apply Nat.add_le_add_right
  exact Nat.div_le_div_right h

/-- only the low 22 bits are lost -/
theorem timestamp_eq_iff : a.timestamp.toNat = b.timestamp.toNat ↔ a.val >>> 22 = b.val >>> 22 := by
  rw [toNat_timestamp, toNat_timestamp]
  exact Nat.add_right_cancel_iff

end Id

/-- a number below the highest bit keeps its value -/
theorem signed?_of_lt {n : UInt64} (h : n.toNat < 9223372036854775808) :
    ∃ m, signed? n = some m ∧ m.toInt = n.toNat := by
  have hhalf : 2 * n.toBitVec.toNat < 18446744073709551616 := by
    show 2 * n.toNat < 18446744073709551616
    omega
  exact ⟨n.toInt64, if_pos h, BitVec.toInt_eq_toNat_of_lt hhalf⟩

/-! ## Calendars -/

namespace Calendar

variable {τ : Type}

/-- the instants that a calendar gives: the one at a number of milliseconds, and the one some seconds after it. A
calendar may keep others, such as the instants within a leap second, of which nothing is said. -/
inductive Gives (cal : Calendar τ) : τ → Prop
  | ofMillis {m : Int64} {t : τ} (h : cal.ofMillis? m = some t) : Gives cal t
  | later {t u : τ} {s : Int64} (ht : Gives cal t) (h : cal.later? t s = some u) : Gives cal u

/-- the Unix milliseconds at which the year 200000 begins: the year 2000 begins after 10957 days, and the calendar
repeats itself every 400 years -/
def year200000 : Int := (10957 + 495 * 146097) * 86400000

/-- what is relied on in a calendar: from the epoch to the year 200000 it has an instant at every millisecond, seconds
are added exactly, and the order of the instants is that of their milliseconds -/
structure Exact [LE τ] (cal : Calendar τ) : Prop where
  ofMillis : ∀ m : Int64, 0 ≤ m.toInt → m.toInt < year200000 →
    ∃ t, cal.ofMillis? m = some t ∧ cal.millis t = m.toInt
  later : ∀ (t : τ) (s : Int64), cal.Gives t → 0 ≤ cal.millis t → 0 ≤ s.toInt →
    cal.millis t + 1000 * s.toInt < year200000 →
    ∃ u, cal.later? t s = some u ∧ cal.millis u = cal.millis t + 1000 * s.toInt
  le_iff : ∀ t u : τ, cal.Gives t → cal.Gives u → (t ≤ u ↔ cal.millis t ≤ cal.millis u)

theorem exists_instant {m : Int} (h0 : 0 ≤ m) (hm : m < year200000) :
    ∃ t, Instant.ofMillis? m = some t ∧ t.millis = m := by
  unfold year200000 at hm
  have hreach : -96465292 * 86400000 ≤ m ∧ m < 95026237 * 86400000 := by omega
  exact ⟨⟨m, hreach.1, hreach.2⟩, dif_pos hreach, rfl⟩

theorem civil_exact : civil.Exact where
  ofMillis _ h0 hm := exists_instant h0 hm
  later _ _ _ ht hs hend := exists_instant (Int.add_nonneg ht (by omega)) hend
  le_iff _ _ _ _ := Iff.rfl

end Calendar

/-! ## Times that are told -/

namespace Interaction

section Times

variable {τ : Type} {cal : Calendar τ} {f : Interaction → Option τ} {d : Int}

/-- a time that is told of every interaction: a number of milliseconds after its making, and by its making alone -/
structure Told (cal : Calendar τ) (f : Interaction → Option τ) (d : Int) : Prop where
  given : ∀ i, ∃ t, f i = some t ∧ cal.Gives t ∧ cal.millis t = i.id.timestamp.toNat + d
  alike : ∀ i j, i.id.timestamp = j.id.timestamp → f i = f j

variable [LE τ] (hcal : cal.Exact)

include hcal

theorem told_createdAt : Told cal (createdAt cal) 0 where
  given i := by
    have hlt := i.id.timestamp_lt
    obtain ⟨m, hm, hval⟩ := signed?_of_lt (n := i.id.timestamp) (by omega)
    have hend : m.toInt < Calendar.year200000 := by
      unfold Calendar.year200000
      omega
    obtain ⟨t, ht, hmillis⟩ := hcal.ofMillis m (by omega) hend
    have hmade : createdAt cal i = some t := by
      unfold createdAt
      rw [hm, Option.bind_some, ht]
    exact ⟨t, hmade, .ofMillis ht, by omega⟩
  alike i j h := by
    unfold createdAt
    rw [h]

/-- for as long as a day nothing runs out of the calendar -/
theorem told_secondsAfter {s : Int64} (h0 : 0 ≤ s.toInt) (hday : s.toInt ≤ 86400) :
    Told cal (fun i => secondsAfter cal i s) (1000 * s.toInt) where
  given i := by
    have hlt := i.id.timestamp_lt
    obtain ⟨t, hmade, ht, hmillis⟩ := (told_createdAt hcal).given i
    have hend : cal.millis t + 1000 * s.toInt < Calendar.year200000 := by
      unfold Calendar.year200000
      omega
    obtain ⟨u, hu, hlater⟩ := hcal.later t s ht (by omega) h0 hend
    have hafter : secondsAfter cal i s = some u := by
      unfold secondsAfter
      rw [hmade, Option.bind_some, hu]
    exact ⟨u, hafter, .later ht hu, by omega⟩
  alike i j h := by
    unfold secondsAfter
    rw [(told_createdAt hcal).alike i j h]

theorem told_responseDeadline : Told cal (responseDeadline cal) 3000 :=
  told_secondsAfter hcal (s := responseSeconds) (by decide) (by decide)

theorem told_tokenExpiresAt : Told cal (tokenExpiresAt cal) 900000 :=
  told_secondsAfter hcal (s := tokenSeconds) (by decide) (by decide)

/-- times that are told are in the order of the ids, and the same just for ids of one millisecond -/
theorem Told.ordered (h : Told cal f d) (i j : Interaction) :
    ∃ t u, f i = some t ∧ f j = some u ∧ (i.id.val ≤ j.id.val → t ≤ u) ∧
      (t = u ↔ i.id.val >>> 22 = j.id.val >>> 22) := by
  obtain ⟨t, hi, ht, htmillis⟩ := h.given i
  obtain ⟨u, hj, hu, humillis⟩ := h.given j
  refine ⟨t, u, hi, hj, ?_, ?_⟩
  · intro hle
    have hstamp := Id.timestamp_le hle
    apply (hcal.le_iff t u ht hu).2
    omega
  · rw [← Id.timestamp_eq_iff]
    constructor
    · rintro rfl
      omega
    · intro hstamp
      have hsame : f i = f j := h.alike i j (UInt64.toNat_inj.1 hstamp)
      exact Option.some.inj (hi.symm.trans (hsame.trans hj))

end Times

/-! ## Main result -/

/-- **Times follow ids.** In a calendar that is exact up to the year 200000, the milliseconds of an interaction's id are
the exact sum, which fits an unsigned and a signed word. The interaction has a time of its making, a deadline three
seconds and an expiry fifteen minutes later. Each of the three is not later than that of an interaction with a greater
id, and is the same just if the ids agree above their low 22 bits. -/
theorem times_follow_ids {τ : Type} [LE τ] {cal : Calendar τ} (hcal : cal.Exact) (i j : Interaction) :
    (i.id.val >>> 22 + Id.epoch.toNat < 18446744073709551616 ∧
      i.id.timestamp.toNat = i.id.val >>> 22 + Id.epoch.toNat ∧
      ∃ m, signed? i.id.timestamp = some m ∧ m.toInt = i.id.timestamp.toNat) ∧
    (∃ made due expiry, createdAt cal i = some made ∧ responseDeadline cal i = some due ∧
      tokenExpiresAt cal i = some expiry ∧ cal.millis made = i.id.timestamp.toNat ∧
      cal.millis due = cal.millis made + 3000 ∧ cal.millis expiry = cal.millis made + 900000) ∧
    ∀ f ∈ [createdAt cal, responseDeadline cal, tokenExpiresAt cal],
      ∃ t u, f i = some t ∧ f j = some u ∧ (i.id.val ≤ j.id.val → t ≤ u) ∧
        (t = u ↔ i.id.val >>> 22 = j.id.val >>> 22) := by
  have hmade := told_createdAt hcal
  have hdue := told_responseDeadline hcal
  have hexpiry := told_tokenExpiresAt hcal
  refine ⟨⟨?_, i.id.toNat_timestamp, ?_⟩, ?_, ?_⟩
  · have hbits := i.id.shiftRight_lt
    have hepoch : Id.epoch.toNat = 1420070400000 := rfl
    omega
  · have hlt := i.id.timestamp_lt
    exact signed?_of_lt (by omega)
  · obtain ⟨t, ht, -, htmillis⟩ := hmade.given i
    obtain ⟨u, hu, -, humillis⟩ := hdue.given i
    obtain ⟨v, hv, -, hvmillis⟩ := hexpiry.given i
    exact ⟨t, u, v, ht, hu, hv, by omega, by omega, by omega⟩
  · intro f hf
    simp only [List.mem_cons, List.not_mem_nil, or_false] at hf
    rcases hf with rfl | rfl | rfl
    · exact hmade.ordered hcal i j
    · exact hdue.ordered hcal i j
    · exact hexpiry.ordered hcal i j

/-! ## The last id -/

/-- a ping under an id, from an application of which nothing else is known -/
def ping (id : Id .interaction) : Interaction :=
  ⟨id, ⟨140, by decide, by decide⟩, .ping, none, none, none, none, none, none, "", 1, none, none, none, none⟩

/-- an id that was made on the 21st of August 2023 -/
def summerId : Id .interaction := ⟨1143305497614356643, by decide, by decide⟩

/-- the largest id there is -/
def lastId : Id .interaction := ⟨18446744073709551615, by decide, by decide⟩

/-- In the civil calendar an interaction of the summer of 2023 was made before the one with the last id, whose token
expires in the year 2154. -/
theorem times_follow_ids_last :
    Calendar.civil.Exact ∧
    (createdAt .civil (ping summerId)).map Instant.millis = some 1692655672220 ∧
    (tokenExpiresAt .civil (ping lastId)).map Instant.millis = some 5818117811103 ∧
    ∃ t u, createdAt .civil (ping summerId) = some t ∧ createdAt .civil (ping lastId) = some u ∧ t ≤ u ∧ t ≠ u := by
  refine ⟨Calendar.civil_exact, by decide, by decide, ?_⟩
  obtain ⟨t, u, ht, hu, hle, heq⟩ :=
    (times_follow_ids Calendar.civil_exact (ping summerId) (ping lastId)).2.2 _ List.mem_cons_self
  refine ⟨t, u, ht, hu, hle (by decide), ?_⟩
  rw [Ne, heq]
  decide

end Interaction

end InteractionKit
