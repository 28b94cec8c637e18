import InteractionKit.Interaction.Resolved
import InteractionKit.Proofs.Guild.Parts
import Mathlib.Data.List.Forall2
/-
Tables of entities are read back from what is written.

A table is written as an object under the texts of its ids and stored with its members rearranged, because texts are not
ordered as ids are. Texts of different ids differ, so no entry is lost, and an entry lands in its place whenever it is
read.

- `Table.reads`: a table is read back when its values are.
- `Table.ensures`: what holds of every value that is read holds throughout the table.
- `Resolved.reads`, `Resolved.ensures_canonical`: the four tables together.
-/
namespace InteractionKit

open Decoder Reader

/-- ids with one text are one id -/
theorem Id.text_injective {k : Resource} : Function.Injective (text : Id k → String) := by
  intro a b h
  have hparse : (parse a.text : Except IntegerError (Id k)) = parse b.text := by rw [h]
  rw [parse_text, parse_text] at hparse
  exact Except.ok.inj hparse

namespace Table

variable {k : Resource} {α : Type}

/-! ## From entries to members and back -/

section Entries

variable {ν ε : Type} {fault : ReadError → ε} {decode : ν → Except ε α}

/-- a member is read as an entry -/
def ReadsAs (decode : ν → Except ε α) (m : String × ν) (e : Id k × α) : Prop :=
  Id.parse m.1 = .ok e.1 ∧ decode m.2 = .ok e.2

/-- members are read when each is read as an entry, and the entries are put in one by one -/
theorem ofMembers_eq_ok_iff {ms : List (String × ν)} {t u : Table k α} :
    ofMembers fault decode t ms = .ok u ↔ ∃ es, List.Forall₂ (ReadsAs decode) ms es ∧ u = t.insertAll es := by
  induction ms generalizing t with
  | nil =>
    simp only [ofMembers, List.forall₂_nil_left_iff, exists_eq_left, Except.ok.injEq]
    exact eq_comm
  | cons m ms ih =>
    obtain ⟨key, v⟩ := m
    simp only [List.forall₂_cons_left_iff]
    constructor
    · intro h
      rw [ofMembers] at h
      split at h
      · cases h
      · next a ha =>
        split at h
        · cases h
        · next x hx =>
          obtain ⟨es, hes, rfl⟩ := ih.1 h
          exact ⟨(a, x) :: es, ⟨(a, x), es, ⟨ha, hx⟩, hes, rfl⟩, rfl⟩
    · rintro ⟨-, ⟨e, es, ⟨hkey, hvalue⟩, hes, rfl⟩, rfl⟩
      simp only [ofMembers, hkey, hvalue]
      exact ih.2 ⟨es, hes, rfl⟩

end Entries

/-- a table is read back from the stored form of what it is written as -/
theorem reads {d : Decoder α} {encode : α → Json} {t : Table k α} (h : ∀ e ∈ t.entries, d.Reads (encode e.2) e.2) :
    (Table.decode d).Reads (t.encode encode) t := by
  have hdistinct : Json.Distinct (t.entries.map fun e => (e.1.text, encode e.2)) := by
    have hkeys : Json.keys (t.entries.map fun e => (e.1.text, encode e.2)) = t.keys.map Id.text := by
      simp [Json.keys, keys]
    rw [Json.Distinct, hkeys]
    exact t.nodup_keys.map Id.text_injective
  have hread : List.Forall₂ (ReadsAs d.ofValue)
      ((t.entries.map fun e => (e.1.text, encode e.2)).map fun p => (p.1, p.2.canonical)) t.entries := by
    rw [List.map_map, List.forall₂_map_left_iff, List.forall₂_same]
    exact fun e he => ⟨e.1.parse_text, h e he⟩
  -- the members were rearranged when they were stored, and the entries are read in their order
  obtain ⟨es, hes, hperm⟩ := List.perm_comp_forall₂ (Json.canonicalMembers_nil_perm hdistinct) hread
  show ofMembers id d.ofValue empty _ = .ok t
  exact ofMembers_eq_ok_iff.2 ⟨es, hes, (insertAll_of_perm hperm).symm⟩

theorem ofMembers_ensures {P : α → Prop} {decode : Json → Except ReadError α} (h : ∀ ⦃v a⦄, decode v = .ok a → P a)
    {ms : Members} {t u : Table k α} (ht : ∀ e ∈ t.entries, P e.2) (hu : ofMembers id decode t ms = .ok u) :
    ∀ e ∈ u.entries, P e.2 := by
  induction ms generalizing t with
  | nil =>
    cases hu
    exact ht
  | cons m r ih =>
    obtain ⟨key, v⟩ := m
    rw [ofMembers] at hu
    split at hu
    · cases hu
    · next a _ =>
      split at hu
      · cases hu
      · next x hx =>
        refine ih (fun e he => ?_) hu
        rcases fst_mem_insertEntry he with rfl | he
        · exact h hx
        · exact ht e he

theorem ensures {P : α → Prop} {d : Decoder α} (h : d.Ensures P) :
    (Table.decode d : Decoder (Table k α)).Ensures fun t => ∀ e ∈ t.entries, P e.2 := by
  intro v t ht
  cases v with
  | obj ms => exact ofMembers_ensures h (t := empty) (by simp [empty]) ht
  | _ => cases ht

/-- a table that is left out when it is empty -/
theorem undoes {key : String} {d : Decoder α} {encode : α → Json} {t : Table k α}
    (h : ∀ e ∈ t.entries, d.Reads (encode e.2) e.2) :
    (defaulted key empty (Table.decode d)).Undoes (t.memberTable key encode) t := by
  unfold memberTable
  split
  · next hempty =>
    have ht : t = empty := by
      obtain ⟨es, hes⟩ := t
      cases es with
      | nil => rfl
      | cons e r => cases hempty
    rw [ht]
    exact undoes_absent rfl
  · exact undoes_field (reads h)

end Table

/-! ## The four tables -/

/-- no channel of the table has a kind that hides a name -/
def Resolved.Canonical (r : Resolved) : Prop := ∀ e ∈ r.channels.entries, e.2.Canonical

theorem Resolved.reads {r : Resolved} (h : r.Canonical) : Resolved.decode.Reads r.encode r :=
  ((Table.undoes fun e _ => User.inverts.reads e.2).map mk
    |>.seq (Table.undoes fun e _ => Member.inverts.reads e.2)
    |>.seq (Table.undoes fun e _ => Role.inverts.reads e.2)
    |>.seq (Table.undoes fun e he => Channel.reads (h e he))).decode (by decide)

theorem Resolved.refusesNull : Resolved.decode.RefusesNull := ⟨_, rfl⟩

theorem Resolved.ensures_canonical : Resolved.decode.Ensures Canonical := by
  refine Ensures.decode ?_
  refine .seq (.pass (.pass ?_)) (ensures_defaulted (Table.ensures Channel.ensures_canonical) (by simp [Table.empty]))
  exact .map (ensures_true _) fun _ _ _ _ _ h => h

end InteractionKit
