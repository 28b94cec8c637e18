import InteractionKit.Command
import InteractionKit.Proofs.Component.RoundTrip
import InteractionKit.Proofs.Json.Ensures
/-
Trees of command options are read back from what is written.

An option keeps its value raw, so the value comes back in its stored form, and `null` comes back as no value. An option
whose values are stored and not `null` comes back as it was, with its own options by induction on the tree. Options that
were read have such values, whichever way they were written.

- `CommandOption.Canonical`: every value in the tree is stored and not `null`.
- `CommandOption.reads`: a canonical option is read back.
- `CommandOption.ensures_canonical`: nothing else is read.
-/
namespace InteractionKit

open Decoder Reader

/-! ## Options -/

theorem OptionKind.inverts : OptionKind.decode.Inverts OptionKind.encode :=
  code_inverts fun k => by cases k <;> exact ⟨by decide, rfl⟩

namespace CommandOption

mutual
/-- every value in the tree is in its stored form, and none stands for `null` -/
def Canonical : CommandOption → Prop
  | mk _ _ v os _ => (∀ w ∈ v, w.canonical = w ∧ w ≠ .null) ∧ AllCanonical os
def AllCanonical : List CommandOption → Prop
  | [] => True
  | o :: os => Canonical o ∧ AllCanonical os
end

theorem allCanonical_iff {os : List CommandOption} : AllCanonical os ↔ ∀ o ∈ os, o.Canonical := by
  induction os with
  | nil => simp [AllCanonical]
  | cons o os ih => simp [AllCanonical, ih]

/-! ### Reading back -/

/-- the member for the options of an option, left out without any -/
def optionsMember (os : List CommandOption) : Members :=
  if os.isEmpty then [] else member "options" (.arr (encodeAll os))

/-- the members of an option -/
def members : CommandOption → Members
  | mk n k v os f =>
    member "name" (.str n) ++ member "type" k.encode ++ memberSome "value" id v ++ optionsMember os
      ++ memberFlag "focused" f

theorem encode_eq (o : CommandOption) : o.encode = .obj o.members := by
  cases o
  rw [encode]; rfl

theorem within_members (o : CommandOption) : Json.Within o.members ["name", "type", "value", "options", "focused"] := by
  obtain ⟨n, k, v, os, f⟩ := o
  have hoptions : Json.Within (optionsMember os) ["options"] := by
    unfold optionsMember
    split
    · exact List.nil_sublist _
    · exact Json.within_member _ _
  exact (Json.within_member _ _).append (Json.within_member _ _) |>.append (Json.within_memberSome _ _ _)
    |>.append hoptions |>.append (Json.within_memberFlag _ _)

theorem optionsIn_eq {ms : Members} {v : Json} (h : Json.get? "options" (.obj ms) = some v) :
    optionsIn ms = optionsOf v :=
  first_eq (fun k w r => by rw [optionsIn]) h

/-- an option is read back once its own options are -/
theorem ofValue_encode {n : String} {k : OptionKind} {v : Option Json} {os : List CommandOption} {f : Bool}
    (hv : ∀ w ∈ v, w.canonical = w ∧ w ≠ .null) (hos : decodeAll (Json.canonicalItems (encodeAll os)) = .ok os) :
    ofValue (encode (mk n k v os f)).canonical = .ok (mk n k v os f) := by
  let stored : Members := Json.canonicalMembers [] (members (mk n k v os f))
  have hn : ["name", "type", "value", "options", "focused"].Nodup := by decide
  have hdistinct : Json.Distinct (members (mk n k v os f)) := (within_members _).distinct hn
  have hchildren : (defaulted "options" [] (.whole fun _ => optionsIn stored)).Undoes (optionsMember os) os := by
    cases os with
    | nil => exact undoes_absent rfl
    | cons o os =>
      refine undoes_field ?_
      have hmem : ("options", .arr (encodeAll (o :: os))) ∈ members (mk n k v (o :: os) f) := by
        simp [members, optionsMember, member]
      have hget := Json.get?_canonicalMembers "options" hdistinct
      rw [(Json.get?_eq_some_iff hdistinct).2 hmem] at hget
      rw [Decoder.Reads, ofValue_whole, optionsIn_eq hget]
      exact hos
  have hvalue : (optional "value" raw).Undoes (memberSome "value" id v) v := by
    have hstored : (v.map fun w => (id w).canonical) = v := by
      cases v with
      | none => rfl
      | some w => exact congrArg some (hv w rfl).1
    have hraw : (optional "value" raw).Undoes (memberSome "value" id v) (v.map fun w => (id w).canonical) :=
      undoes_raw fun w hw => (hv w hw).2
    rwa [hstored] at hraw
  have hundoes : (reader (.whole fun _ => optionsIn stored)).Undoes (members (mk n k v os f)) (mk n k v os f) :=
    (undoes_field (text_inverts.reads n)).map mk
      |>.seq (undoes_field (OptionKind.inverts.reads k))
      |>.seq hvalue
      |>.seq hchildren
      |>.seq (undoes_flag f)
  rw [encode_eq]
  exact hundoes.decodeMembers hn

mutual
/-- a canonical option is read back, by induction on the tree -/
theorem decode_encode : (o : CommandOption) → o.Canonical → ofValue o.encode.canonical = .ok o
  | mk _ _ _ os _, h => ofValue_encode h.1 (decodeAll_encodeAll os h.2)
theorem decodeAll_encodeAll : (os : List CommandOption) → AllCanonical os →
    decodeAll (Json.canonicalItems (encodeAll os)) = .ok os
  | [], _ => rfl
  | o :: os, h => by
    simp only [encodeAll, Json.canonicalItems, decodeAll, decode_encode o h.1, decodeAll_encodeAll os h.2]; rfl
end

theorem reads {o : CommandOption} (h : o.Canonical) : decode.Reads o.encode o := decode_encode o h

/-! ### What is read -/

theorem reader_ensures {options : Decoder (List CommandOption)} (h : options.Ensures AllCanonical) :
    (reader options).Ensures Canonical := by
  refine .pass (.seq (.seq ?_ (ensures_gap raw_ensures)) (ensures_defaulted h trivial))
  exact .pass (.map (ensures_true _) fun _ _ _ _ hv _ hos _ => ⟨hv, hos⟩)

mutual
/-- every option that is read is canonical -/
theorem canonical_of_ofValue : (v : Json) → {o : CommandOption} → ofValue v = .ok o → o.Canonical
  | .obj ms, _, h => by
    rw [ofValue] at h
    exact (reader_ensures fun _ _ hos => canonical_of_optionsIn ms hos).decodeMembers h
  | .arr xs, _, h => by
    rw [ofValue] at h
    exact (reader_ensures fun _ _ hos => canonical_of_optionsAt xs hos).decodeItems h
  | .null, _, h | .bool _, _, h | .int _, _, h | .float _, _, h | .str _, _, h => by cases h
theorem canonical_of_optionsIn : (ms : Members) → {os : List CommandOption} → optionsIn ms = .ok os → AllCanonical os
  | [], _, h => by
    cases h
    trivial
  | (k, v) :: r, _, h => by
    rw [optionsIn] at h
    split at h
    · exact canonical_of_optionsOf v h
    · exact canonical_of_optionsIn r h
theorem canonical_of_optionsAt : (xs : List Json) → {os : List CommandOption} → optionsAt xs = .ok os →
    AllCanonical os
  | _ :: _ :: _ :: v :: _, _, h => canonical_of_optionsOf v h
  | [], _, h | [_], _, h | [_, _], _, h | [_, _, _], _, h => by
    cases h
    trivial
theorem canonical_of_optionsOf : (v : Json) → {os : List CommandOption} → optionsOf v = .ok os → AllCanonical os
  | .arr vs, _, h => canonical_of_decodeAll vs h
  | .null, _, h | .bool _, _, h | .int _, _, h | .float _, _, h | .str _, _, h | .obj _, _, h => by cases h
theorem canonical_of_decodeAll : (vs : List Json) → {os : List CommandOption} → decodeAll vs = .ok os →
    AllCanonical os
  | [], _, h => by
    cases h
    trivial
  | v :: vs, _, h => by
    rw [decodeAll] at h
    split at h
    · cases h
    · next o ho =>
      obtain ⟨os, hos, rfl⟩ := map_eq_ok h
      exact ⟨canonical_of_ofValue v ho, canonical_of_decodeAll vs hos⟩
end

theorem ensures_canonical : decode.Ensures Canonical := fun v _ h => canonical_of_ofValue v h

end CommandOption

end InteractionKit
