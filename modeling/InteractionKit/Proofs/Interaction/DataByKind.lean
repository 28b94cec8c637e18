import InteractionKit.Proofs.Interaction.RoundTrip
import InteractionKit.Proofs.Json.Passing
import InteractionKit.Proofs.Router.Dispatch
/-
The kind alone decides what becomes of the data.

The data is taken up as it came, which never fails, and is read by the kind once all other fields are. So an interaction
is read as the same one without its data, and then its data: data that the kind does not ask for is open to any value,
and data that it asks for is closed to all but one form, also where another kind would read it.

- `Interaction.Governed`: each view of the data shows what the kind asks for, and a router finds its key there.
- `InteractionKind.Dataless`, `InteractionKind.TakesData`: kinds that ask for none, and what the others ask for.
- `Interaction.parallel_reader`: the fields with the data and without it.
- `Interaction.decode_eq_bind`: the rest is read first, then the data by the kind.
- `data_governed_by_kind`: what is read, what is open, what is closed.
-/
namespace InteractionKit

open Reader

/-! ## Kinds -/

namespace InteractionKind

/-- a kind without data -/
def Dataless : InteractionKind → Prop
  | .ping | .unknown _ => True
  | _ => False

/-- the value is data in the form that the kind asks for; a kind without data asks for nothing -/
def TakesData : InteractionKind → Json → Prop
  | .command, v | .autocomplete, v => CommandData.decode.Takes v
  | .component, v => ComponentData.decode.Takes v
  | .modalSubmit, v => Submission.decode.Takes v
  | .ping, _ | .unknown _, _ => True

end InteractionKind

namespace InteractionData

/-- what data is routed by -/
def key : InteractionData → String
  | command d => d.name
  | component d => d.customId
  | modal d => d.customId

theorem decodeAs_of_dataless {k : InteractionKind} (h : k.Dataless) (v : Json) : decodeAs k v = .ok none := by
  cases k with
  | ping | unknown _ => rfl
  | _ => exact h.elim

/-- a form is read, or refused for its shape -/
theorem ofForm_cases {α : Type} (decode : Decoder α) (f : α → InteractionData) (v : Json) :
    (decode.Takes v ∧ ∃ o, ofForm decode f v = .ok o) ∨
      (¬ decode.Takes v ∧ ∃ cause, ofForm decode f v = .error (.shape cause)) := by
  unfold ofForm
  cases hv : decode.ofValue v with
  | ok a => exact .inl ⟨⟨a, hv⟩, _, rfl⟩
  | error e => exact .inr ⟨Decoder.not_takes hv, e, rfl⟩

theorem decodeAs_cases (k : InteractionKind) (v : Json) :
    (k.TakesData v ∧ ∃ o, decodeAs k v = .ok o) ∨
      (¬ k.TakesData v ∧ ∃ cause, decodeAs k v = .error (.shape cause)) := by
  cases k with
  | command => exact ofForm_cases CommandData.decode command v
  | autocomplete => exact ofForm_cases CommandData.decode command v
  | component => exact ofForm_cases ComponentData.decode component v
  | modalSubmit => exact ofForm_cases Submission.decode modal v
  | ping | unknown _ => exact .inl ⟨trivial, none, rfl⟩

/-- data that is refused is refused for its shape -/
theorem shape_of_decodeAs {k : InteractionKind} {v : Json} {e : DecodeError} (h : decodeAs k v = .error e) :
    ∃ cause, e = .shape cause := by
  rcases decodeAs_cases k v with ⟨-, o, ho⟩ | ⟨-, cause, hcause⟩
  · rw [ho] at h
    cases h
  · rw [hcause] at h
    cases h
    exact ⟨cause, rfl⟩

/-- data that is read has the form of the kind -/
theorem takes_of_decodeAs {k : InteractionKind} {v : Json} {o : Option InteractionData} (h : decodeAs k v = .ok o) :
    k.TakesData v := by
  rcases decodeAs_cases k v with ⟨hv, -⟩ | ⟨-, cause, hcause⟩
  · exact hv
  · rw [hcause] at h
    cases h

end InteractionData

/-! ## Views -/

namespace Interaction

/-- Each view of the data shows it for its own kinds and for no other, kinds without data have none, and the key that a
router looks for is in the data that the view of the kind shows. -/
structure Governed (i : Interaction) : Prop where
  fits : ∀ d ∈ i.data, d.Fits i.kind
  command : i.commandData?.map .command = if i.kind = .command ∨ i.kind = .autocomplete then i.data else none
  component : i.componentData?.map .component = if i.kind = .component then i.data else none
  modal : i.modalData?.map .modal = if i.kind = .modalSubmit then i.data else none
  dataless : i.kind.Dataless → i.data = none
  routed : ∀ f : RouteFamily, i.kind = f.kind → Router.keyOf? i = i.data.map fun d => (f, d.key)

/-- a router finds its key in data of the form of the kind -/
theorem keyOf?_of_fits {i : Interaction} (h : ∀ d ∈ i.data, d.Fits i.kind) (f : RouteFamily) (hf : i.kind = f.kind) :
    Router.keyOf? i = i.data.map fun d => (f, d.key) := by
  obtain ⟨id, applicationId, kind, data, guildId, channelId, channel, member, user, token, version, message,
    appPermissions, locale, guildLocale⟩ := i
  obtain rfl : kind = f.kind := hf
  cases data with
  | none => cases f <;> rfl
  | some d =>
    have hfits : d.Fits f.kind := h d rfl
    -- the family looks at the data, or its kind asks for another form
    cases f <;> cases d <;> first | rfl | simp [InteractionData.Fits, RouteFamily.kind] at hfits

/-- data of the form of the kind is what its views show -/
theorem governed_of_fits {i : Interaction} (h : ∀ d ∈ i.data, d.Fits i.kind) : i.Governed := by
  have hrouted := keyOf?_of_fits h
  obtain ⟨id, applicationId, kind, data, guildId, channelId, channel, member, user, token, version, message,
    appPermissions, locale, guildLocale⟩ := i
  cases data with
  | none => exact ⟨h, (ite_self none).symm, (ite_self none).symm, (ite_self none).symm, fun _ => rfl, hrouted⟩
  | some d =>
    have hfits : d.Fits kind := h d rfl
    cases d with
    | command c =>
      rcases hfits with rfl | rfl
      · exact ⟨h, rfl, rfl, rfl, False.elim, hrouted⟩
      · exact ⟨h, rfl, rfl, rfl, False.elim, hrouted⟩
    | component c =>
      cases hfits
      exact ⟨h, rfl, rfl, rfl, False.elim, hrouted⟩
    | modal s =>
      cases hfits
      exact ⟨h, rfl, rfl, rfl, False.elim, hrouted⟩

theorem governed_of_decode {v : Json} {i : Interaction} (h : decode v = .ok i) : i.Governed :=
  governed_of_fits fun d hd => ((canonical_of_decode h).data d hd).2

/-! ## The data apart from the rest -/

/-- the kind is what stands under `type` -/
theorem shows_kind : reader.Shows "type" InteractionKind.decode fun e k => e.kind = k := by
  iterate 12 refine .pass ?_
  refine .last shows_required (.pass (.map (ensures_true _) ?_))
  intros
  rfl

/-- data as it came: its stored form, none for `null` -/
def taken? (w : Json) : Option Json := if w = .null then none else some w.canonical

theorem raw_taken? (w : Json) : Decoder.raw.nullable.ofValue w = .ok (taken? w) := by
  unfold taken?
  split
  · next h => rw [h]; rfl
  · next h => rw [Decoder.nullable_of_ne_null h]; rfl

/-- without the data the fields are read alike, but for the data -/
theorem parallel_reader {w : Json} {before after : Members} (hbefore : "data" ∉ Json.keys before)
    (hafter : "data" ∉ Json.keys after) :
    reader.Parallel before "data" w after fun e e' => e = { e' with data := taken? w } ∧ e'.data = none := by
  iterate 11 refine .pass (by decide) ?_
  refine .seq ?_ (parallel_own (raw_taken? w) rfl hbefore hafter)
  iterate 2 refine .pass (by decide) ?_
  refine .map (parallel_field (by decide)) ?_
  rintro id _ rfl applicationId kind _ _ ⟨rfl, rfl⟩
  intros
  exact ⟨rfl, rfl⟩

/-- the data of a kind, from the value that stands for it -/
def readAs (k : InteractionKind) (w : Json) : Except DecodeError (Option InteractionData) :=
  (taken? w).elim (.ok none) (InteractionData.decodeAs k)

theorem dataOf_taken (e : Envelope Json) (w : Json) : dataOf { e with data := taken? w } = readAs e.kind w := by
  unfold dataOf readAs
  cases taken? w <;> rfl

/-- **The data is read last, by the kind.** An interaction with a value for its data is read as the one without, and then
its data. -/
theorem decode_eq_bind {ms : Members} {w : Json} (hms : Json.Distinct ms) (hw : Json.get? "data" (.obj ms) = some w) :
    decode (.obj ms) = (decode (.obj (Json.without "data" ms))).bind fun i =>
      (readAs i.kind w).map fun data => { i with data } := by
  obtain ⟨before, after, rfl, hbefore, hafter⟩ := Json.exists_around hms hw
  rw [Json.without_around hbefore hafter]
  rcases (parallel_reader (w := w) hbefore hafter).decode "InteractionEnvelope" with
    ⟨_, e, he, he', rfl, hnone⟩ | ⟨cause, he, he'⟩
  · have hrest : dataOf e = .ok none := by rw [dataOf, hnone]
    simp only [decode, he, he', hrest, dataOf_taken, Except.bind]
    cases readAs e.kind w <;> rfl
  · simp only [decode, he, he', Except.bind]

/-! ### The kind of members -/

/-- the members tell the kind -/
def Tells (ms : Members) (k : InteractionKind) : Prop :=
  ∃ t, Json.get? "type" (.obj ms) = some t ∧ InteractionKind.decode.ofValue t = .ok k

variable {ms : Members} {k : InteractionKind}

theorem Tells.unique {l : InteractionKind} (h : Tells ms k) (h' : Tells ms l) : k = l := by
  obtain ⟨t, ht, hk⟩ := h
  obtain ⟨t', ht', hl⟩ := h'
  rw [ht] at ht'
  cases ht'
  rw [hk] at hl
  exact Except.ok.inj hl

theorem tells_without : Tells (Json.without "data" ms) k ↔ Tells ms k := by
  unfold Tells
  rw [Json.get?_without (by decide)]

theorem tells_of_decode {i : Interaction} (h : decode (.obj ms) = .ok i) : Tells ms i.kind := by
  unfold decode at h
  split at h
  · cases h
  · next e he =>
    obtain ⟨t, k, ht, hk, rfl⟩ := shows_kind (decodeMembers_eq_ok he)
    split at h
    · cases h
    · cases h
      exact ⟨t, ht, hk⟩

/-- an interaction that is refused is refused for its shape -/
theorem shape_of_decode {v : Json} {e : DecodeError} (h : decode v = .error e) : ∃ cause, e = .shape cause := by
  unfold decode at h
  split at h
  · next cause _ =>
    cases h
    exact ⟨cause, rfl⟩
  · next fields _ =>
    split at h
    · next hdata =>
      cases h
      unfold dataOf at hdata
      split at hdata
      · exact InteractionData.shape_of_decodeAs hdata
      · cases hdata
    · cases h

/-! ### Open and closed -/

/-- a kind without data passes over whatever stands for it -/
theorem decode_without (hms : Json.Distinct ms) (hk : Tells ms k) (hnone : k.Dataless) :
    decode (.obj (Json.without "data" ms)) = decode (.obj ms) := by
  by_cases hkey : "data" ∈ Json.keys ms
  · obtain ⟨⟨_, w⟩, hmem, rfl⟩ := List.mem_map.1 hkey
    rw [decode_eq_bind hms ((Json.get?_eq_some_iff hms).2 hmem)]
    cases hrest : decode (.obj (Json.without "data" ms)) with
    | error e => rfl
    | ok i =>
      obtain rfl : i.kind = k := (tells_without.1 (tells_of_decode hrest)).unique hk
      have hread : readAs i.kind w = .ok none := by
        unfold readAs
        cases taken? w with
        | none => rfl
        | some v => exact InteractionData.decodeAs_of_dataless hnone v
      have hdata : { i with data := none } = i := by rw [← (governed_of_decode hrest).dataless hnone]
      simp only [Except.bind, hread, Except.map, hdata]
  · rw [Json.without_eq_self hkey]

/-- data that was read, and is not `null`, has the form of the kind -/
theorem takes_of_decode {i : Interaction} {w : Json} (hms : Json.Distinct ms) (h : decode (.obj ms) = .ok i)
    (hw : Json.get? "data" (.obj ms) = some w) (hnull : w ≠ .null) : i.kind.TakesData w.canonical := by
  rw [decode_eq_bind hms hw] at h
  cases hrest : decode (.obj (Json.without "data" ms)) with
  | error e =>
    rw [hrest] at h
    cases h
  | ok rest =>
    rw [hrest] at h
    obtain ⟨o, ho, rfl⟩ := map_eq_ok h
    simp only [readAs, taken?, if_neg hnull, Option.elim_some] at ho
    exact InteractionData.takes_of_decodeAs ho

/-- a kind with data refuses any other form -/
theorem decode_of_not_takes {w : Json} (hms : Json.Distinct ms) (hk : Tells ms k)
    (hw : Json.get? "data" (.obj ms) = some w) (hnull : w ≠ .null) (h : ¬ k.TakesData w.canonical) :
    ∃ cause, decode (.obj ms) = .error (.shape cause) := by
  cases hdecode : decode (.obj ms) with
  | error e =>
    obtain ⟨cause, rfl⟩ := shape_of_decode hdecode
    exact ⟨cause, rfl⟩
  | ok i =>
    obtain rfl : i.kind = k := (tells_of_decode hdecode).unique hk
    exact absurd (takes_of_decode hms hdecode hw hnull) h

end Interaction

/-! ## Main result -/

/-- **The kind alone governs the data.** An interaction that was read shows its data in the view of its kind and in no
other. Of objects, in which no key stands twice, those of a kind without data are read alike whatever stands for the data,
or if nothing does. One of any other kind is refused for its shape when something stands there that has not the form of
this kind, be it the form of another. -/
theorem data_governed_by_kind :
    (∀ v i, Interaction.decode v = .ok i → i.Governed) ∧
    ∀ ms k, Json.Distinct ms → Interaction.Tells ms k →
      (k.Dataless →
        Interaction.decode (.obj (Json.without "data" ms)) = Interaction.decode (.obj ms) ∧
        ∀ ms', Json.Distinct ms' → Json.without "data" ms' = Json.without "data" ms →
          Interaction.decode (.obj ms') = Interaction.decode (.obj ms)) ∧
      ∀ w, Json.get? "data" (.obj ms) = some w → w ≠ .null → ¬ k.TakesData w.canonical →
        ∃ cause, Interaction.decode (.obj ms) = .error (.shape cause) := by
  refine ⟨fun v i h => Interaction.governed_of_decode h, ?_⟩
  intro ms k hms hk
  refine ⟨fun hnone => ?_, fun w hw hnull h => Interaction.decode_of_not_takes hms hk hw hnull h⟩
  have hremoved := Interaction.decode_without hms hk hnone
  refine ⟨hremoved, fun ms' hms' hsame => ?_⟩
  have hk' : Interaction.Tells ms' k := by rwa [← Interaction.tells_without, hsame, Interaction.tells_without]
  rw [← Interaction.decode_without hms' hk' hnone, hsame, hremoved]

/-- an interaction of a kind, with something for its data -/
def slip (kind : Int) (data : Json) : Members :=
  [("application_id", .str "114"), ("data", data), ("id", .str "113"), ("token", .str "t"), ("type", .int kind)]

/-- data in the form of a modal, without a component kind -/
def filledForm : Json := .obj [("components", .arr []), ("custom_id", .str "ticket")]

/-- the modal that was submitted with the form -/
def submitted : Interaction where
  id := ⟨113, by decide, by decide⟩
  applicationId := ⟨114, by decide, by decide⟩
  kind := .modalSubmit
  data := some (.modal ⟨"ticket", []⟩)
  guildId := none
  channelId := none
  channel := none
  member := none
  user := none
  token := "t"
  version := 1
  message := none
  appPermissions := none
  locale := none
  guildLocale := none

/-- One form under three kinds: a modal shows it and is routed by it, a component is refused for it, a ping is read as
with any other data and without. -/
theorem data_governed_by_kind_form :
    Interaction.decode (.obj (slip 5 filledForm)) = .ok submitted ∧ submitted.Governed ∧
    (∃ cause, Interaction.decode (.obj (slip 3 filledForm)) = .error (.shape cause)) ∧
    (∃ i, Interaction.decode (.obj (slip 1 filledForm)) = .ok i) ∧
    Interaction.decode (.obj (Json.without "data" (slip 1 filledForm))) = Interaction.decode (.obj (slip 1 filledForm)) ∧
    ∀ w, Interaction.decode (.obj (slip 1 w)) = Interaction.decode (.obj (slip 1 filledForm)) := by
  obtain ⟨hread, hkinds⟩ := data_governed_by_kind
  have hsubmitted : Interaction.decode (.obj (slip 5 filledForm)) = .ok submitted := rfl
  have hdistinct (kind : Int) (w : Json) : Json.Distinct (slip kind w) := by
    show ["application_id", "data", "id", "token", "type"].Nodup
    decide
  have hclosed := (hkinds (slip 3 filledForm) .component (hdistinct 3 _) ⟨_, rfl, rfl⟩).2 filledForm rfl nofun
    (Decoder.not_takes (e := .missing "component_type") rfl)
  obtain ⟨hremoved, hreplaced⟩ := (hkinds (slip 1 filledForm) .ping (hdistinct 1 _) ⟨_, rfl, rfl⟩).1 trivial
  exact ⟨hsubmitted, hread _ _ hsubmitted, hclosed, ⟨_, rfl⟩, hremoved, fun w => hreplaced _ (hdistinct 1 w) rfl⟩

end InteractionKit
