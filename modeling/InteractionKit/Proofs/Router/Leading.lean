import InteractionKit.Proofs.Router.Registrations
/-
Keys that end in a colon, and the ids that they lead.

A key that ends in a colon stands for every id that begins with it. An id is looked up under its first key only, so this
holds of a key with no other colon. A key with more is found only if the id has its own registration, or if the first
key of both is registered too; and then it is the handler of the first key that answers. Otherwise nothing does.

- `Interaction.Names`: an interaction with a component or a modal, by a custom id.
- `Promised`: the handlers that the keys call for.
- `dispatch_leading_iff`: an id that begins with a registered key is answered just under this condition.
- `dispatch_leading_lost`, `dispatch_leading_two_colons`: a key with two colons, alone and with its first key.
-/
namespace InteractionKit

/-- an interaction with a component or a modal that has a custom id -/
def Interaction.Names (i : Interaction) (f : RouteFamily) (s : String) : Prop :=
  (f = .component ∧ i.kind = .component ∧ ∃ d, Interaction.componentData? i = some d ∧ d.customId = s) ∨
    (f = .modal ∧ i.kind = .modalSubmit ∧ ∃ d, Interaction.modalData? i = some d ∧ d.customId = s)

/-- the handler is one that the keys call for: that of the id as it is, or else one of a key that ends in a colon and
begins the id -/
def Promised (rs : List (Registration Handler)) (f : RouteFamily) (s : String) (h : Handler) : Prop :=
  exactHandler? rs f s = some h ∨
    exactHandler? rs f s = none ∧ ∃ k, EndsInColon k ∧ Leads k s ∧ lastHandler? rs f k = some h

/-- the lookup meets a registration: of the id as it is, or of the first key -/
def Met (rs : List (Registration Handler)) (f : RouteFamily) (k s : String) : Prop :=
  ¬ EndsInColon s ∧ Registered rs f s ∨ Registered rs f (firstKey k)

theorem Leads.mem {k s : String} (h : Leads k s) (hk : EndsInColon k) : ':' ∈ s.toList := h.subset hk.mem

namespace Router

theorem keyOf?_of_names {i : Interaction} {f : RouteFamily} {s : String} (h : i.Names f s) :
    keyOf? i = some (f, s) := by
  unfold keyOf?
  rcases h with ⟨rfl, hkind, d, hd, rfl⟩ | ⟨rfl, hkind, d, hd, rfl⟩
  · rw [hkind]
    simp only [hd, Option.map_some]
  · rw [hkind]
    simp only [hd, Option.map_some]

theorem Names.not_ping {i : Interaction} {f : RouteFamily} {s : String} (h : i.Names f s) : i.kind ≠ .ping := by
  rcases h with ⟨-, hkind, -⟩ | ⟨-, hkind, -⟩
  · rw [hkind]
    decide
  · rw [hkind]
    decide

/-- a router for every application answers with the handler that the family of the interaction has for its id -/
theorem dispatch_of_names {r : Router Handler} (hr : r.applicationId = none) {i : Interaction} {f : RouteFamily}
    {s : String} (h : i.Names f s) : r.dispatch i = ((r.routes f).get? s).map fun g => g i := by
  unfold dispatch route accepts
  rw [hr, if_pos rfl, if_neg (Names.not_ping h), keyOf?_of_names h, Option.bind_some]
  cases (r.routes f).get? s with
  | none => rfl
  | some g => rfl

/-- an id that begins with a key that ends in a colon: its own handler, else the handler of the first key -/
theorem dispatch_leading (rs : List (Registration Handler)) {f : RouteFamily} {k s : String} {i : Interaction}
    (hi : i.Names f s) (hk : EndsInColon k) (hs : Leads k s) :
    (empty.registerAll rs).dispatch i =
      ((exactHandler? rs f s).or (lastHandler? rs f (firstKey k))).map fun g => g i := by
  have hall : (empty.registerAll rs).applicationId = none := applicationId_registerAll empty rs
  rw [dispatch_of_names hall hi, get?_registerAll routes_empty, if_pos (hs.mem hk), firstKey_of_leads hk.mem hs]

/-- **Ids under a key.** Let a key that ends in a colon be registered, and let an interaction name an id that begins
with it. It is answered by a handler that the keys call for just if the id is registered as it is or the text of the key
through its first colon is registered; else it is not answered at all. A key without another colon is always met. -/
theorem dispatch_leading_iff (rs : List (Registration Handler)) (f : RouteFamily) (k s : String) (i : Interaction)
    (hi : i.Names f s) (hk : EndsInColon k) (hreg : Registered rs f k) (hs : Leads k s) :
    ((∃ h, Promised rs f s h ∧ (empty.registerAll rs).dispatch i = some (h i)) ↔ Met rs f k s) ∧
    ((empty.registerAll rs).dispatch i = none ↔ ¬ Met rs f k s) ∧
    (firstKey k = k → Met rs f k s) := by
  rw [dispatch_leading rs hi hk hs]
  have hfirst : Leads (firstKey k) s := (leads_firstKey hk.mem).trans hs
  cases hexact : exactHandler? rs f s with
  | some h =>
    have hmet : Met rs f k s := by
      refine .inl (exactHandler?_isSome.1 ?_)
      rw [hexact]
      rfl
    refine ⟨⟨fun _ => hmet, fun _ => ⟨h, .inl hexact, rfl⟩⟩, ?_, fun _ => hmet⟩
    simp [hmet]
  | none =>
    have hno : ¬ (¬ EndsInColon s ∧ Registered rs f s) := by
      rw [← exactHandler?_isSome, hexact]
      simp
    have hmet : Met rs f k s ↔ Registered rs f (firstKey k) := or_iff_right hno
    rw [hmet, Option.none_or]
    refine ⟨?_, ?_, fun hone => by rwa [hone]⟩
    · constructor
      · rintro ⟨h, -, hdispatch⟩
        rw [← lastHandler?_isSome]
        obtain ⟨g, hg, -⟩ := Option.map_eq_some_iff.1 hdispatch
        rw [hg]
        rfl
      · intro hfirstreg
        obtain ⟨g, hg⟩ := Option.isSome_iff_exists.1 (lastHandler?_isSome.2 hfirstreg)
        refine ⟨g, .inr ⟨hexact, firstKey k, endsInColon_firstKey k, hfirst, hg⟩, ?_⟩
        rw [hg, Option.map_some]
    · rw [Option.map_eq_none_iff, ← lastHandler?_isSome, Option.not_isSome_iff_eq_none]

/-! ## A key with two colons -/

/-- a press on a component of which only the custom id matters -/
def press (s : String) : Interaction :=
  ⟨⟨5, by decide, by decide⟩, ⟨9, by decide, by decide⟩, .component, some (.component ⟨s, .button, [], none⟩), none,
    none, none, none, none, "", 1, none, none, none, none⟩

/-- one handler, for all ids that begin with "poll:vote:" -/
def votes : List (Registration Handler) := [(.component, "poll:vote:", fun _ => .ok .pong)]

/-- The key is registered and the id begins with it, but the lookup asks for "poll:" and nothing answers. -/
theorem dispatch_leading_lost :
    EndsInColon "poll:vote:" ∧ Registered votes .component "poll:vote:" ∧ Leads "poll:vote:" "poll:vote:3" ∧
    (press "poll:vote:3").Names .component "poll:vote:3" ∧
    (empty.registerAll votes).dispatch (press "poll:vote:3") = none := by
  refine ⟨⟨"poll:vote", rfl⟩, ⟨_, List.mem_singleton.2 rfl⟩, ⟨['3'], by decide⟩, .inl ⟨rfl, rfl, _, rfl, rfl⟩, ?_⟩
  decide

/-- a handler for "poll:" as well -/
def polls : List (Registration Handler) := (.component, "poll:", fun _ => .ok .deferredUpdate) :: votes

/-- With the first key registered the id is met, and a handler of a key that begins it answers. -/
theorem dispatch_leading_two_colons :
    (press "poll:vote:3").Names .component "poll:vote:3" ∧ EndsInColon "poll:vote:" ∧
    Registered polls .component "poll:vote:" ∧ Leads "poll:vote:" "poll:vote:3" ∧
    Met polls .component "poll:vote:" "poll:vote:3" ∧
    ∃ h, Promised polls .component "poll:vote:3" h ∧
      (empty.registerAll polls).dispatch (press "poll:vote:3") = some (h (press "poll:vote:3")) := by
  have hi : (press "poll:vote:3").Names .component "poll:vote:3" := .inl ⟨rfl, rfl, _, rfl, rfl⟩
  have hk : EndsInColon "poll:vote:" := ⟨"poll:vote", rfl⟩
  have hreg : Registered polls .component "poll:vote:" := ⟨_, List.mem_cons_of_mem _ (List.mem_singleton.2 rfl)⟩
  have hs : Leads "poll:vote:" "poll:vote:3" := ⟨['3'], by decide⟩
  have hfirst : firstKey "poll:vote:" = "poll:" := by decide
  have hmet : Met polls .component "poll:vote:" "poll:vote:3" := by
    refine .inr ?_
    rw [hfirst]
    exact ⟨_, List.mem_cons_self⟩
  exact ⟨hi, hk, hreg, hs, hmet, (dispatch_leading_iff polls _ _ _ _ hi hk hreg hs).1.2 hmet⟩

end Router

end InteractionKit
