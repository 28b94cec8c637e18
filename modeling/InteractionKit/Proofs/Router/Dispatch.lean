import InteractionKit.Proofs.Router.Registrations
import Mathlib.Data.Finset.Card
/-
An interaction against the log of registrations.

What an interaction is routed by lies in one family, and only the last registration of each key of this family counts.
A handler that is called was registered last under a key that the log calls for: the text of the interaction as it is,
or a key that ends in a colon and begins the text. In the latter case the argument of a component is what the key leaves
of its custom id, because both cuts are made at the first colon.

- `Interaction.Asks`: the family and the text that an interaction is routed by.
- `Finds`: what a text finds in the log of a family, and under which key.
- `route_eq_handled_iff`: when a handler is called.
- `dispatch_congr`: registrations that are not the last of a key in the family make no difference.
- `size_registerAll`: a router has as many routes as there are keys in the log.
- `dispatch_sound`: the answers of a router with any filter, after any registrations.
-/
namespace InteractionKit

variable {η : Type}

/-! ## What interactions ask for -/

/-- the kind of the interactions that a family answers -/
def RouteFamily.kind : RouteFamily → InteractionKind
  | .command => .command
  | .autocomplete => .autocomplete
  | .component => .component
  | .modal => .modalSubmit

theorem RouteFamily.kind_injective : Function.Injective RouteFamily.kind := by
  intro f g h
  cases f <;> cases g <;> cases h <;> rfl

namespace Interaction

/-- the name or the custom id in the data that a family looks at, if it is there -/
def textIn? (i : Interaction) : RouteFamily → Option String
  | .command | .autocomplete => (commandData? i).map fun d => d.name
  | .component => (componentData? i).map fun d => d.customId
  | .modal => (modalData? i).map fun d => d.customId

/-- an interaction of the kind of a family, with a text to be routed by -/
def Asks (i : Interaction) (f : RouteFamily) (s : String) : Prop := i.kind = f.kind ∧ i.textIn? f = some s

theorem Asks.not_ping {i : Interaction} {f : RouteFamily} {s : String} (h : i.Asks f s) : i.kind ≠ .ping := by
  rw [h.1]
  cases f <;> decide

end Interaction

/-! ## What the log has for a text -/

/-- a text finds a handler under a key: the last of the text itself, or the last of a key that ends in a colon and begins
the text, if the text itself has none -/
def Finds (rs : List (Registration η)) (f : RouteFamily) (s k : String) (h : η) : Prop :=
  lastHandler? rs f k = some h ∧
    (k = s ∧ ¬ EndsInColon k ∨ EndsInColon k ∧ Leads k s ∧ exactHandler? rs f s = none)

theorem exactHandler?_eq_some {rs : List (Registration η)} {f : RouteFamily} {s : String} {h : η} :
    exactHandler? rs f s = some h ↔ ¬ EndsInColon s ∧ lastHandler? rs f s = some h := by
  unfold exactHandler?
  split
  · next hs => simp [hs]
  · next hs => simp [hs]

/-- the last registration of two logs is that of the second, where it has one -/
theorem lastHandler?_append (rs rs' : List (Registration η)) (f : RouteFamily) (key : String) :
    lastHandler? (rs ++ rs') f key = (lastHandler? rs' f key).or (lastHandler? rs f key) := by
  unfold lastHandler?
  rw [List.reverse_append, List.find?_append, Option.map_or]

/-- registrations in other families are not looked at -/
theorem lastHandler?_filter (rs : List (Registration η)) (f : RouteFamily) (key : String) :
    lastHandler? (rs.filter fun p => p.1 = f) f key = lastHandler? rs f key := by
  induction rs using List.reverseRecOn with
  | nil => rfl
  | append_singleton rs p ih =>
    rw [List.filter_append, lastHandler?_snoc]
    by_cases hf : p.1 = f
    · have hp : [p].filter (fun q => q.1 = f) = [p] := by simp [hf]
      rw [hp, lastHandler?_snoc, ih]
    · have hp : [p].filter (fun q => q.1 = f) = [] := by simp [hf]
      rw [hp, List.append_nil, ih, if_neg fun h => hf h.1]

/-- nor is a registration whose key is registered again behind it -/
theorem lastHandler?_overwritten {pre post : List (Registration η)} {p : Registration η}
    (hp : Registered post p.1 p.2.1) (f : RouteFamily) (key : String) :
    lastHandler? (pre ++ p :: post) f key = lastHandler? (pre ++ post) f key := by
  have hsplit : pre ++ p :: post = pre ++ [p] ++ post := by simp
  rw [hsplit, lastHandler?_append (pre ++ [p]), lastHandler?_append pre post, lastHandler?_snoc]
  split
  · next hkey =>
    obtain ⟨rfl, rfl⟩ := hkey
    obtain ⟨h, hh⟩ := Option.isSome_iff_exists.1 (lastHandler?_isSome.2 hp)
    rw [hh, Option.some_or, Option.some_or]
  · rfl

/-- what follows the first colon of a custom id is what its first key leaves -/
theorem ComponentData.argument?_of_colon {d : ComponentData} (h : ':' ∈ d.customId.toList) :
    ∃ a, d.argument? = some a ∧ d.customId = firstKey d.customId ++ a := by
  obtain ⟨p, hp, hfirst, bs, hbs⟩ := exists_firstKey h
  rw [toList_append_colon, List.append_assoc, List.singleton_append] at hbs
  refine ⟨String.ofList bs, ?_, ?_⟩
  · rw [argument?, splitAtColon_eq_some.2 ⟨hbs.symm, hp⟩, Option.map_some]
  · rw [hfirst, ← String.toList_inj, String.toList_append, toList_append_colon, String.toList_ofList, ← hbs,
      List.append_assoc, List.singleton_append]

namespace Router

/-! ## Where interactions go -/

section Routing

variable {r : Router η} {i : Interaction} {f : RouteFamily} {s : String} {h : η}

theorem keyOf?_eq_some_iff : keyOf? i = some (f, s) ↔ i.Asks f s := by
  constructor
  · intro hkey
    have hpair {α : Type} {g : RouteFamily} {o : Option α} {text : α → String}
        (h : (o.map fun d => (g, text d)) = some (f, s)) : g = f ∧ o.map text = some s := by
      obtain ⟨d, rfl, heq⟩ := Option.map_eq_some_iff.1 h
      cases heq
      exact ⟨rfl, rfl⟩
    unfold keyOf? at hkey
    split at hkey
    · next hkind =>
      obtain ⟨rfl, htext⟩ := hpair hkey
      exact ⟨hkind, htext⟩
    · next hkind =>
      obtain ⟨rfl, htext⟩ := hpair hkey
      exact ⟨hkind, htext⟩
    · next hkind =>
      obtain ⟨rfl, htext⟩ := hpair hkey
      exact ⟨hkind, htext⟩
    · next hkind =>
      obtain ⟨rfl, htext⟩ := hpair hkey
      exact ⟨hkind, htext⟩
    · cases hkey
    · cases hkey
  · rintro ⟨hkind, htext⟩
    unfold keyOf?
    cases f with
    | command | autocomplete | component | modal =>
      obtain ⟨d, hd, rfl⟩ := Option.map_eq_some_iff.1 htext
      rw [hkind]
      simp only [RouteFamily.kind, hd, Option.map_some]

theorem accepts_iff : r.accepts i = true ↔ ∀ a, r.applicationId = some a → i.applicationId = a := by
  unfold accepts
  cases r.applicationId with
  | none => simp
  | some a => simp

theorem route_of_refused (hno : ¬ r.accepts i = true) : r.route i = .ignored := by
  unfold route
  rw [if_neg hno]

theorem route_of_ping (hyes : r.accepts i = true) (hkind : i.kind = .ping) : r.route i = .pong := by
  unfold route
  rw [if_pos hyes, if_pos hkind]

theorem route_of_asks (hyes : r.accepts i = true) (hi : i.Asks f s) :
    r.route i = ((r.routes f).get? s).elim .ignored .handled := by
  unfold route
  rw [if_pos hyes, if_neg hi.not_ping, keyOf?_eq_some_iff.2 hi, Option.bind_some]
  cases (r.routes f).get? s <;> rfl

/-- an interaction without a text to be routed by is passed over -/
theorem route_of_keyOf?_eq_none (hkind : i.kind ≠ .ping) (hkey : keyOf? i = none) : r.route i = .ignored := by
  unfold route
  rw [if_neg hkind, hkey, Option.bind_none]
  exact ite_self _

/-- a handler is called when the family of the interaction has it for the text -/
theorem route_eq_handled_iff :
    r.route i = .handled h ↔ r.accepts i = true ∧ ∃ f s, i.Asks f s ∧ (r.routes f).get? s = some h := by
  constructor
  · intro hroute
    by_cases hyes : r.accepts i = true
    · refine ⟨hyes, ?_⟩
      by_cases hkind : i.kind = .ping
      · rw [route_of_ping hyes hkind] at hroute
        cases hroute
      · cases hkey : keyOf? i with
        | none =>
          rw [route_of_keyOf?_eq_none hkind hkey] at hroute
          cases hroute
        | some p =>
          obtain ⟨f, s⟩ := p
          have hi := keyOf?_eq_some_iff.1 hkey
          rw [route_of_asks hyes hi] at hroute
          cases hget : (r.routes f).get? s with
          | none =>
            rw [hget] at hroute
            cases hroute
          | some g =>
            rw [hget] at hroute
            cases hroute
            exact ⟨f, s, hi, hget⟩
    · rw [route_of_refused hyes] at hroute
      cases hroute
  · rintro ⟨hyes, f, s, hi, hget⟩
    rw [route_of_asks hyes hi, hget, Option.elim_some]

/-- only a ping gets a pong -/
theorem kind_of_pong (hroute : r.route i = .pong) : i.kind = .ping := by
  by_contra hkind
  unfold route at hroute
  rw [if_neg hkind] at hroute
  split at hroute
  · split at hroute <;> cases hroute
  · cases hroute

end Routing

/-! ## Routers with a log -/

section Logged

variable {r : Router η} (hr : ∀ f, r.routes f = .empty)
include hr

/-- a text is answered by its own registration, or if it has none by that of its first key -/
theorem get?_registerAll_eq_some {rs : List (Registration η)} {f : RouteFamily} {s : String} {h : η}
    (hget : ((r.registerAll rs).routes f).get? s = some h) :
    ¬ EndsInColon s ∧ lastHandler? rs f s = some h ∨
      ':' ∈ s.toList ∧ exactHandler? rs f s = none ∧ lastHandler? rs f (firstKey s) = some h := by
  rw [get?_registerAll hr] at hget
  cases hexact : exactHandler? rs f s with
  | some g =>
    rw [hexact, Option.some_or] at hget
    cases hget
    exact .inl (exactHandler?_eq_some.1 hexact)
  | none =>
    rw [hexact, Option.none_or] at hget
    split at hget
    · next hcolon => exact .inr ⟨hcolon, rfl, hget⟩
    · cases hget

/-- only the last registrations of a family count for what it answers -/
theorem get?_registerAll_congr {rs rs' : List (Registration η)} {f : RouteFamily}
    (h : ∀ k, lastHandler? rs' f k = lastHandler? rs f k) (s : String) :
    ((r.registerAll rs').routes f).get? s = ((r.registerAll rs).routes f).get? s := by
  rw [get?_registerAll hr, get?_registerAll hr]
  unfold exactHandler?
  rw [h, h]

/-- only the last registrations of the family of an interaction count for where it goes -/
theorem route_congr {rs rs' : List (Registration η)} {i : Interaction}
    (h : ∀ f, i.kind = f.kind → ∀ k, lastHandler? rs' f k = lastHandler? rs f k) :
    (r.registerAll rs').route i = (r.registerAll rs).route i := by
  have haccepts : (r.registerAll rs').accepts i = (r.registerAll rs).accepts i := by
    unfold accepts
    rw [applicationId_registerAll, applicationId_registerAll]
  unfold route
  rw [haccepts]
  cases hkey : keyOf? i with
  | none => rfl
  | some p =>
    obtain ⟨f, s⟩ := p
    have hi := keyOf?_eq_some_iff.1 hkey
    rw [Option.bind_some, Option.bind_some, get?_registerAll_congr hr (h f hi.1)]

end Logged

/-- an answer is a pong to a ping, or that of a handler -/
theorem answer_of_dispatch {r : Router Handler} {i : Interaction} {answer : Except CommandOption.Misuse Response}
    (h : r.dispatch i = some answer) :
    i.kind = .ping ∧ answer = .ok .pong ∨ ∃ h, r.route i = .handled h ∧ answer = h i := by
  unfold dispatch at h
  cases hroute : r.route i with
  | ignored =>
    rw [hroute] at h
    cases h
  | pong =>
    rw [hroute] at h
    cases h
    exact .inl ⟨kind_of_pong hroute, rfl⟩
  | handled g =>
    rw [hroute] at h
    cases h
    exact .inr ⟨g, rfl, rfl⟩

theorem dispatch_congr {r r' : Router Handler} {i : Interaction} (h : r'.route i = r.route i) :
    r'.dispatch i = r.dispatch i := by
  unfold dispatch
  rw [h]

/-! ## Number of routes -/

theorem length_putRoute (key : String) (h : η) (rs : List (String × η)) :
    (putRoute key h rs).length = if (rs.lookup key).isSome then rs.length else rs.length + 1 := by
  induction rs with
  | nil => rfl
  | cons p rs ih =>
    obtain ⟨k, g⟩ := p
    unfold putRoute
    by_cases hk : k = key
    · simp [hk]
    · have hbeq : (key == k) = false := beq_false_of_ne (Ne.symm hk)
      rw [if_neg hk, List.lookup_cons, hbeq, List.length_cons, ih, List.length_cons]
      split <;> rfl

/-- a family grows by one when its log has nothing for the key -/
theorem size_insert {r : Routes η} {log : String → Option η} (hr : r.Holds log) (key : String) (h : η) :
    (r.insert key h).size = if (log key).isSome then r.size else r.size + 1 := by
  unfold Routes.insert Routes.size
  cases hd : dropColon? key with
  | none =>
    have hkey : ¬ EndsInColon key := dropColon?_eq_none.1 hd
    simp only [length_putRoute, hr.1, if_neg hkey]
    split <;> omega
  | some k =>
    have hkey : key = k ++ ":" := dropColon?_eq_some.1 hd
    simp only [length_putRoute, hr.2, ← hkey]
    split <;> omega

theorem size_register (r : Router η) (f : RouteFamily) (key : String) (h : η) :
    (r.register f key h).size + (r.routes f).size = r.size + ((r.routes f).insert key h).size := by
  cases f <;> simp only [register, size, routes] <;> omega

/-- the families and keys that were registered -/
def registered (rs : List (Registration η)) : Finset (RouteFamily × String) := (rs.map fun p => (p.1, p.2.1)).toFinset

theorem mem_registered {rs : List (Registration η)} {f : RouteFamily} {key : String} :
    (f, key) ∈ registered rs ↔ Registered rs f key := by
  unfold registered Registered
  rw [List.mem_toFinset, List.mem_map]
  constructor
  · rintro ⟨⟨f', key', h⟩, hmem, heq⟩
    cases heq
    exact ⟨h, hmem⟩
  · rintro ⟨h, hmem⟩
    exact ⟨_, hmem, rfl⟩

theorem registered_snoc (rs : List (Registration η)) (p : Registration η) :
    registered (rs ++ [p]) = insert (p.1, p.2.1) (registered rs) := by
  ext q
  simp [registered]

/-- a router has one route for each key that was registered in a family -/
theorem size_registerAll {r : Router η} (hr : ∀ f, r.routes f = .empty) (rs : List (Registration η)) :
    (r.registerAll rs).size = (registered rs).card := by
  induction rs using List.reverseRecOn with
  | nil =>
    have hsize : r.size = (r.routes .command).size + (r.routes .autocomplete).size + (r.routes .component).size +
        (r.routes .modal).size := rfl
    have hnil : r.registerAll [] = r := rfl
    rw [hnil, hsize, hr, hr, hr, hr]
    rfl
  | append_singleton rs p ih =>
    have hgrow := size_insert (routes_registerAll hr rs p.1) p.2.1 p.2.2
    have hregister := size_register (r.registerAll rs) p.1 p.2.1 p.2.2
    have hlast : (lastHandler? rs p.1 p.2.1).isSome ↔ (p.1, p.2.1) ∈ registered rs := by
      rw [lastHandler?_isSome, mem_registered]
    rw [registerAll_snoc, registered_snoc]
    by_cases hmem : (p.1, p.2.1) ∈ registered rs
    · rw [if_pos (hlast.2 hmem)] at hgrow
      rw [Finset.insert_eq_of_mem hmem]
      omega
    · rw [if_neg fun h => hmem (hlast.1 h)] at hgrow
      rw [Finset.card_insert_of_notMem hmem]
      omega

/-! ## Main result -/

theorem accepts_registerAll_iff {c : Config} {rs : List (Registration η)} {i : Interaction} :
    ((ofConfig c).registerAll rs).accepts i = true ↔ ∀ a, c.applicationId = some a → i.applicationId = a := by
  rw [accepts_iff, applicationId_registerAll]
  rfl

theorem routes_ofConfig (c : Config) (f : RouteFamily) : (ofConfig c : Router η).routes f = .empty := by
  cases f <;> rfl

/-- a handler that is called was found in the log, and a component that found it under a key that ends in a colon has
for its argument what the key leaves of its custom id -/
theorem finds_of_handled {r : Router η} (hr : ∀ f, r.routes f = .empty) {rs : List (Registration η)} {i : Interaction}
    {h : η} (hroute : (r.registerAll rs).route i = .handled h) :
    ∃ f s k, i.Asks f s ∧ Finds rs f s k h ∧ (f = .component → EndsInColon k →
      ∃ d a, Interaction.componentData? i = some d ∧ d.argument? = some a ∧ s = k ++ a) := by
  obtain ⟨-, f, s, hi, hget⟩ := route_eq_handled_iff.1 hroute
  rcases get?_registerAll_eq_some hr hget with ⟨hs, hlast⟩ | ⟨hcolon, hexact, hlast⟩
  · exact ⟨f, s, s, hi, ⟨hlast, .inl ⟨rfl, hs⟩⟩, fun _ hk => absurd hk hs⟩
  · refine ⟨f, s, firstKey s, hi, ⟨hlast, .inr ⟨endsInColon_firstKey s, leads_firstKey hcolon, hexact⟩⟩, ?_⟩
    rintro rfl -
    obtain ⟨d, hd, rfl⟩ := Option.map_eq_some_iff.1 hi.2
    obtain ⟨a, harg, ha⟩ := d.argument?_of_colon hcolon
    exact ⟨d, a, hd, harg, ha⟩

/-- **The answers of a router.** Take a router with any filter, after any registrations. An interaction for another
application is not answered, of whatever kind. Else a ping is answered by a pong, an unknown kind not at all, and any
other by a handler that the log has for its text: the last one registered, in the family of its kind, for the text as it
is, or else for a key that ends in a colon and begins the text; and then the argument of a component is the rest of its
custom id. An own handler always comes first. Registrations of other families, and those that were made again, make no
difference, and the number of routes is the number of keys that were registered, family by family. -/
theorem dispatch_sound (c : Config) (rs : List (Registration Handler)) (i : Interaction) :
    let r := (ofConfig c).registerAll rs
    ((∃ a, c.applicationId = some a ∧ i.applicationId ≠ a) → r.dispatch i = none) ∧
    ((∀ a, c.applicationId = some a → i.applicationId = a) →
      (i.kind = .ping → r.dispatch i = some (.ok .pong)) ∧
      (∀ n, i.kind = .unknown n → r.dispatch i = none) ∧
      ∀ f s g, i.Asks f s → exactHandler? rs f s = some g → r.dispatch i = some (g i)) ∧
    (∀ answer, r.dispatch i = some answer →
      i.kind = .ping ∧ answer = .ok .pong ∨ ∃ h, r.route i = .handled h ∧ answer = h i) ∧
    (∀ h, r.route i = .handled h → ∃ f s k, i.Asks f s ∧ Finds rs f s k h ∧ (f = .component → EndsInColon k →
      ∃ d a, Interaction.componentData? i = some d ∧ d.argument? = some a ∧ s = k ++ a)) ∧
    (∀ f, i.kind = f.kind → ((ofConfig c).registerAll (rs.filter fun p => p.1 = f)).dispatch i = r.dispatch i) ∧
    (∀ pre p post, rs = pre ++ p :: post → Registered post p.1 p.2.1 →
      ((ofConfig c).registerAll (pre ++ post)).dispatch i = r.dispatch i) ∧
    r.size = (registered rs).card := by
  intro r
  have hempty := routes_ofConfig (η := Handler) c
  refine ⟨?_, ?_, fun answer => answer_of_dispatch, fun h => finds_of_handled hempty, ?_, ?_, size_registerAll hempty rs⟩
  · rintro ⟨a, ha, hne⟩
    have hno : ¬ r.accepts i = true := fun hyes => hne (accepts_registerAll_iff.1 hyes a ha)
    rw [dispatch, route_of_refused hno]
  · intro hours
    have hyes : r.accepts i = true := accepts_registerAll_iff.2 hours
    refine ⟨fun hping => ?_, fun n hn => ?_, fun f s g hi hg => ?_⟩
    · rw [dispatch, route_of_ping hyes hping]
    · have hkind : i.kind ≠ .ping := by rw [hn]; exact nofun
      have hkey : keyOf? i = none := by rw [keyOf?, hn]
      rw [dispatch, route_of_keyOf?_eq_none hkind hkey]
    · rw [dispatch, route_of_asks hyes hi, get?_registerAll hempty, hg]
      rfl
  · intro f hf
    refine dispatch_congr (route_congr hempty fun g hg k => ?_)
    have hfg : g = f := RouteFamily.kind_injective (hg.symm.trans hf)
    rw [hfg, lastHandler?_filter]
  · rintro pre p post rfl hp
    exact dispatch_congr (route_congr hempty fun f _ k => (lastHandler?_overwritten hp f k).symm)

end Router

end InteractionKit
