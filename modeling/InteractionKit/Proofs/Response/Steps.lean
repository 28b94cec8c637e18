import InteractionKit.Proofs.Lists
import InteractionKit.Proofs.Permissions.Bits
import InteractionKit.Response
import Mathlib.Data.List.Induction
import Mathlib.Data.List.Perm.Basic
/-
Messages that are built step by step.

A step sets the content, puts a component at the end, or adds a flag. No step looks at a field that it does not change,
so a message is told field by field, by the steps of that field alone: the content that was set last, the components in
their order, the flags of all. Flags are a set, so neither the order of their steps matters nor how often one is made.

A field that is unset is left out on the wire, and an empty list of components is not. So for each field it is told as
well when it stays unset: only if it was, and no step is about it.

- `MessageFlags.mem_union`, `ext_flags`: flags as a set.
- `gather`: a field that may be unset, with one thing after another taken up.
- `MessageStep.content?`, `component?`, `flag?`: what a step is about.
- `run_content`, `run_components`, `run_flags`: each field after any steps.
- `run_congr`: which steps make the same message.
- `message_steps_compose`: how steps compose.
-/
namespace InteractionKit

/-! ## Flags -/

namespace MessageFlags

instance : Membership Flag MessageFlags := ⟨fun a f => a.bits.getLsbD f.val = true⟩

/-- two sets with the same flags are equal -/
theorem ext_flags {a b : MessageFlags} (h : ∀ f : Flag, f ∈ a ↔ f ∈ b) : a = b := by
  obtain ⟨v⟩ := a
  obtain ⟨w⟩ := b
  have hbits : v = w := by
    refine BitVec.eq_of_getLsbD_eq fun i hi => ?_
    exact Bool.eq_iff_iff.2 (h ⟨i, hi⟩)
  rw [hbits]

theorem mem_union {a b : MessageFlags} {f : Flag} : f ∈ a ∪ b ↔ f ∈ a ∨ f ∈ b := by
  change (a.bits ||| b.bits).getLsbD f.val = true ↔ _
  rw [BitVec.getLsbD_or, Bool.or_eq_true]
  rfl

end MessageFlags

/-! ## Fields that may be unset -/

section Gather

variable {α β : Type} {e : β} {f : β → α → β}

/-- a value with one thing after another taken up; from `e` on if it was unset -/
def gather (e : β) (f : β → α → β) (old : Option β) (as : List α) : Option β :=
  as.foldl (fun o a => some (f (o.getD e) a)) old

theorem gather_append (old : Option β) (as bs : List α) :
    gather e f old (as ++ bs) = gather e f (gather e f old as) bs := List.foldl_append

/-- it stays unset just if there is nothing to take up -/
theorem gather_eq_none_iff {old : Option β} {as : List α} : gather e f old as = none ↔ old = none ∧ as = [] := by
  cases as using List.reverseRecOn with
  | nil => simp [gather]
  | append_singleton as a =>
    rw [gather_append]
    simp [gather]

theorem getD_gather (old : Option β) (as : List α) : (gather e f old as).getD e = as.foldl f (old.getD e) := by
  induction as using List.reverseRecOn with
  | nil => rfl
  | append_singleton as a ih =>
    rw [gather_append, List.foldl_append, ← ih]
    rfl

theorem filterMap_singleton {γ : Type} (g : γ → Option α) (c : γ) : [c].filterMap g = (g c).toList := by
  cases h : g c with
  | none => simp [h]
  | some a => simp [h]

/-- two values are the same if both are set or unset, and one counts for as much as the other -/
theorem eq_of_getD_eq {o p : Option β} (hnone : o = none ↔ p = none) (h : o.getD e = p.getD e) : o = p := by
  cases o with
  | none => exact (hnone.1 rfl).symm
  | some b =>
    cases p with
    | none => exact hnone.2 rfl
    | some c => exact congrArg some h

end Gather

/-! ## What a step is about -/

namespace MessageStep

inductive Kind where
  | content
  | component
  | ephemeral
  | componentsOnly
deriving DecidableEq

def kind : MessageStep → Kind
  | .content _ => .content
  | .component _ => .component
  | .ephemeral => .ephemeral
  | .componentsOnly => .componentsOnly

/-- the content that a step sets -/
def content? : MessageStep → Option String
  | .content s => some s
  | _ => none

/-- the component that a step puts at the end -/
def component? : MessageStep → Option Component
  | .component c => some c
  | _ => none

/-- the flag that a step adds -/
def flag? : MessageStep → Option MessageFlags
  | .ephemeral => some .ephemeral
  | .componentsOnly => some .componentsOnly
  | _ => none

variable {a b : MessageStep}

theorem lastWord_content?_swap (h : a.kind ≠ b.kind) : lastWord content? [a, b] = lastWord content? [b, a] := by
  cases a <;> cases b <;> first | rfl | exact absurd rfl h

theorem filterMap_component?_swap (h : a.kind ≠ b.kind) :
    [a, b].filterMap component? = [b, a].filterMap component? := by
  cases a <;> cases b <;> first | rfl | exact absurd rfl h

end MessageStep

namespace MessageData

open MessageStep

/-! ## Field by field -/

theorem step_content (d : MessageData) (a : MessageStep) : (d.step a).content = a.content?.or d.content := by
  cases a <;> rfl

theorem step_components (d : MessageData) (a : MessageStep) :
    (d.step a).components = gather [] (fun cs c => cs ++ [c]) d.components a.component?.toList := by
  cases a <;> rfl

theorem step_flags (d : MessageData) (a : MessageStep) :
    (d.step a).flags = gather .empty (· ∪ ·) d.flags a.flag?.toList := by
  cases a <;> rfl

theorem run_snoc (d : MessageData) (steps : List MessageStep) (a : MessageStep) :
    d.run (steps ++ [a]) = (d.run steps).step a := by
  simp [run, List.foldl_append]

theorem run_content (d : MessageData) (steps : List MessageStep) :
    (d.run steps).content = (lastWord content? steps).or d.content := by
  induction steps using List.reverseRecOn with
  | nil => rfl
  | append_singleton steps a ih =>
    rw [run_snoc, step_content, ih, lastWord_append, lastWord_singleton, Option.or_assoc]

theorem run_components (d : MessageData) (steps : List MessageStep) :
    (d.run steps).components = gather [] (fun cs c => cs ++ [c]) d.components (steps.filterMap component?) := by
  induction steps using List.reverseRecOn with
  | nil => rfl
  | append_singleton steps a ih =>
    rw [run_snoc, step_components, ih, List.filterMap_append, gather_append, filterMap_singleton]

theorem run_flags (d : MessageData) (steps : List MessageStep) :
    (d.run steps).flags = gather .empty (· ∪ ·) d.flags (steps.filterMap flag?) := by
  induction steps using List.reverseRecOn with
  | nil => rfl
  | append_singleton steps a ih =>
    rw [run_snoc, step_flags, ih, List.filterMap_append, gather_append, filterMap_singleton]

theorem getD_run_components (d : MessageData) (steps : List MessageStep) :
    (d.run steps).components.getD [] = d.components.getD [] ++ steps.filterMap component? := by
  rw [run_components, getD_gather, List.foldl_append_eq_append, ← List.flatMap_def, List.flatMap_singleton']

theorem mem_run_flags (d : MessageData) (steps : List MessageStep) (n : Flag) :
    n ∈ (d.run steps).flags.getD .empty ↔ n ∈ d.flags.getD .empty ∨ ∃ f ∈ steps.filterMap flag?, n ∈ f := by
  rw [run_flags, getD_gather]
  exact Flag.mem_foldl_union (fun _ _ _ => MessageFlags.mem_union) id _ _ n

/-! ## Steps in another order -/

variable {d : MessageData} {steps others : List MessageStep}

/-- a message is settled by the set of its flags, the list of its components and its last content -/
theorem run_congr (hflags : ∀ f, f ∈ others.filterMap flag? ↔ f ∈ steps.filterMap flag?)
    (hcomponents : others.filterMap component? = steps.filterMap component?)
    (hcontent : lastWord content? others = lastWord content? steps) : d.run others = d.run steps := by
  have hempty : others.filterMap flag? = [] ↔ steps.filterMap flag? = [] := by
    simp only [List.eq_nil_iff_forall_not_mem, hflags]
  have hset : (d.run others).flags = (d.run steps).flags := by
    apply eq_of_getD_eq (e := MessageFlags.empty)
    · rw [run_flags, run_flags, gather_eq_none_iff, gather_eq_none_iff, hempty]
    · apply MessageFlags.ext_flags
      intro n
      simp only [mem_run_flags, hflags]
  have hlist : (d.run others).components = (d.run steps).components := by
    rw [run_components, run_components, hcomponents]
  have hlast : (d.run others).content = (d.run steps).content := by
    rw [run_content, run_content, hcontent]
  calc d.run others
      = ⟨(d.run others).content, (d.run others).components, (d.run others).flags⟩ := rfl
    _ = ⟨(d.run steps).content, (d.run steps).components, (d.run steps).flags⟩ := by rw [hlast, hlist, hset]
    _ = d.run steps := rfl

/-- two steps of different kinds may change places, wherever they stand -/
theorem run_swap {a b : MessageStep} (h : a.kind ≠ b.kind) (before after : List MessageStep) :
    d.run (before ++ b :: a :: after) = d.run (before ++ a :: b :: after) := by
  have hperm : (before ++ b :: a :: after).Perm (before ++ a :: b :: after) :=
    (List.Perm.swap a b after).append_left before
  apply run_congr
  · intro f
    exact (hperm.filterMap flag?).mem_iff
  · calc (before ++ b :: a :: after).filterMap component?
        = (before ++ [b, a] ++ after).filterMap component? := by simp
      _ = (before ++ [a, b] ++ after).filterMap component? := by
        simp only [List.filterMap_append, filterMap_component?_swap h]
      _ = (before ++ a :: b :: after).filterMap component? := by simp
  · calc lastWord content? (before ++ b :: a :: after)
        = lastWord content? (before ++ ([b, a] ++ after)) := rfl
      _ = lastWord content? (before ++ ([a, b] ++ after)) := by
        simp only [lastWord_append, lastWord_content?_swap h]
      _ = lastWord content? (before ++ a :: b :: after) := rfl

end MessageData

/-! ## Main result -/

open MessageStep in
/-- **Steps compose field by field.** After any steps on any message: the flags are those of the message and of every
flag step, unset just if they were and there is no such step; the components are those of the message and then those of
the steps, unset just if they were and there is none; the content is that of the last content step, else the message's
own. So steps with the same set of flags, the same list of components and the same last content make the same message,
and two steps of different kinds may change places anywhere. -/
theorem message_steps_compose (d : MessageData) (steps : List MessageStep) :
    let made := d.run steps
    ((made.flags = none ↔ d.flags = none ∧ steps.filterMap flag? = []) ∧
      ∀ n : Flag, n ∈ made.flags.getD .empty ↔
        n ∈ d.flags.getD .empty ∨ ∃ f ∈ steps.filterMap flag?, n ∈ f) ∧
    ((made.components = none ↔ d.components = none ∧ steps.filterMap component? = []) ∧
      made.components.getD [] = d.components.getD [] ++ steps.filterMap component?) ∧
    made.content = (lastWord content? steps).or d.content ∧
    (∀ others, (∀ f, f ∈ others.filterMap flag? ↔ f ∈ steps.filterMap flag?) →
      others.filterMap component? = steps.filterMap component? →
      lastWord content? others = lastWord content? steps → d.run others = made) ∧
    ∀ before a b after, steps = before ++ a :: b :: after → a.kind ≠ b.kind →
      d.run (before ++ b :: a :: after) = made := by
  intro made
  refine ⟨⟨?_, d.mem_run_flags steps⟩, ⟨?_, d.getD_run_components steps⟩, d.run_content steps, ?_, ?_⟩
  · show (d.run steps).flags = none ↔ _
    rw [d.run_flags, gather_eq_none_iff]
  · show (d.run steps).components = none ↔ _
    rw [d.run_components, gather_eq_none_iff]
  · intro others hflags hcomponents hcontent
    exact MessageData.run_congr hflags hcomponents hcontent
  · rintro before a b after rfl hkind
    exact MessageData.run_swap hkind before after

/-! ## A notice -/

/-- a message with a flag that has no name, and with a list of components that is empty and not unset -/
def notice : MessageData := ⟨none, some [], some ⟨BitVec.twoPow 64 40⟩⟩

/-- the notice is written, hidden from all but one, laid out, and written anew -/
def noticeSteps : List MessageStep :=
  [.content "draft", .ephemeral, .component (.textDisplay (.new "rain")), .componentsOnly, .content "final"]

/-- the same in another order, hidden twice and written once -/
def noticeOthers : List MessageStep :=
  [.componentsOnly, .component (.textDisplay (.new "rain")), .ephemeral, .content "final", .ephemeral]

/-- Both ways make one message, with its own flag besides the two that were added. Hidden only, the notice keeps its empty
list of components. The first two steps may change places. -/
theorem message_steps_compose_notice :
    notice.run noticeOthers = notice.run noticeSteps ∧
    (notice.run noticeSteps).flags = some ⟨BitVec.ofNat 64 1099511660608⟩ ∧
    (notice.run noticeSteps).content = some "final" ∧
    (notice.run [.ephemeral]).components = some [] ∧
    notice.run (.ephemeral :: .content "draft" :: noticeSteps.drop 2) = notice.run noticeSteps := by
  have hothers := (message_steps_compose notice noticeSteps).2.2.2.1 noticeOthers
  have hswap := (message_steps_compose notice noticeSteps).2.2.2.2 [] (.content "draft") .ephemeral
    (noticeSteps.drop 2) rfl (by decide)
  refine ⟨hothers ?_ rfl rfl, by decide, by decide, by decide, hswap⟩
  intro f
  simp [noticeOthers, noticeSteps, MessageStep.flag?, or_comm, eq_comm]

end InteractionKit
