import MySensors.Spec.Process
import Mathlib.Logic.Basic

/-! What every run of the node keeps. A relation `R` between the state before
and the state after a computation is kept by it when it holds whether the
computation returns or stops the node; `x.Runs R S` asks `R` only of the returns
and the weaker `S` of the stops. The lemmas on `Runs` follow the shape of a `do`
block, so that a body runs by `R` and `S` as soon as each of its statements
does; once each body does whenever the entry points one level down do, every
entry point does at every depth of nesting (`runs_calls`), and keeps `S`. -/

namespace MySensors

/-- A relation between states that chains along a run. -/
class Chains (R : Node → Node → Prop) : Prop where
  refl : ∀ s, R s s
  trans : ∀ {a b c}, R a b → R b c → R a c

namespace NodeM

def Keeps {α : Type} (R : Node → Node → Prop) (x : NodeM α) : Prop := ∀ s, R s (x s).node

namespace Keeps

variable {R : Node → Node → Prop} [Chains R] {α β : Type}

theorem bind {x : NodeM α} {f : α → NodeM β} (hx : x.Keeps R) (hf : ∀ a, (f a).Keeps R) :
    (x >>= f).Keeps R := by
  intro s
  show R s ((x s).bind f).node
  have h := hx s
  revert h
  cases x s with
  | ret a s' => exact fun h => Chains.trans h (hf a s')
  | stop s' => exact id

theorem pure (a : α) : (Pure.pure a : NodeM α).Keeps R := fun s => Chains.refl s

end Keeps

end NodeM

open NodeM

structure Calls.Keeps (R : Node → Node → Prop) (k : Calls) : Prop where
  process : k.process.Keeps R
  sendRoute : ∀ b, (k.sendRoute b).Keeps R
  findParentNode : k.findParentNode.Keeps R
  requestNodeId : k.requestNodeId.Keeps R
  presentNode : k.presentNode.Keeps R
  waitLoop : ∀ enter ms, (k.waitLoop enter ms).Keeps R
  signLoop : ∀ enter, (k.signLoop enter).Keeps R

variable {R : Node → Node → Prop} [Chains R]

theorem keeps_processTimes {k : Calls} (hk : k.process.Keeps R) : ∀ n, (processTimes k n).Keeps R
  | 0 => .pure _
  | n + 1 => hk.bind fun _ => keeps_processTimes hk n

/-! ### Returns and stops apart

A run that returns continues; one that stops the node ends it, possibly after
writing what only a reboot makes visible. -/

/-- `R` is stronger than `S`: a run that returned and then stopped satisfies `S`. -/
class Below (R S : Node → Node → Prop) : Prop where
  le : ∀ {a b}, R a b → S a b

instance (R : Node → Node → Prop) : Below R R := ⟨id⟩

/-- `R` from `s` to the state an outcome returned in, `S` to the state it stopped in. -/
def Outcome.Ends {α : Type} (R S : Node → Node → Prop) (s : Node) : Outcome α → Prop
  | .ret _ s' => R s s'
  | .stop s' => S s s'

@[simp] theorem Outcome.ends_ret {α : Type} {R S : Node → Node → Prop} {s s' : Node} {a : α} :
    (Outcome.ret a s').Ends R S s = R s s' := rfl

@[simp] theorem Outcome.ends_stop {α : Type} {R S : Node → Node → Prop} {s s' : Node} :
    (Outcome.stop s' : Outcome α).Ends R S s = S s s' := rfl

theorem Outcome.Ends.imp {α : Type} {R R' S S' : Node → Node → Prop} {s : Node} {o : Outcome α}
    (hR : ∀ {s'}, R s s' → R' s s') (hS : ∀ {s'}, S s s' → S' s s') (h : o.Ends R S s) : o.Ends R' S' s := by
  cases o with
  | ret _ _ => exact hR h
  | stop _ => exact hS h

/-- A step `R` allows before an outcome that ends by the relations. -/
theorem Outcome.Ends.pre {α : Type} {R S : Node → Node → Prop} [Chains R] [Chains S] [Below R S]
    {o : Outcome α} {s t : Node} (h : R s t) (ho : o.Ends R S t) : o.Ends R S s := by
  cases o with
  | ret _ _ => exact Chains.trans h ho
  | stop _ => exact Chains.trans (Below.le h) ho

def NodeM.Runs {α : Type} (R S : Node → Node → Prop) (x : NodeM α) : Prop := ∀ s, (x s).Ends R S s

namespace NodeM.Runs

variable {S : Node → Node → Prop} [Chains S] [Below R S] {α β : Type}

theorem bind {x : NodeM α} {f : α → NodeM β} (hx : x.Runs R S) (hf : ∀ a, (f a).Runs R S) :
    (x >>= f).Runs R S := by
  intro s
  show ((x s).bind f).Ends R S s
  have h := hx s
  revert h
  cases x s with
  | ret a s' =>
    intro h
    show (f a s').Ends R S s
    have h' := hf a s'
    revert h'
    cases f a s' with
    | ret _ _ => exact Chains.trans h
    | stop _ => exact Chains.trans (Below.le h)
  | stop _ => exact id

omit [Chains S] [Below R S] in
theorem pure (a : α) : (Pure.pure a : NodeM α).Runs R S := fun s => Chains.refl s

omit [Chains R] [Below R S] in
theorem stop : (NodeM.stop : NodeM α).Runs R S := fun s => Chains.refl s

/-- A step of symbolic execution: a state update the relation allows, then a
computation that runs by it. -/
theorem modify_bind_at {f : Node → Node} {g : Unit → NodeM β} {s : Node} (h : R s (f s))
    (hg : (g ()).Runs R S) : ((modify f >>= g) s).Ends R S s := by
  show (g () (f s)).Ends R S s
  have h' := hg (f s)
  revert h'
  cases g () (f s) with
  | ret _ _ => exact Chains.trans h
  | stop _ => exact Chains.trans (Below.le h)

/-- As `modify_bind_at`, with the updated state known to the rest of the proof. -/
theorem modify_bind_eq {f : Node → Node} {g : Unit → NodeM β} {s : Node} (h : R s (f s))
    (hg : ∀ t, t = f s → (g () t).Ends R S t) : ((modify f >>= g) s).Ends R S s :=
  (hg _ rfl).pre h

/-- A bind at one state: the first computation there, the rest by the relations. -/
theorem bind_at {x : NodeM α} {f : α → NodeM β} {s : Node} (hx : (x s).Ends R S s) (hf : ∀ a, (f a).Runs R S) :
    ((x >>= f) s).Ends R S s := by
  show ((x s).bind f).Ends R S s
  revert hx
  cases x s with
  | ret a t => exact fun h => (hf a t).pre h
  | stop _ => exact id

/-- As `bind_at`, with what the first computation established known to the rest: the rest
runs by the relations from every state `R` reaches. -/
theorem bind_at_of {x : NodeM α} {f : α → NodeM β} {s : Node} (hx : (x s).Ends R S s)
    (hf : ∀ a t, R s t → (f a t).Ends R S t) : ((x >>= f) s).Ends R S s := by
  show ((x s).bind f).Ends R S s
  revert hx
  cases x s with
  | ret a t => exact fun h => (hf a t h).pre h
  | stop _ => exact id

omit [Chains R] [Chains S] [Below R S] in
/-- A run that returned from `s` in `t` is a step of `R`. -/
theorem ret_of_eq {x : NodeM α} {s t : Node} {a : α} (hx : x.Runs R S) (h : x s = .ret a t) : R s t := by
  have := hx s
  rwa [h] at this

omit [Chains R] [Chains S] [Below R S] in
theorem get_bind {f : Node → NodeM β} (hf : ∀ s, (f s).Runs R S) : (get >>= f).Runs R S :=
  fun s => hf s s

omit [Chains R] [Chains S] [Below R S] in
/-- Reading the state, then reasoning at the state read. -/
theorem get_bind_at {f : Node → NodeM β} (hf : ∀ s, (f s s).Ends R S s) : (get >>= f).Runs R S :=
  hf

omit [Chains R] [Chains S] [Below R S] in
/-- Reading the state, at one state. -/
theorem get_bind_ends {f : Node → NodeM β} {s : Node} (h : (f s s).Ends R S s) : ((get >>= f) s).Ends R S s :=
  h

omit [Chains R] [Chains S] [Below R S] in
theorem modify {f : Node → Node} (hf : ∀ s, R s (f s)) : (modify f : NodeM Unit).Runs R S :=
  hf

omit [Chains R] [Chains S] [Below R S] in
theorem ite {c : Prop} [Decidable c] {x y : NodeM α} (hx : x.Runs R S) (hy : y.Runs R S) :
    (if c then x else y).Runs R S := by
  split <;> assumption

omit [Chains R] [Chains S] in
theorem of_keeps {x : NodeM α} (h : x.Keeps R) : x.Runs R S := by
  intro s
  have h' := h s
  revert h'
  cases x s with
  | ret _ _ => exact id
  | stop _ => exact Below.le

omit [Chains R] [Chains S] in
theorem keeps {x : NodeM α} (h : x.Runs R S) : x.Keeps S := by
  intro s
  have h' := h s
  revert h'
  cases x s with
  | ret _ _ => exact Below.le
  | stop _ => exact id

end NodeM.Runs

/-! ### Returns under an invariant

Where a run is known to return, and only from the states an invariant `P` allows, a
total-correctness triple says so: the rules follow the `do` block as those of `Runs` do. -/

/-- From every state `P` holds in, `x` returns, into a state `P` holds in, by a step of `R`. -/
def NodeM.Returns (P : Node → Prop) (R : Node → Node → Prop) {α : Type} (x : NodeM α) : Prop :=
  ∀ s, P s → ∃ a t, x s = .ret a t ∧ P t ∧ R s t

namespace NodeM.Returns

variable {P : Node → Prop} {α β : Type} {x y : NodeM α}

theorem pure (a : α) : (Pure.pure a : NodeM α).Returns P R := fun s hs => ⟨a, s, rfl, hs, Chains.refl s⟩

theorem bind {f : α → NodeM β} (hx : x.Returns P R) (hf : ∀ a, (f a).Returns P R) : (x >>= f).Returns P R := by
  intro s hs
  obtain ⟨a, t, hxs, ht, hst⟩ := hx s hs
  obtain ⟨b, u, hfu, hu, htu⟩ := hf a t ht
  exact ⟨b, u, by rw [bind_apply, hxs, Outcome.ret_bind, hfu], hu, Chains.trans hst htu⟩

/-- The rest of a triple from a state reached by a step of `R`. -/
theorem from_step {s t : Node} (hx : x.Returns P R) (ht : P t) (hst : R s t) :
    ∃ a u, x t = .ret a u ∧ P u ∧ R s u :=
  let ⟨a, u, hxu, hu, htu⟩ := hx t ht
  ⟨a, u, hxu, hu, Chains.trans hst htu⟩

omit [Chains R] in
theorem get_bind {f : Node → NodeM α} (hf : ∀ s, (f s).Returns P R) : (get >>= f).Returns P R :=
  fun s hs => hf s s hs

omit [Chains R] in
/-- Reading the state, then reasoning at the state read. -/
theorem get_bind_at {f : Node → NodeM α} (hf : ∀ s, P s → ∃ a t, f s s = .ret a t ∧ P t ∧ R s t) :
    (get >>= f).Returns P R :=
  hf

omit [Chains R] in
theorem ite {c : Prop} [Decidable c] (hx : x.Returns P R) (hy : y.Returns P R) : (if c then x else y).Returns P R := by
  split <;> assumption

omit [Chains R] in
theorem modify {f : Node → Node} (hf : ∀ s, P s → P (f s) ∧ R s (f s)) : (modify f : NodeM Unit).Returns P R :=
  fun s hs => ⟨(), f s, rfl, hf s hs⟩

end NodeM.Returns

structure Calls.Runs (R S : Node → Node → Prop) (k : Calls) : Prop where
  process : k.process.Runs R S
  sendRoute : ∀ b, (k.sendRoute b).Runs R S
  findParentNode : k.findParentNode.Runs R S
  requestNodeId : k.requestNodeId.Runs R S
  presentNode : k.presentNode.Runs R S
  waitLoop : ∀ enter ms, (k.waitLoop enter ms).Runs R S
  signLoop : ∀ enter, (k.signLoop enter).Runs R S

variable {S : Node → Node → Prop}

theorem Calls.runs_none : Calls.none.Runs R S :=
  ⟨.pure _, fun _ => .pure _, .pure _, .pure _, .pure _, fun _ _ => .pure _, fun _ => .pure _⟩

/-- Every entry point runs by `R` and `S` at every depth, once one level of bodies does. -/
theorem runs_calls (cfg : Build) (next : ∀ k : Calls, k.Runs R S → (k.next cfg).Runs R S) :
    ∀ n, (calls cfg n).Runs R S
  | 0 => Calls.runs_none
  | n + 1 => next _ (runs_calls cfg next n)

theorem runs_processTimes [Chains S] [Below R S] {k : Calls} (hk : k.process.Runs R S) : ∀ n, (processTimes k n).Runs R S
  | 0 => .pure _
  | n + 1 => hk.bind fun _ => runs_processTimes hk n

omit [Chains R] in
theorem Calls.Keeps.runs [Below R S] {k : Calls} (h : k.Keeps R) : k.Runs R S :=
  ⟨.of_keeps h.process, fun b => .of_keeps (h.sendRoute b), .of_keeps h.findParentNode,
    .of_keeps h.requestNodeId, .of_keeps h.presentNode, fun e m => .of_keeps (h.waitLoop e m),
    fun e => .of_keeps (h.signLoop e)⟩

omit [Chains R] in
theorem Calls.Runs.keeps [Below R S] {k : Calls} (h : k.Runs R S) : k.Keeps S :=
  ⟨h.process.keeps, fun b => (h.sendRoute b).keeps, h.findParentNode.keeps, h.requestNodeId.keeps,
    h.presentNode.keeps, fun e m => (h.waitLoop e m).keeps, fun e => (h.signLoop e).keeps⟩

end MySensors
