import Mathlib.Data.List.Induction
import Mathlib.Order.Defs.PartialOrder

/-!
# Machines and their admissible runs

A system that takes one step at a time: an initial state, a total step
function, and a predicate that says which actions its environment can offer in
a given state.  A *run* is a list of actions.  A run is admissible when each of
its actions is offered in the state the earlier ones lead to.

The two rules used everywhere below are `Always.of_inductive` (an invariant of
the step holds along every admissible run) and `Always.restrict` (what holds of
all runs of a machine holds of the runs of a machine that is offered less).
-/

namespace Btcr2Aggregation

universe u v

/-- A deterministic system under an environment that chooses its actions. -/
structure Machine (State : Type u) (Action : Type v) where
  /-- Where every run starts. -/
  init : State
  /-- What one action does. -/
  step : State → Action → State
  /-- The actions the environment can offer in a state. -/
  admits : State → Action → Prop

namespace Machine

variable {State : Type u} {Action : Type v}

/-- The state a list of actions leads to. -/
def runFrom
    (machine : Machine State Action) (state : State) (actions : List Action) :
    State :=
  actions.foldl machine.step state

/-- The state a run leads to. -/
def run (machine : Machine State Action) (actions : List Action) : State :=
  machine.runFrom machine.init actions

/-- Each action is offered in the state the earlier ones lead to. -/
def AdmitsFrom (machine : Machine State Action) : State → List Action → Prop
  | _, [] => True
  | state, action :: actions =>
      machine.admits state action ∧
        machine.AdmitsFrom (machine.step state action) actions

/-- The admissible runs. -/
def Admits (machine : Machine State Action) (actions : List Action) : Prop :=
  machine.AdmitsFrom machine.init actions

/-- A property of every state an admissible run reaches. -/
def Always (machine : Machine State Action) (property : State → Prop) : Prop :=
  ∀ actions, machine.Admits actions → property (machine.run actions)

/-- A relation between the states admissible runs reach and the actions offered
there. -/
def Each
    (machine : Machine State Action) (relation : State → Action → Prop) : Prop :=
  ∀ actions action,
    machine.Admits (actions ++ [action]) →
      relation (machine.run actions) action

/-- The same system under an environment that offers only what `condition`
allows as well. -/
def restrict
    (machine : Machine State Action) (condition : State → Action → Prop) :
    Machine State Action where
  init := machine.init
  step := machine.step
  admits state action := machine.admits state action ∧ condition state action

instance decidableAdmitsFrom
    (machine : Machine State Action)
    [decideAdmits : ∀ state action, Decidable (machine.admits state action)] :
    ∀ state actions, Decidable (machine.AdmitsFrom state actions)
  | _, [] => isTrue trivial
  | state, action :: actions =>
      match decideAdmits state action,
        decidableAdmitsFrom machine (machine.step state action) actions with
      | isTrue now, isTrue later => isTrue ⟨now, later⟩
      | isFalse notNow, _ => isFalse fun both => notNow both.1
      | _, isFalse notLater => isFalse fun both => notLater both.2

instance decidableAdmits
    (machine : Machine State Action)
    [∀ state action, Decidable (machine.admits state action)]
    (actions : List Action) :
    Decidable (machine.Admits actions) :=
  machine.decidableAdmitsFrom machine.init actions

instance decidableRestrict
    (machine : Machine State Action) (condition : State → Action → Prop)
    [∀ state action, Decidable (machine.admits state action)]
    [∀ state action, Decidable (condition state action)]
    (state : State) (action : Action) :
    Decidable ((machine.restrict condition).admits state action) :=
  inferInstanceAs
    (Decidable (machine.admits state action ∧ condition state action))

section Runs

/-! ## Runs -/

variable (machine : Machine State Action)

theorem runFrom_append
    (state : State) (earlier later : List Action) :
    machine.runFrom state (earlier ++ later) =
      machine.runFrom (machine.runFrom state earlier) later :=
  List.foldl_append

theorem run_concat (actions : List Action) (action : Action) :
    machine.run (actions ++ [action]) =
      machine.step (machine.run actions) action :=
  machine.runFrom_append machine.init actions [action]

theorem admitsFrom_append
    (earlier later : List Action) :
    ∀ state,
      machine.AdmitsFrom state (earlier ++ later) ↔
        machine.AdmitsFrom state earlier ∧
          machine.AdmitsFrom (machine.runFrom state earlier) later := by
  induction earlier with
  | nil =>
      intro state
      exact ⟨fun admissible => ⟨trivial, admissible⟩, And.right⟩
  | cons action earlier inductionHypothesis =>
      intro state
      have tail := inductionHypothesis (machine.step state action)
      constructor
      · rintro ⟨offered, rest⟩
        obtain ⟨before, after⟩ := tail.mp rest
        exact ⟨⟨offered, before⟩, after⟩
      · rintro ⟨⟨offered, before⟩, after⟩
        exact ⟨offered, tail.mpr ⟨before, after⟩⟩

theorem admits_concat_iff (actions : List Action) (action : Action) :
    machine.Admits (actions ++ [action]) ↔
      machine.Admits actions ∧ machine.admits (machine.run actions) action := by
  have split := machine.admitsFrom_append actions [action] machine.init
  refine split.trans (and_congr_right fun _ => ?_)
  exact ⟨And.left, fun offered => ⟨offered, trivial⟩⟩

/-- Where a run of one action more is taken apart: at its last action, or
earlier. -/
theorem concat_eq_append_cons_iff
    {actions before after : List Action} {action chosen : Action} :
    actions ++ [action] = before ++ chosen :: after ↔
      (before = actions ∧ chosen = action ∧ after = []) ∨
        ∃ rest, after = rest ++ [action] ∧ actions = before ++ chosen :: rest := by
  constructor
  · intro split
    rcases List.eq_nil_or_concat after with rfl | ⟨rest, last, rfl⟩
    · obtain ⟨rfl, same⟩ := List.append_inj' split rfl
      cases same
      exact Or.inl ⟨rfl, rfl, rfl⟩
    · rw [List.concat_eq_append, ← List.cons_append,
        ← List.append_assoc] at split
      obtain ⟨rfl, same⟩ := List.append_inj' split rfl
      cases same
      exact Or.inr ⟨rest, List.concat_eq_append, rfl⟩
  · rintro (⟨rfl, rfl, rfl⟩ | ⟨rest, rfl, rfl⟩)
    · rfl
    · rw [List.append_assoc, List.cons_append]

/-- An environment that can do anything at any time admits every run. -/
theorem admits_of_offered
    {machine : Machine State Action}
    (offered : ∀ state action, machine.admits state action)
    (actions : List Action) :
    machine.Admits actions := by
  induction actions using List.reverseRecOn with
  | nil => trivial
  | append_singleton actions action inductionHypothesis =>
      apply (machine.admits_concat_iff actions action).mpr
      exact ⟨inductionHypothesis, offered _ action⟩

/-- An admissible list of actions with the state it leads to. -/
def Leads
    (state : State) (actions : List Action) (final : State) : Prop :=
  machine.AdmitsFrom state actions ∧ machine.runFrom state actions = final

theorem leads_nil (state : State) : machine.Leads state [] state :=
  ⟨trivial, rfl⟩

variable {machine}

/-- One action at a time, each with the state it leads to. -/
theorem Leads.cons
    {state next final : State} {action : Action} {actions : List Action}
    (offered : machine.admits state action)
    (steps : machine.step state action = next)
    (rest : machine.Leads next actions final) :
    machine.Leads state (action :: actions) final := by
  subst steps
  exact ⟨⟨offered, rest.1⟩, rest.2⟩

end Runs

section Invariants

/-! ## The invariant rules -/

variable {machine : Machine State Action}

/-- One step at a time: what every offered action preserves, every admissible
list of actions preserves. -/
theorem invariant_runFrom
    {invariant : State → Prop}
    (preserved :
      ∀ state action,
        invariant state → machine.admits state action →
          invariant (machine.step state action))
    (actions : List Action) :
    ∀ state,
      invariant state → machine.AdmitsFrom state actions →
        invariant (machine.runFrom state actions) := by
  induction actions with
  | nil =>
      intro state holds _
      exact holds
  | cons action actions inductionHypothesis =>
      intro state holds admissible
      obtain ⟨offered, rest⟩ := admissible
      exact
        inductionHypothesis _ (preserved state action holds offered) rest

theorem Always.of_inductive
    {invariant : State → Prop}
    (initially : invariant machine.init)
    (preserved :
      ∀ state action,
        invariant state → machine.admits state action →
          invariant (machine.step state action)) :
    machine.Always invariant :=
  fun actions admissible =>
    invariant_runFrom preserved actions machine.init initially admissible

theorem Always.mono
    {invariant property : State → Prop}
    (always : machine.Always invariant)
    (implied : ∀ state, invariant state → property state) :
    machine.Always property :=
  fun actions admissible => implied _ (always actions admissible)

/-- What an invariant makes of every offered action. -/
theorem Always.each
    {invariant : State → Prop} {relation : State → Action → Prop}
    (always : machine.Always invariant)
    (implied :
      ∀ state action,
        invariant state → machine.admits state action →
          relation state action) :
    machine.Each relation := by
  intro actions action admissible
  obtain ⟨before, offered⟩ :=
    (machine.admits_concat_iff actions action).mp admissible
  exact implied _ action (always actions before) offered

private theorem admitsFrom_of_restrict
    {condition : State → Action → Prop} (actions : List Action) :
    ∀ state,
      (machine.restrict condition).AdmitsFrom state actions →
        machine.AdmitsFrom state actions := by
  induction actions with
  | nil =>
      intro _ _
      trivial
  | cons action actions inductionHypothesis =>
      intro state admissible
      obtain ⟨offered, rest⟩ := admissible
      exact ⟨offered.1, inductionHypothesis _ rest⟩

/-- A machine that is offered less does less. -/
theorem Always.restrict
    {property : State → Prop}
    (always : machine.Always property)
    (condition : State → Action → Prop) :
    (machine.restrict condition).Always property :=
  fun actions admissible =>
    always actions (admitsFrom_of_restrict actions machine.init admissible)

/-- A step condition is exact for a property when, at every offered action, it
says whether the property survives.  Then the runs that meet it are those that
keep the property in every state they reach. -/
theorem admits_restrict_iff
    {condition : State → Action → Prop} {invariant property : State → Prop}
    (always : machine.Always invariant) (initially : property machine.init)
    (exactly :
      ∀ state action,
        invariant state → machine.admits state action → property state →
          (condition state action ↔ property (machine.step state action)))
    (actions : List Action) (admissible : machine.Admits actions) :
    (machine.restrict condition).Admits actions ↔
      ∀ earlier, earlier <+: actions → property (machine.run earlier) := by
  induction actions using List.reverseRecOn with
  | nil =>
      refine ⟨?_, fun _ => trivial⟩
      intro _ earlier start
      rw [List.prefix_nil.mp start]
      exact initially
  | append_singleton actions action inductionHypothesis =>
      obtain ⟨before, offered⟩ :=
        (machine.admits_concat_iff actions action).mp admissible
      have here := exactly _ action (always actions before) offered
      rw [admits_concat_iff, inductionHypothesis before]
      constructor
      · rintro ⟨kept, -, meets⟩ earlier start
        rcases List.prefix_concat_iff.mp start with rfl | shorter
        · rw [run_concat]
          exact (here (kept actions (List.prefix_refl actions))).mp meets
        · exact kept earlier shorter
      · intro kept
        have shorter : actions <+: actions ++ [action] :=
          List.prefix_append actions [action]
        refine ⟨?_, offered, ?_⟩
        · intro earlier start
          exact kept earlier (start.trans shorter)
        · have now := kept _ (List.prefix_refl (actions ++ [action]))
          rw [run_concat] at now
          exact (here (kept actions shorter)).mpr now

/-- What a step can only raise within an epoch stays behind over every stretch
of a run that keeps the epoch. -/
theorem forward_of_steps
    {Rank : Type*} [Preorder Rank] {epoch : State → Nat} {rank : State → Rank}
    (grows :
      ∀ state action,
        machine.admits state action →
          epoch state ≤ epoch (machine.step state action))
    (earlier : List Action) :
    ∀ further,
      machine.Admits (earlier ++ further) →
        (∀ actions action,
          earlier <+: actions → actions ++ [action] <+: earlier ++ further →
            epoch (machine.run (actions ++ [action])) =
                epoch (machine.run actions) →
              rank (machine.run actions) ≤
                rank (machine.run (actions ++ [action]))) →
          epoch (machine.run earlier) ≤
              epoch (machine.run (earlier ++ further)) ∧
            (epoch (machine.run earlier) =
                epoch (machine.run (earlier ++ further)) →
              rank (machine.run earlier) ≤
                rank (machine.run (earlier ++ further))) := by
  intro further
  induction further using List.reverseRecOn with
  | nil =>
      intro _ _
      rw [List.append_nil]
      exact ⟨Nat.le_refl _, fun _ => le_refl _⟩
  | append_singleton further action inductionHypothesis =>
      intro admissible steps
      rw [← List.append_assoc] at admissible steps ⊢
      obtain ⟨before, offered⟩ :=
        (machine.admits_concat_iff _ action).mp admissible
      have shorter : earlier ++ further <+: earlier ++ further ++ [action] :=
        List.prefix_append _ [action]
      obtain ⟨epochs, ranks⟩ :=
        inductionHypothesis before fun actions other longer inside =>
          steps actions other longer (inside.trans shorter)
      have next := grows _ action offered
      rw [← run_concat] at next
      refine ⟨Nat.le_trans epochs next, fun same => ?_⟩
      have here :
          epoch (machine.run earlier) =
            epoch (machine.run (earlier ++ further)) := by
        omega
      have there :
          epoch (machine.run (earlier ++ further ++ [action])) =
            epoch (machine.run (earlier ++ further)) := by
        omega
      exact
        le_trans (ranks here)
          (steps _ action (List.prefix_append _ _) (List.prefix_refl _) there)

/-- A rank never falls within an epoch, at any distance, when no single step
makes it fall. -/
theorem forward_iff_steps
    {Rank : Type*} [Preorder Rank] (epoch : State → Nat) (rank : State → Rank)
    (grows :
      ∀ state action,
        machine.admits state action →
          epoch state ≤ epoch (machine.step state action))
    (actions : List Action) (admissible : machine.Admits actions) :
    (∀ earlier later, earlier <+: later → later <+: actions →
        epoch (machine.run earlier) = epoch (machine.run later) →
          rank (machine.run earlier) ≤ rank (machine.run later)) ↔
      ∀ earlier action, earlier ++ [action] <+: actions →
        epoch (machine.run (earlier ++ [action])) =
            epoch (machine.run earlier) →
          rank (machine.run earlier) ≤
            rank (machine.run (earlier ++ [action])) := by
  constructor
  · intro forward earlier action start same
    exact
      forward earlier _ (List.prefix_append _ [action]) start same.symm
  · intro forward earlier later longer inside
    obtain ⟨further, rfl⟩ := longer
    have admitted : machine.Admits (earlier ++ further) := by
      obtain ⟨rest, whole⟩ := inside
      rw [← whole] at admissible
      exact ((machine.admitsFrom_append _ rest machine.init).mp admissible).1
    exact
      (forward_of_steps grows earlier further admitted fun before action _ start =>
        forward before action (start.trans inside)).2

/-- A step condition is exact for a relation when, wherever runs that meet it
lead, it says whether the relation holds.  Then the runs that meet it are those
in which every step is in the relation. -/
theorem admits_restrict_iff_each
    {condition relation : State → Action → Prop} {invariant : State → Prop}
    (always : (machine.restrict condition).Always invariant)
    (exactly :
      ∀ state action,
        invariant state → machine.admits state action →
          (condition state action ↔ relation state action))
    (actions : List Action) (admissible : machine.Admits actions) :
    (machine.restrict condition).Admits actions ↔
      ∀ earlier action, earlier ++ [action] <+: actions →
        relation (machine.run earlier) action := by
  induction actions using List.reverseRecOn with
  | nil =>
      refine ⟨fun _ earlier action start => ?_, fun _ => trivial⟩
      have empty := List.prefix_nil.mp start
      simp at empty
  | append_singleton actions action inductionHypothesis =>
      obtain ⟨before, offered⟩ :=
        (machine.admits_concat_iff actions action).mp admissible
      have shorter := inductionHypothesis before
      rw [admits_concat_iff]
      constructor
      · intro both earlier other start
        rcases List.prefix_concat_iff.mp start with same | inside
        · obtain ⟨rfl, sameAction⟩ := List.append_inj' same rfl
          cases sameAction
          exact (exactly _ action (always _ both.1) offered).mp both.2.2
        · exact shorter.mp both.1 earlier other inside
      · intro each
        have met : (machine.restrict condition).Admits actions :=
          shorter.mpr fun earlier other start =>
            each earlier other (start.trans (List.prefix_append _ [action]))
        have here := exactly _ action (always _ met) offered
        exact
          ⟨met, offered, here.mpr (each actions action (List.prefix_refl _))⟩

/-- A step condition is exact for a rank when, at every offered action, it says
whether the rank stays or grows within its epoch.  Then the runs that meet it
are those in which the rank never falls within an epoch. -/
theorem admits_restrict_iff_forward
    {condition : State → Action → Prop} {Rank : Type*} [Preorder Rank]
    {epoch : State → Nat} {rank : State → Rank} {invariant : State → Prop}
    (always : machine.Always invariant)
    (grows :
      ∀ state action,
        machine.admits state action →
          epoch state ≤ epoch (machine.step state action))
    (exactly :
      ∀ state action,
        invariant state → machine.admits state action →
          (condition state action ↔
            (epoch (machine.step state action) = epoch state →
              rank state ≤ rank (machine.step state action))))
    (actions : List Action) (admissible : machine.Admits actions) :
    (machine.restrict condition).Admits actions ↔
      ∀ earlier later, earlier <+: later → later <+: actions →
        epoch (machine.run earlier) = epoch (machine.run later) →
          rank (machine.run earlier) ≤ rank (machine.run later) := by
  rw [forward_iff_steps epoch rank grows actions admissible]
  have each :=
    admits_restrict_iff_each (always.restrict condition) exactly actions
      admissible
  rw [each]
  simp only [run_concat]

end Invariants

section Drops

/-! ## Runs without some of their actions -/

/-- The actions of a run that are not dropped in the states it goes through. -/
def keptFrom (machine : Machine State Action) (drops : State → Action → Bool) :
    State → List Action → List Action
  | _, [] => []
  | state, action :: actions =>
      let rest := machine.keptFrom drops (machine.step state action) actions
      if drops state action then rest else action :: rest

/-- A relation that a dropped action keeps on its own side, and a kept one on
both, holds between a run and the run without what is dropped. -/
theorem related_keptFrom
    (machine : Machine State Action) (drops : State → Action → Bool)
    (relation : State → State → Prop)
    (dropped :
      ∀ state other action,
        machine.admits state action → relation state other →
          drops state action = true → relation (machine.step state action) other)
    (kept :
      ∀ state other action,
        machine.admits state action → relation state other →
          drops state action = false →
            relation (machine.step state action) (machine.step other action))
    (actions : List Action) :
    ∀ state other,
      relation state other → machine.AdmitsFrom state actions →
        relation (machine.runFrom state actions)
          (machine.runFrom other (machine.keptFrom drops state actions)) := by
  induction actions with
  | nil =>
      intro state other related _
      exact related
  | cons action actions inductionHypothesis =>
      rintro state other related ⟨offered, admissible⟩
      rw [keptFrom]
      cases drop : drops state action with
      | true =>
          rw [if_pos rfl]
          exact
            inductionHypothesis _ other
              (dropped state other action offered related drop) admissible
      | false =>
          rw [if_neg Bool.false_ne_true]
          exact
            inductionHypothesis _ _
              (kept state other action offered related drop) admissible

end Drops

end Machine

end Btcr2Aggregation
