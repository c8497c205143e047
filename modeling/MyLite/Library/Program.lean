import Mathlib.Tactic.Common

/-! Programs of one party of a shared system. Between two calls a program only
computes on its own state, so a run of several programs is an interleaving of
their calls. The rules of pre- and postconditions are stated for a discipline: a
ghost state that follows the answers, and what it lets the program call. -/

namespace Program

universe u

/-- A finite tree of calls. Every node shows the party's own state at that point. -/
inductive Tree (Request : Type) (Response : Request → Type) (σ : Type) (α : Type u) where
  | done (state : σ) (value : α)
  | call (state : σ) (request : Request)
      (next : Response request → Tree Request Response σ α)

variable {Request : Type} {Response : Request → Type} {σ γ : Type} {α β : Type u}

namespace Tree

def state : Tree Request Response σ α → σ
  | .done state _ => state
  | .call state _ _ => state

def bind : Tree Request Response σ α → (σ → α → Tree Request Response σ β) →
    Tree Request Response σ β
  | .done state value, rest => rest state value
  | .call state request next, rest => .call state request fun answer => (next answer).bind rest

end Tree

end Program

/-- A program started in a state of its party. -/
def Program (Request : Type) (Response : Request → Type) (σ : Type) (α : Type u) :=
  σ → Program.Tree Request Response σ α

namespace Program

instance : Monad (Program Request Response σ) where
  pure value := fun state => .done state value
  bind program rest := fun state => (program state).bind fun state value => rest value state

def get : Program Request Response σ σ := fun state => .done state state

def modify (f : σ → σ) : Program Request Response σ PUnit := fun state => .done (f state) ⟨⟩

def call (request : Request) : Program Request Response σ (Response request) :=
  fun state => .call state request fun answer => .done state answer

/-- What a party may call, given a ghost state that its answers move forward. -/
structure Discipline (Request : Type) (Response : Request → Type) (σ γ : Type) where
  guard : γ → σ → Request → Prop
  advance : γ → (request : Request) → Response request → γ

variable (discipline : Discipline Request Response σ γ)

/-- Every call of the tree is let through, whatever the answers, and every end
satisfies the postcondition. -/
def Tree.Follows (post : γ → σ → α → Prop) : γ → Tree Request Response σ α → Prop
  | ghost, .done state value => post ghost state value
  | ghost, .call state request next =>
    discipline.guard ghost state request ∧
      ∀ answer, (next answer).Follows post (discipline.advance ghost request answer)

theorem Tree.follows_bind {post : γ → σ → β → Prop} {tree : Tree Request Response σ α}
    {rest : σ → α → Tree Request Response σ β} {ghost : γ}
    (follows : tree.Follows discipline
      (fun ghost state value => (rest state value).Follows discipline post ghost) ghost) :
    (tree.bind rest).Follows discipline post ghost := by
  induction tree generalizing ghost with
  | done state value => exact follows
  | call state request next ih => exact ⟨follows.1, fun answer => ih answer (follows.2 answer)⟩

theorem Tree.follows_mono {post post' : γ → σ → α → Prop} {tree : Tree Request Response σ α}
    {ghost : γ} (weaker : ∀ ghost state value, post ghost state value → post' ghost state value)
    (follows : tree.Follows discipline post ghost) : tree.Follows discipline post' ghost := by
  induction tree generalizing ghost with
  | done state value => exact weaker _ _ _ follows
  | call state request next ih => exact ⟨follows.1, fun answer => ih answer (follows.2 answer)⟩

/-- The triple: started in any state that satisfies `pre`, the program follows
the discipline and ends in `post`. -/
def Triple (pre : γ → σ → Prop) (program : Program Request Response σ α)
    (post : α → γ → σ → Prop) : Prop :=
  ∀ ghost state, pre ghost state →
    (program state).Follows discipline (fun ghost state value => post value ghost state) ghost

variable {discipline}

section Rules

variable {post : γ → σ → β → Prop} {ghost : γ} {state : σ}

theorem follows_pure {value : β} (holds : post ghost state value) :
    ((pure value : Program Request Response σ β) state).Follows discipline post ghost :=
  holds

theorem follows_get {rest : σ → Program Request Response σ β}
    (follows : (rest state state).Follows discipline post ghost) :
    ((get >>= rest) state).Follows discipline post ghost :=
  follows

theorem follows_modify {f : σ → σ} {rest : PUnit → Program Request Response σ β}
    (follows : (rest ⟨⟩ (f state)).Follows discipline post ghost) :
    ((modify f >>= rest) state).Follows discipline post ghost :=
  follows

theorem follows_call {request : Request} {rest : Response request → Program Request Response σ β}
    (guard : discipline.guard ghost state request)
    (follows : ∀ answer, (rest answer state).Follows discipline post
      (discipline.advance ghost request answer)) :
    ((call request >>= rest) state).Follows discipline post ghost :=
  ⟨guard, follows⟩

theorem follows_ite {condition : Prop} [Decidable condition]
    {yes no : Program Request Response σ β}
    (followsYes : condition → (yes state).Follows discipline post ghost)
    (followsNo : ¬ condition → (no state).Follows discipline post ghost) :
    ((if condition then yes else no) state).Follows discipline post ghost := by
  split
  · next holds => exact followsYes holds
  · next fails => exact followsNo fails

/-- A program that is called is used through its triple. -/
theorem Triple.follows {pre : γ → σ → Prop} {middle : α → γ → σ → Prop}
    {program : Program Request Response σ α} {rest : α → Program Request Response σ β}
    (triple : Triple discipline pre program middle) (holds : pre ghost state)
    (follows : ∀ value ghost state, middle value ghost state →
      (rest value state).Follows discipline post ghost) :
    ((program >>= rest) state).Follows discipline post ghost := by
  apply Tree.follows_bind
  apply Tree.follows_mono discipline _ (triple ghost state holds)
  intro ghost state value reached
  exact follows value ghost state reached

theorem Triple.last {pre : γ → σ → Prop} {post' : β → γ → σ → Prop}
    {program : Program Request Response σ β}
    (triple : Triple discipline pre program post') (holds : pre ghost state)
    (weaker : ∀ value ghost state, post' value ghost state → post ghost state value) :
    (program state).Follows discipline post ghost :=
  Tree.follows_mono discipline (fun ghost state value reached => weaker value ghost state reached)
    (triple ghost state holds)

end Rules

end Program
