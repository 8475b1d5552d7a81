import SearchQuery.Builder.Store

/-! # Workspaces of builders

  A workspace keeps builders in numbered slots, and their fragments in one store. A step
  that makes a builder puts it into a new slot at the end; a step that fails, or asks for
  a slot that holds nothing, leaves the workspace as it was. Dropping empties one slot and
  moves no other.
-/

namespace SearchQuery

/-- Numbered slots, some of which hold a builder. -/
structure Workspace where
  /-- The fragments of all builders. -/
  store : FragmentStore
  slots : Array (Option StoredBuilder)
deriving DecidableEq, Repr

namespace Workspace

/-- One slot, which holds the empty builder. -/
def initial : Workspace := ⟨.empty, #[some ⟨none, 0⟩]⟩

/-- What a slot holds. -/
def stored? (w : Workspace) (slot : Nat) : Option StoredBuilder :=
  (w.slots[slot]?).join

/-- The builder in a slot, if there is one. -/
def get? (w : Workspace) (slot : Nat) : Option FilterBuilder :=
  (w.stored? slot).map w.store.read

/-- The slot that the next builder is put into. -/
def nextSlot (w : Workspace) : Nat := w.slots.size

/-- Makes a builder from another one by adding fragments, and puts it into a new slot. -/
def extend (w : Workspace) (b : StoredBuilder) (texts : List String) : Workspace :=
  let (store, made) := w.store.extend b texts
  ⟨store, w.slots.push (some made)⟩

/-- Empties a slot. -/
def drop (w : Workspace) (slot : Nat) : Workspace :=
  match w.stored? slot with
  | none => w
  | some b => ⟨w.store.release b.newest?, w.slots.modify slot fun _ => none⟩

/-! ### Steps -/

/-- What is done to make a builder from the one in a slot. -/
inductive Derivation where
  /-- A copy. -/
  | clone
  /-- One more comparison. -/
  | compare (field spelling : String) (operand : Value)
  /-- One more comparison, from a list of arguments. -/
  | compareArguments (arguments : List Value)
  /-- One more expression. -/
  | add (expression : Expression)
  /-- A comparison with each of the numbers below `count`, in order. -/
  | compareEach (field spelling : String) (count : Nat)

/-- The comparisons with each of `count` numbers, from `start` on. -/
def compileFrom (field spelling : String) (start : Nat) : Nat → Except QueryError (List String)
  | 0 => .ok []
  | count + 1 => do
    let text ← compileComparison field spelling (.number (.unsigned (UInt64.ofNat start)))
    let texts ← compileFrom field spelling (start + 1) count
    return text :: texts

/-- The fragments that a derivation adds, the first one first. -/
def Derivation.texts : Derivation → Except QueryError (List String)
  | clone => .ok []
  | compare field spelling operand => (compileComparison field spelling operand).map ([·])
  | compareArguments arguments => (compileArguments arguments).map ([·])
  | add expression => expression.compile.map ([·])
  | compareEach field spelling count => compileFrom field spelling 0 count

/-- A step of a script. -/
inductive Step where
  /-- Makes an empty builder. -/
  | new
  /-- Makes a builder from the one in a slot. -/
  | derive (slot : Nat) (derivation : Derivation)
  /-- Empties a slot. -/
  | drop (slot : Nat)

/-- Why a step makes no builder. -/
inductive StepError where
  /-- The slot holds nothing. -/
  | noBuilder (slot : Nat)
  /-- The derivation has no meaning. -/
  | query (error : QueryError)
deriving DecidableEq, Repr

/-- The workspace after a step, and the new slot if the step makes a builder. -/
def step (w : Workspace) : Step → Except StepError (Workspace × Option Nat)
  | .new => .ok (w.extend ⟨none, 0⟩ [], some w.nextSlot)
  | .derive slot derivation =>
    match w.stored? slot with
    | none => .error (.noBuilder slot)
    | some b =>
      match derivation.texts with
      | .ok texts => .ok (w.extend b texts, some w.nextSlot)
      | .error error => .error (.query error)
  | .drop slot => .ok (w.drop slot, none)

/-- The workspace after a script. Steps that fail leave no trace. -/
def run (w : Workspace) (script : List Step) : Workspace :=
  script.foldl (fun w s =>
    match w.step s with
    | .ok (w, _) => w
    | .error _ => w) w

end Workspace

end SearchQuery
