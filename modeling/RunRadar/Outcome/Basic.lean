import RunRadar.Json.Basic

/-!
# RunRadar.Outcome.Basic

**Outcomes**: what evaluating one node of a checks tree came to. Details are the outcomes of
operands, for a node that joins them, or a JSON value of an evaluator's own.
-/

namespace RunRadar

mutual
/-- The outcome of a node. -/
inductive Outcome
  | mk (passed : Bool) (filter : Option String) (details : Option Details)
/-- What an outcome says beside its verdict. -/
inductive Details
  | operands (outcomes : List Outcome)
  | evaluator (value : Json)
end

namespace Outcome

/-! ### Parts and shapes -/

def passed : Outcome → Bool
  | .mk passed _ _ => passed

/-- The filter of a leaf. -/
def filter : Outcome → Option String
  | .mk _ filter _ => filter

def details : Outcome → Option Details
  | .mk _ _ details => details

/-- A verdict and nothing else. -/
def bare (passed : Bool) : Outcome := .mk passed none none

def pass : Outcome := bare true

def fail : Outcome := bare false

/-- The outcome of a filter that storage decided. -/
def ofFilter (id : String) (passed : Bool) : Outcome := .mk passed (some id) none

/-- The outcome of a node over the outcomes of its operands. -/
def combined (passed : Bool) (outcomes : List Outcome) : Outcome :=
  .mk passed none (some (.operands outcomes))

@[simp] theorem passed_mk (p : Bool) (f : Option String) (d : Option Details) :
    (mk p f d).passed = p := rfl

@[simp] theorem passed_bare (p : Bool) : (bare p).passed = p := rfl

@[simp] theorem passed_pass : pass.passed = true := rfl

@[simp] theorem passed_fail : fail.passed = false := rfl

@[simp] theorem passed_ofFilter (id : String) (p : Bool) : (ofFilter id p).passed = p := rfl

@[simp] theorem passed_combined (p : Bool) (os : List Outcome) : (combined p os).passed = p :=
  rfl

end Outcome

/-! ### Equality -/

mutual
/-- Decides equality of outcomes. -/
def Outcome.decEq : (a b : Outcome) → Decidable (a = b)
  | .mk p f none, .mk p' f' none =>
    if h : p = p' ∧ f = f' then isTrue (by simp [h]) else isFalse (by simpa using h)
  | .mk p f (some d), .mk p' f' (some d') =>
    if h : p = p' ∧ f = f' then
      match d.decEq d' with
      | isTrue h' => isTrue (by simp [h, h'])
      | isFalse h' => isFalse (by simp [h'])
    else isFalse (by simp only [Outcome.mk.injEq]; exact fun h' => h ⟨h'.1, h'.2.1⟩)
  | .mk _ _ none, .mk _ _ (some _) => isFalse (by simp)
  | .mk _ _ (some _), .mk _ _ none => isFalse (by simp)
/-- Decides equality of details. -/
def Details.decEq : (a b : Details) → Decidable (a = b)
  | .operands as, .operands bs =>
    match Outcome.decEqAll as bs with
    | isTrue h => isTrue (h ▸ rfl)
    | isFalse h => isFalse (by simp [h])
  | .evaluator a, .evaluator b => if h : a = b then isTrue (h ▸ rfl) else isFalse (by simp [h])
  | .operands _, .evaluator _ => isFalse (by simp)
  | .evaluator _, .operands _ => isFalse (by simp)
/-- Decides equality of lists of outcomes. -/
def Outcome.decEqAll : (as bs : List Outcome) → Decidable (as = bs)
  | [], [] => isTrue rfl
  | a :: as, b :: bs =>
    match a.decEq b, Outcome.decEqAll as bs with
    | isTrue h, isTrue h' => isTrue (by simp [h, h'])
    | isFalse h, _ => isFalse (by simp [h])
    | _, isFalse h => isFalse (by simp [h])
  | [], _ :: _ => isFalse (by simp)
  | _ :: _, [] => isFalse (by simp)
end

instance : DecidableEq Outcome := Outcome.decEq

end RunRadar
