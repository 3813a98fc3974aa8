import RunRadar.Number.Binary64

/-!
# RunRadar.Json.Basic

JSON values in **one form each**. The members of an object stand in increasing order of
their keys, by construction: a `Fields` carries the key it lies above, so an object with a
repeated or misplaced key does not exist, and two objects with the same members are equal.
Strings are ordered by code point, which is also the order of their UTF-8 bytes.

A number is a whole number of sixty-four bits, signed or not, or else a finite double.
-/

namespace RunRadar

/-! ### Numbers -/

/-- Whether a whole number is one of JSON's: at least the least signed and at most the
greatest unsigned number of sixty-four bits. -/
def Json.Fits (i : Int) : Prop := -0x8000_0000_0000_0000 ≤ i ∧ i < 0x1_0000_0000_0000_0000

instance (i : Int) : Decidable (Json.Fits i) := inferInstanceAs (Decidable (_ ∧ _))

/-- A JSON number. -/
inductive Json.Number
  | integer (value : Int) (fits : Json.Fits value)
  | double (value : Binary64) (finite : value.isFinite = true)
deriving DecidableEq

/-! ### Values -/

mutual
/-- A JSON value. -/
inductive Json : Type
  | null
  | bool (value : Bool)
  | number (value : Json.Number)
  | string (text : String)
  | array (items : List Json)
  | object (fields : Json.Fields none)
/-- Members of an object whose keys all lie above `lower` and increase. -/
inductive Json.Fields : Option String → Type
  | nil {lower : Option String} : Json.Fields lower
  | cons {lower : Option String} (key : String) (above : ∀ k ∈ lower, k < key) (value : Json)
      (rest : Json.Fields (some key)) : Json.Fields lower
end

instance : Inhabited Json := ⟨.null⟩

instance {lower : Option String} : Inhabited (Json.Fields lower) := ⟨.nil⟩

namespace Json

/-- The members of a whole object. -/
abbrev Object := Fields none

/-! ### Equality -/

mutual
/-- Decides equality of values, member by member. -/
def decEq : (a b : Json) → Decidable (a = b)
  | .null, .null => isTrue rfl
  | .bool a, .bool b => if h : a = b then isTrue (h ▸ rfl) else isFalse (by simp [h])
  | .number a, .number b => if h : a = b then isTrue (h ▸ rfl) else isFalse (by simp [h])
  | .string a, .string b => if h : a = b then isTrue (h ▸ rfl) else isFalse (by simp [h])
  | .array a, .array b =>
    match decEqItems a b with
    | isTrue h => isTrue (h ▸ rfl)
    | isFalse h => isFalse (by simp [h])
  | .object a, .object b =>
    match a.decEq b with
    | isTrue h => isTrue (h ▸ rfl)
    | isFalse h => isFalse (by simp [h])
  | .null, .bool _ | .null, .number _ | .null, .string _ | .null, .array _
  | .null, .object _ => isFalse (by simp)
  | .bool _, .null | .bool _, .number _ | .bool _, .string _ | .bool _, .array _
  | .bool _, .object _ => isFalse (by simp)
  | .number _, .null | .number _, .bool _ | .number _, .string _ | .number _, .array _
  | .number _, .object _ => isFalse (by simp)
  | .string _, .null | .string _, .bool _ | .string _, .number _ | .string _, .array _
  | .string _, .object _ => isFalse (by simp)
  | .array _, .null | .array _, .bool _ | .array _, .number _ | .array _, .string _
  | .array _, .object _ => isFalse (by simp)
  | .object _, .null | .object _, .bool _ | .object _, .number _ | .object _, .string _
  | .object _, .array _ => isFalse (by simp)
/-- Decides equality of lists of values. -/
def decEqItems : (a b : List Json) → Decidable (a = b)
  | [], [] => isTrue rfl
  | a :: as, b :: bs =>
    match a.decEq b, decEqItems as bs with
    | isTrue h, isTrue h' => isTrue (by simp [h, h'])
    | isFalse h, _ => isFalse (by simp [h])
    | _, isFalse h => isFalse (by simp [h])
  | [], _ :: _ => isFalse (by simp)
  | _ :: _, [] => isFalse (by simp)
/-- Decides equality of members. -/
def Fields.decEq : {lower : Option String} → (a b : Fields lower) → Decidable (a = b)
  | _, .nil, .nil => isTrue rfl
  | _, .nil, .cons .. => isFalse (by simp)
  | _, .cons .., .nil => isFalse (by simp)
  | _, .cons k _ a as, .cons k' _ b bs =>
    if h : k = k' then by
      subst h
      exact
        match a.decEq b, as.decEq bs with
        | isTrue h, isTrue h' => isTrue (by simp [h, h'])
        | isFalse h, _ => isFalse (by simp [h])
        | _, isFalse h => isFalse (by simp [h])
    else isFalse (by simp [h])
end

instance : DecidableEq Json := decEq

instance {lower : Option String} : DecidableEq (Fields lower) := Fields.decEq

/-! ### Members -/

namespace Fields

variable {lower : Option String}

/-- The members as pairs, in order of their keys. -/
def toList : {lower : Option String} → Fields lower → List (String × Json)
  | _, .nil => []
  | _, .cons key _ value rest => (key, value) :: rest.toList

/-- The value under a key. -/
def get? (name : String) : {lower : Option String} → Fields lower → Option Json
  | _, .nil => none
  | _, .cons key _ value rest => if key = name then some value else rest.get? name

/-- The value under a key, where null stands for nothing. -/
def present? (fields : Fields lower) (name : String) : Option Json :=
  match fields.get? name with
  | some .null => none
  | value => value

/-- Puts a member at its place. One with the same key is replaced. -/
def insertAbove (name : String) (value : Json) : {lower : Option String} →
    (above : ∀ k ∈ lower, k < name) → Fields lower → Fields lower
  | _, above, .nil => .cons name above value .nil
  | _, above, .cons key aboveKey old rest =>
    if before : name < key then
      .cons name above value (.cons key (by simpa using before) old rest)
    else if same : name = key then .cons key aboveKey value rest
    else
      have after : key < name := by
        have h := String.not_lt.mp before
        exact Decidable.byContradiction fun h' =>
          same (String.le_antisymm (String.not_lt.mp h') h)
      .cons key aboveKey old (rest.insertAbove name value (by simpa using after))

/-- Puts a member into an object. -/
def insert (fields : Object) (name : String) (value : Json) : Object :=
  fields.insertAbove name value (by simp)

/-- The object with the given members. The last of several under one key stays. -/
def ofList (members : List (String × Json)) : Object :=
  members.foldl (fun fields member => fields.insert member.1 member.2) .nil

@[simp] theorem toList_nil : (nil : Fields lower).toList = [] := rfl

@[simp] theorem toList_cons (key : String) (above : ∀ k ∈ lower, k < key) (value : Json)
    (rest : Fields (some key)) :
    (cons key above value rest).toList = (key, value) :: rest.toList := rfl

end Fields

/-! ### Building values -/

/-- The object with the given members. -/
def ofMembers (members : List (String × Json)) : Json := .object (.ofList members)

/-- The whole number of JSON nearest to a given one, which is itself when it fits. -/
def Number.ofInt (i : Int) : Number :=
  .integer (max (-0x8000_0000_0000_0000) (min i 0xFFFF_FFFF_FFFF_FFFF)) (by unfold Fits; omega)

/-- The value of a whole number. -/
def ofInt (i : Int) : Json := .number (.ofInt i)

/-- A list of strings. -/
def ofTexts (texts : List String) : Json := .array (texts.map .string)

/-- Nothing is null. -/
def ofOption {α : Type} (value : α → Json) : Option α → Json
  | none => .null
  | some a => value a

/-! ### Reading values -/

/-- The nearest double to a number. -/
def Number.toDouble : Number → Binary64
  | .integer i _ => .ofInt i
  | .double x _ => x

/-- The whole number of sixty-four signed bits that a number is. -/
def Number.int64? : Number → Option Int
  | .integer i _ => if i < 0x8000_0000_0000_0000 then some i else none
  | .double .. => none

def isNull : Json → Bool
  | .null => true
  | _ => false

def isString : Json → Bool
  | .string _ => true
  | _ => false

def isNumber : Json → Bool
  | .number _ => true
  | _ => false

/-- The member of an object under a key. Other values have no members. -/
def member? (name : String) : Json → Option Json
  | .object fields => fields.get? name
  | _ => none

end Json

end RunRadar
