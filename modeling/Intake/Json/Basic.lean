import Intake.Decimal.Shortest
import Intake.SortedMap

/-!
# JSON documents

A document keeps the members of its objects in the order in which they were written, repeated
names included.  Its canonical form, the *value*, lists the members of every object by name and
keeps the last of several members with one name.
-/

namespace Intake

/-- A whole number or a floating-point number. -/
inductive Number where
  | int (n : Int)
  | float (x : Binary64)
  deriving DecidableEq, Inhabited

inductive Json where
  | null
  | bool (b : Bool)
  | num (n : Number)
  | str (text : String)
  | arr (items : List Json)
  | obj (members : List (String × Json))
  deriving Inhabited

namespace Json

abbrev Member := String × Json

mutual

def beq : Json → Json → Bool
  | .null, .null => true
  | .bool a, .bool b => a == b
  | .num a, .num b => decide (a = b)
  | .str a, .str b => a == b
  | .arr xs, .arr ys => beqItems xs ys
  | .obj ms, .obj ns => beqMembers ms ns
  | _, _ => false

def beqItems : List Json → List Json → Bool
  | [], [] => true
  | x :: xs, y :: ys => beq x y && beqItems xs ys
  | _, _ => false

def beqMembers : List (String × Json) → List (String × Json) → Bool
  | [], [] => true
  | (a, x) :: ms, (b, y) :: ns => a == b && beq x y && beqMembers ms ns
  | _, _ => false

end

mutual

theorem eq_of_beq : ∀ (a b : Json), beq a b = true → a = b
  | .null, b, h => by cases b <;> simp_all [beq]
  | .bool _, b, h => by cases b <;> simp_all [beq]
  | .num _, b, h => by cases b <;> simp_all [beq]
  | .str _, b, h => by cases b <;> simp_all [beq]
  | .arr xs, b, h => by
    cases b <;> simp only [beq, Bool.false_eq_true] at h
    rw [eq_of_beqItems xs _ h]
  | .obj ms, b, h => by
    cases b <;> simp only [beq, Bool.false_eq_true] at h
    rw [eq_of_beqMembers ms _ h]

theorem eq_of_beqItems : ∀ (xs ys : List Json), beqItems xs ys = true → xs = ys
  | [], ys, h => by cases ys <;> simp_all [beqItems]
  | x :: xs, ys, h => by
    cases ys with
    | nil => simp [beqItems] at h
    | cons y ys =>
      simp only [beqItems, Bool.and_eq_true] at h
      rw [eq_of_beq x y h.1, eq_of_beqItems xs ys h.2]

theorem eq_of_beqMembers : ∀ (ms ns : List (String × Json)), beqMembers ms ns = true → ms = ns
  | [], ns, h => by cases ns <;> simp_all [beqMembers]
  | (a, x) :: ms, ns, h => by
    cases ns with
    | nil => simp [beqMembers] at h
    | cons n ns =>
      obtain ⟨b, y⟩ := n
      simp only [beqMembers, Bool.and_eq_true, beq_iff_eq] at h
      rw [h.1.1, eq_of_beq x y h.1.2, eq_of_beqMembers ms ns h.2]

end

mutual

theorem beq_self : ∀ (a : Json), beq a a = true
  | .null => rfl
  | .bool _ => by simp [beq]
  | .num _ => by simp [beq]
  | .str _ => by simp [beq]
  | .arr xs => by simpa [beq] using beqItems_self xs
  | .obj ms => by simpa [beq] using beqMembers_self ms

theorem beqItems_self : ∀ (xs : List Json), beqItems xs xs = true
  | [] => rfl
  | x :: xs => by simp [beqItems, beq_self x, beqItems_self xs]

theorem beqMembers_self : ∀ (ms : List (String × Json)), beqMembers ms ms = true
  | [] => rfl
  | (a, x) :: ms => by simp [beqMembers, beq_self x, beqMembers_self ms]

end

instance : DecidableEq Json := fun a b =>
  if h : beq a b = true then .isTrue (eq_of_beq a b h)
  else .isFalse fun hab => h (by rw [hab]; exact beq_self b)

mutual

/-- The value of a document. -/
def canonical : Json → Json
  | .arr xs => .arr (canonicalItems xs)
  | .obj ms => .obj (Entries.ofList (canonicalMembers ms))
  | .null => .null
  | .bool b => .bool b
  | .num n => .num n
  | .str s => .str s

def canonicalItems : List Json → List Json
  | [] => []
  | x :: xs => canonical x :: canonicalItems xs

def canonicalMembers : List (String × Json) → List (String × Json)
  | [] => []
  | (name, x) :: ms => (name, canonical x) :: canonicalMembers ms

end

mutual

/-- How many arrays and objects lie inside one another. -/
def depth : Json → Nat
  | .arr xs => 1 + depthItems xs
  | .obj ms => 1 + depthMembers ms
  | .null => 0
  | .bool _ => 0
  | .num _ => 0
  | .str _ => 0

def depthItems : List Json → Nat
  | [] => 0
  | x :: xs => max (depth x) (depthItems xs)

def depthMembers : List (String × Json) → Nat
  | [] => 0
  | (_, x) :: ms => max (depth x) (depthMembers ms)

end

/-- The member of an object with this name. -/
def get? (name : String) : Json → Option Json
  | .obj ms => ms.lookup name
  | _ => none

/-- The value at the end of a path of member names. -/
def at? : List String → Json → Option Json
  | [], value => some value
  | name :: path, value => (value.get? name).bind (at? path)

def asString? : Json → Option String
  | .str s => some s
  | _ => none

def asArray? : Json → Option (List Json)
  | .arr xs => some xs
  | _ => none

def ofNat (n : Nat) : Json := .num (.int n)

/-- A member that is left out when there is nothing to write. -/
def optionalMember (name : String) (write : α → Json) : Option α → List Member
  | none => []
  | some a => [(name, write a)]

/-- A list that is left out when it is empty. -/
def listMember (name : String) (write : α → Json) (items : List α) : List Member :=
  if items.isEmpty then [] else [(name, .arr (items.map write))]

end Json

end Intake
