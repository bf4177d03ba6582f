import Mathlib.Data.Nat.Notation
import Mathlib.Data.Int.Notation

/-!
# JSON values

A JSON value with the numbers that are not integers in a type `ν`.  The keys of an object are texts, each of which is
looked up at its first member.
-/

/-- The members of an object are in order. -/
inductive Json (ν : Type)
  | null
  | bool (b : Bool)
  | int (n : ℤ)
  | double (x : ν)
  | string (text : List Char)
  | array (elements : List (Json ν))
  | object (members : List (List Char × Json ν))

namespace Json

variable {ν : Type}

/-- The member of an object with this key, `none` also for what is not an object. -/
def member (key : List Char) : Json ν → Option (Json ν)
  | object members => members.lookup key
  | _ => none

def isObject : Json ν → Bool
  | object _ => true
  | _ => false

/-- An object with another value at a key that it has. -/
def setMember (v : Json ν) (key : List Char) (value : Json ν) : Json ν :=
  match v with
  | object members => object (members.map fun m => if m.1 = key then (key, value) else m)
  | v => v

theorem member_setMember (v : Json ν) (key : List Char) (value : Json ν) (other : List Char) :
    (v.setMember key value).member other =
      if other = key then (v.member other).map fun _ => value else v.member other := by
  cases v with
  | object members =>
    induction members with
    | nil => simp [setMember, member]
    | cons m members ih =>
      simp only [setMember, member, List.map_cons] at ih ⊢
      by_cases hm : m.1 = key <;> by_cases ho : other = m.1 <;> grind -ring -linarith
  | _ => simp [setMember, member]

end Json
