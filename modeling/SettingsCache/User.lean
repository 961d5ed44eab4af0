/-!
# Users and the scope of a request

Every process runs on behalf of one user. A request for that user is sent without naming the user,
who is understood; a request for any other user names them. Only the former may use a local cache.
-/

namespace SettingsCache

/-- A user whose settings are read or written. -/
structure UserId where
  id : UInt32
  deriving DecidableEq

namespace UserId

/-- The primary user. -/
def primary : UserId := ⟨0⟩

/-- Users are ordered by number. -/
instance : Ord UserId := ⟨fun a b ↦ compare a.id b.id⟩

instance : Std.TransOrd UserId where
  eq_swap {a b} := (Std.OrientedOrd.eq_swap : compare a.id b.id = (compare b.id a.id).swap)
  isLE_trans {a b c} (hab : (compare a.id b.id).isLE) (hbc : (compare b.id c.id).isLE) :=
    (Std.TransOrd.isLE_trans hab hbc : (compare a.id c.id).isLE)

instance : Std.LawfulEqOrd UserId where
  compare_self {a} := (Std.ReflOrd.compare_self : compare a.id a.id = .eq)
  eq_of_compare {a b} (h : compare a.id b.id = .eq) := by
    have h' : a.id = b.id := Std.LawfulEqOrd.eq_of_compare h
    cases a
    cases b
    exact congrArg UserId.mk h'

/-- A user's number in decimal. -/
def decimal (user : UserId) : String := toString user.id.toNat

/-- A user as shown inside a description. -/
def describe (user : UserId) : String := "UserId(" ++ user.decimal ++ ")"

/-- The user of a number, if it is in range. -/
def ofInt? (n : Int) : Option UserId :=
  if 0 ≤ n ∧ n < UInt32.size then some ⟨UInt32.ofNat n.toNat⟩ else none

end UserId

/-- Whether a request is for the process's own user. -/
inductive Scope where
  /-- The request is for the user the process runs as. -/
  | own
  /-- The request is made on behalf of another user. -/
  | foreign (user : UserId)
  deriving DecidableEq

namespace Scope

/-- The scope of a request for one user, made by a process running as another or the same. -/
def resolve (requested process : UserId) : Scope :=
  if requested = process then .own else .foreign requested

/-- Whether a request is for the process's own user. -/
def isOwn : Scope → Bool
  | .own => true
  | .foreign _ => false

/-- The user named in the request: none for the process's own. -/
def wireUser : Scope → Option UserId
  | .own => none
  | .foreign user => some user

/-- A scope as shown inside a description. -/
def describe : Scope → String
  | .own => "SelfUser"
  | .foreign user => "Foreign(" ++ user.describe ++ ")"

end Scope

end SettingsCache
