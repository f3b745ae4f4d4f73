import IngressGuard.Binary64.Shortest

/-!
# JSON values

A JSON document as a tree: objects keep their members in the order they were written; numbers
are integers when whole and within 64 bits, and binary64 values otherwise. `Json.get?` looks a
member up (the last member of a name wins, as when a document is read into a map), and
`Json.mergePatch` applies a merge patch: a patch object sets its members one by one, a `null`
member removes, a nested object patches recursively, and any other patch replaces the target.
-/

namespace IngressGuard

/-- A JSON value. -/
inductive Json where
  | null
  | bool (value : Bool)
  | num (value : Int)
  | float (value : Binary64)
  | str (value : String)
  | arr (items : List Json)
  | obj (members : List (String × Json))
deriving Inhabited, Repr

namespace Json

mutual
/-- Decides whether two values are equal. -/
def decEq : (a b : Json) → Decidable (a = b)
  | .null, .null => isTrue rfl
  | .bool x, .bool y =>
    if h : x = y then isTrue (h ▸ rfl) else isFalse (fun e => h (Json.bool.inj e))
  | .num x, .num y =>
    if h : x = y then isTrue (h ▸ rfl) else isFalse (fun e => h (Json.num.inj e))
  | .float x, .float y =>
    if h : x = y then isTrue (h ▸ rfl) else isFalse (fun e => h (Json.float.inj e))
  | .str x, .str y =>
    if h : x = y then isTrue (h ▸ rfl) else isFalse (fun e => h (Json.str.inj e))
  | .arr xs, .arr ys =>
    match decEqItems xs ys with
    | isTrue h => isTrue (h ▸ rfl)
    | isFalse h => isFalse (fun e => h (Json.arr.inj e))
  | .obj xs, .obj ys =>
    match decEqMembers xs ys with
    | isTrue h => isTrue (h ▸ rfl)
    | isFalse h => isFalse (fun e => h (Json.obj.inj e))
  | .null, .bool _ | .null, .num _ | .null, .float _
  | .null, .str _ | .null, .arr _ | .null, .obj _ => isFalse nofun
  | .bool _, .null | .bool _, .num _ | .bool _, .float _
  | .bool _, .str _ | .bool _, .arr _ | .bool _, .obj _ => isFalse nofun
  | .num _, .null | .num _, .bool _ | .num _, .float _
  | .num _, .str _ | .num _, .arr _ | .num _, .obj _ => isFalse nofun
  | .float _, .null | .float _, .bool _ | .float _, .num _
  | .float _, .str _ | .float _, .arr _ | .float _, .obj _ => isFalse nofun
  | .str _, .null | .str _, .bool _ | .str _, .num _
  | .str _, .float _ | .str _, .arr _ | .str _, .obj _ => isFalse nofun
  | .arr _, .null | .arr _, .bool _ | .arr _, .num _
  | .arr _, .float _ | .arr _, .str _ | .arr _, .obj _ => isFalse nofun
  | .obj _, .null | .obj _, .bool _ | .obj _, .num _
  | .obj _, .float _ | .obj _, .str _ | .obj _, .arr _ => isFalse nofun

/-- Decides whether two lists of values are equal. -/
def decEqItems : (xs ys : List Json) → Decidable (xs = ys)
  | [], [] => isTrue rfl
  | x :: xs, y :: ys =>
    match decEq x y, decEqItems xs ys with
    | isTrue h1, isTrue h2 => isTrue (h1 ▸ h2 ▸ rfl)
    | isFalse h, _ => isFalse (fun e => h (List.cons.inj e).1)
    | _, isFalse h => isFalse (fun e => h (List.cons.inj e).2)
  | [], _ :: _ => isFalse nofun
  | _ :: _, [] => isFalse nofun

/-- Decides whether two lists of members are equal. -/
def decEqMembers : (xs ys : List (String × Json)) → Decidable (xs = ys)
  | [], [] => isTrue rfl
  | (k, x) :: xs, (l, y) :: ys =>
    if hk : k = l then
      match decEq x y, decEqMembers xs ys with
      | isTrue h1, isTrue h2 => isTrue (hk ▸ h1 ▸ h2 ▸ rfl)
      | isFalse h, _ => isFalse (fun e => h (Prod.mk.inj (List.cons.inj e).1).2)
      | _, isFalse h => isFalse (fun e => h (List.cons.inj e).2)
    else isFalse (fun e => hk (Prod.mk.inj (List.cons.inj e).1).1)
  | [], _ :: _ => isFalse nofun
  | _ :: _, [] => isFalse nofun
end

instance : DecidableEq Json := decEq

/-- The value of the last member named `key`, if this is an object that has one. -/
def get? (v : Json) (key : String) : Option Json :=
  match v with
  | .obj members => (members.reverse.find? (·.1 == key)).map (·.2)
  | _ => none

/-- An object of the members that are present. -/
def object (members : List (String × Option Json)) : Json :=
  .obj (members.filterMap fun (k, v) => v.map (k, ·))

/-- An array of strings. -/
def strs (items : List String) : Json :=
  .arr (items.map .str)

/-- An object of string members. -/
def strMap (members : List (String × String)) : Json :=
  .obj (members.map fun (k, v) => (k, .str v))

/-- Whether this is `null`. -/
def isNull : Json → Bool
  | .null => true
  | _ => false

/-- An object member list with `key` set to `value`: an existing member of that name is
replaced in place (and later duplicates dropped), otherwise the member is appended. -/
def setMember (members : List (String × Json)) (key : String) (value : Json) :
    List (String × Json) :=
  if members.any (·.1 == key) then
    (members.foldl (fun (acc : List (String × Json) × Bool) m =>
      if m.1 == key then
        if acc.2 then acc else (acc.1 ++ [(key, value)], true)
      else (acc.1 ++ [m], acc.2)) ([], false)).1
  else members ++ [(key, value)]

/-- An object member list without any member named `key`. -/
def eraseMember (members : List (String × Json)) (key : String) : List (String × Json) :=
  members.filter (·.1 != key)

/-- Applies a merge patch to a target value. -/
def mergePatch (target : Json) : Json → Json
  | .obj patch =>
    let base := match target with
      | .obj members => members
      | _ => []
    .obj (patch.attach.foldl (fun members ⟨(key, value), _⟩ =>
      if value.isNull then eraseMember members key
      else setMember members key (((Json.obj members).get? key).getD .null |>.mergePatch value))
      base)
  | patch => patch
termination_by patch => sizeOf patch
decreasing_by
  rename_i mem _
  have := List.sizeOf_lt_of_mem mem
  simp only [Prod.mk.sizeOf_spec] at this
  simp only [obj.sizeOf_spec]
  omega

end Json

end IngressGuard
