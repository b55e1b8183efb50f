/-
JSON values.  A number is an integer of a signed or unsigned 64 bit range or a
finite double; the members of an object are kept in ascending key order.
-/
import AuditFields.Number.Double

namespace AuditFields

/-- A JSON number.  Whole literals in the 64 bit ranges are integers, all other
numbers are finite doubles. -/
inductive JsonNumber where
  | int (value : Int) (range : -0x8000000000000000 ≤ value ∧ value < 0x10000000000000000)
  | float (value : Double) (finite : value.isFinite = true)
  deriving DecidableEq

/-- A JSON value. -/
inductive Json where
  | null
  | bool (value : Bool)
  | number (value : JsonNumber)
  | string (value : String)
  | array (items : List Json)
  | object (members : List (String × Json))

/-- The members of an object. -/
abbrev WireObject := List (String × Json)

namespace Json

mutual

/-- Equality of values is decidable. -/
def decEq : (a b : Json) → Decidable (a = b)
  | .null, .null => isTrue rfl
  | .bool a, .bool b =>
      if h : a = b then isTrue (h ▸ rfl) else isFalse fun e => h (by injection e)
  | .number a, .number b =>
      if h : a = b then isTrue (h ▸ rfl) else isFalse fun e => h (by injection e)
  | .string a, .string b =>
      if h : a = b then isTrue (h ▸ rfl) else isFalse fun e => h (by injection e)
  | .array a, .array b =>
      match decEqItems a b with
      | isTrue h => isTrue (h ▸ rfl)
      | isFalse h => isFalse fun e => h (by injection e)
  | .object a, .object b =>
      match decEqMembers a b with
      | isTrue h => isTrue (h ▸ rfl)
      | isFalse h => isFalse fun e => h (by injection e)
  | .null, .bool _ | .null, .number _ | .null, .string _ | .null, .array _
  | .null, .object _ => isFalse nofun
  | .bool _, .null | .bool _, .number _ | .bool _, .string _ | .bool _, .array _
  | .bool _, .object _ => isFalse nofun
  | .number _, .null | .number _, .bool _ | .number _, .string _ | .number _, .array _
  | .number _, .object _ => isFalse nofun
  | .string _, .null | .string _, .bool _ | .string _, .number _ | .string _, .array _
  | .string _, .object _ => isFalse nofun
  | .array _, .null | .array _, .bool _ | .array _, .number _ | .array _, .string _
  | .array _, .object _ => isFalse nofun
  | .object _, .null | .object _, .bool _ | .object _, .number _ | .object _, .string _
  | .object _, .array _ => isFalse nofun

def decEqItems : (a b : List Json) → Decidable (a = b)
  | [], [] => isTrue rfl
  | [], _ :: _ | _ :: _, [] => isFalse nofun
  | a :: as, b :: bs =>
      match decEq a b with
      | isFalse h => isFalse fun e => h (by injection e)
      | isTrue h =>
          match decEqItems as bs with
          | isFalse hs => isFalse fun e => hs (by injection e)
          | isTrue hs => isTrue (h ▸ hs ▸ rfl)

def decEqMembers : (a b : List (String × Json)) → Decidable (a = b)
  | [], [] => isTrue rfl
  | [], _ :: _ | _ :: _, [] => isFalse nofun
  | (k, a) :: as, (l, b) :: bs =>
      if hk : k = l then
        match decEq a b with
        | isFalse h => isFalse fun e => h (by injection e with e; injection e)
        | isTrue h =>
            match decEqMembers as bs with
            | isFalse hs => isFalse fun e => hs (by injection e)
            | isTrue hs => isTrue (hk ▸ h ▸ hs ▸ rfl)
      else isFalse fun e => hk (by injection e with e; injection e)

end

instance : DecidableEq Json := decEq

/-- The integer of a number in the 64 bit ranges. -/
def ofInt (value : Int) (range : -0x8000000000000000 ≤ value ∧ value < 0x10000000000000000) : Json :=
  .number (.int value range)

def ofUInt64 (value : UInt64) : Json :=
  ofInt value.toNat ⟨by omega, by have := value.toNat_lt; omega⟩

def ofUInt8 (value : UInt8) : Json :=
  ofInt value.toNat ⟨by omega, by have := value.toNat_lt; omega⟩

def ofUInt16 (value : UInt16) : Json :=
  ofInt value.toNat ⟨by omega, by have := value.toNat_lt; omega⟩

def ofUInt32 (value : UInt32) : Json :=
  ofInt value.toNat ⟨by omega, by have := value.toNat_lt; omega⟩

def ofInt64 (value : Int64) : Json :=
  ofInt value.toInt
    ⟨by have := value.le_toInt; omega, by have := value.toInt_lt; omega⟩

def asBool? : Json → Option Bool
  | .bool value => some value
  | _ => none

def asString? : Json → Option String
  | .string value => some value
  | _ => none

def asArray? : Json → Option (List Json)
  | .array items => some items
  | _ => none

def asObject? : Json → Option WireObject
  | .object members => some members
  | _ => none

/-- The value of a whole number; a number with a fraction has none. -/
def asInt? : Json → Option Int
  | .number (.int value _) => some value
  | _ => none

/-- The value of a whole number that is not negative. -/
def asNat? (json : Json) : Option Nat :=
  match json.asInt? with
  | some (.ofNat value) => some value
  | _ => none

/-- The value of a whole number in the signed 64 bit range. -/
def asInt64? (json : Json) : Option Int64 :=
  match json.asInt? with
  | some value => if value < 0x8000000000000000 then some (Int64.ofInt value) else none
  | none => none

end Json

namespace WireObject

/-- The value of a member. -/
def get? (key : String) : WireObject → Option Json
  | [] => none
  | (k, value) :: rest => if k = key then some value else get? key rest

/-- Set a member, in its place by key.  A value already there is replaced. -/
def insert (key : String) (value : Json) : WireObject → WireObject
  | [] => [(key, value)]
  | (k, old) :: rest =>
      if key = k then (key, value) :: rest
      else if key < k then (key, value) :: (k, old) :: rest
      else (k, old) :: insert key value rest

/-- The object with the given members.  The last one of a key counts. -/
def ofMembers (members : List (String × Json)) : WireObject :=
  members.foldl (fun object member => object.insert member.1 member.2) []

theorem get?_insert_self (key : String) (value : Json) (object : WireObject) :
    (object.insert key value).get? key = some value := by
  induction object with
  | nil => simp [insert, get?]
  | cons member rest ih =>
      obtain ⟨k, old⟩ := member
      unfold insert
      by_cases heq : key = k
      · simp [heq, get?]
      · by_cases hlt : key < k
        · simp [heq, hlt, get?]
        · have hne : k ≠ key := fun h => heq h.symm
          simp [heq, hlt, get?, hne, ih]

theorem get?_insert_of_ne {key other : String} (hne : other ≠ key) (value : Json)
    (object : WireObject) : (object.insert key value).get? other = object.get? other := by
  induction object with
  | nil => simp [insert, get?, hne.symm]
  | cons member rest ih =>
      obtain ⟨k, old⟩ := member
      unfold insert
      by_cases heq : key = k
      · subst heq
        simp [get?, hne.symm]
      · by_cases hlt : key < k
        · simp [heq, hlt, get?, hne.symm]
        · simp [heq, hlt, get?, ih]

/-- A member that is set twice holds the last value. -/
theorem insert_insert_self (key : String) (first last : Json) (object : WireObject) :
    (object.insert key first).insert key last = object.insert key last := by
  induction object with
  | nil => simp [insert]
  | cons member rest ih =>
      obtain ⟨k, old⟩ := member
      by_cases heq : key = k
      · simp [insert, heq]
      · by_cases hlt : key < k
        · simp [insert, heq, hlt]
        · simp [insert, heq, hlt, ih]

theorem insert_comm_of_lt {key other : String} (hlt : key < other) (value new : Json)
    (object : WireObject) :
    (object.insert key value).insert other new = (object.insert other new).insert key value := by
  have hne : other ≠ key := fun heq => String.lt_irrefl key (heq ▸ hlt)
  have hnot : ¬ other < key := String.lt_asymm hlt
  induction object with
  | nil => simp [insert, hlt, hne, hne.symm, hnot]
  | cons member rest ih =>
      obtain ⟨k, old⟩ := member
      -- the smaller key finds its place no later than the greater one
      rcases Std.lt_trichotomy other k with hother | rfl | hother
      · have hkey := String.lt_trans hlt hother
        simp [insert, hlt, hne, hne.symm, hnot, hother, hkey, String.ne_of_lt hother,
          String.ne_of_lt hkey]
      · simp [insert, hlt, hne, hne.symm, hnot]
      · have hpast := String.lt_asymm hother
        rcases Std.lt_trichotomy key k with hkey | rfl | hkey
        · simp [insert, hne, hnot, hpast, (String.ne_of_lt hother).symm, hkey,
            String.ne_of_lt hkey]
        · simp [insert, hne, hnot]
        · simp [insert, hpast, (String.ne_of_lt hother).symm, String.lt_asymm hkey,
            (String.ne_of_lt hkey).symm, ih]

/-- Different members can be set in any order. -/
theorem insert_comm {key other : String} (hne : key ≠ other) (value new : Json)
    (object : WireObject) :
    (object.insert key value).insert other new = (object.insert other new).insert key value := by
  rcases Std.lt_trichotomy key other with hlt | heq | hlt
  · exact insert_comm_of_lt hlt value new object
  · exact absurd heq hne
  · exact (insert_comm_of_lt hlt new value object).symm

end WireObject

end AuditFields
