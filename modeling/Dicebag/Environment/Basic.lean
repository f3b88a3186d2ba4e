/-!
# Dicebag.Environment.Basic

Environment variables: names, each with one value.  A variable can be
set, removed, or *defined*, which sets it only where there is none of
that name; three equations say what each does to the value of a name.

Not everything can be a variable: `refusal?` says what is wrong with a
name and a value.  `assign` and `defineAll` check it, the latter for each
definition that comes to be, and stop at the first that is refused.
-/

namespace Dicebag

/-- Why a name and a value are no variable. -/
inductive Refusal where
  /-- There is a null character in the name or the value. -/
  | nullCharacter
  /-- There is no name. -/
  | noName
  /-- There is an equals sign in the name. -/
  | equalsSign
  deriving DecidableEq

/-- The wording of a refusal. -/
def Refusal.message : Refusal → String
  | .nullCharacter => "embedded null byte"
  | .noName => "[Errno 22] Invalid argument"
  | .equalsSign => "illegal environment variable name"

/-- Variables and their values.  Of several entries of one name the first
counts. -/
structure Environment where
  entries : List (String × String) := []

namespace Environment

/-- The value of a name, if it has one. -/
def get? (env : Environment) (name : String) : Option String := env.entries.lookup name

/-- Gives a name a value, whatever it had before. -/
def set (env : Environment) (name value : String) : Environment :=
  ⟨(name, value) :: env.entries.filter fun entry => entry.1 != name⟩

/-- Takes its value from a name. -/
def unset (env : Environment) (name : String) : Environment :=
  ⟨env.entries.filter fun entry => entry.1 != name⟩

/-- Gives a name a value if it has none. -/
def define (env : Environment) (name value : String) : Environment :=
  match env.get? name with
  | some _ => env
  | none => env.set name value

/-! ## What can be a variable -/

/-- What is wrong with a name and a value, if anything is. -/
def refusal? (name value : String) : Option Refusal :=
  if name.toList.contains '\x00' || value.toList.contains '\x00' then some .nullCharacter
  else if name.toList.contains '=' then some .equalsSign
  else if name = "" then some .noName
  else none

/-- Gives a name a value, unless that is refused. -/
def assign (env : Environment) (name value : String) : Except Refusal Environment :=
  match refusal? name value with
  | some refusal => .error refusal
  | none => .ok (env.set name value)

/-- The environment with these variables and no others. -/
def ofList? (entries : List (String × String)) : Except Refusal Environment :=
  entries.foldlM (fun env entry => env.assign entry.1 entry.2) {}

/-- Defines names in order, up to the first that is refused.  What was
defined before it stays. -/
def defineAll (env : Environment) : List (String × String) → Environment × Option Refusal
  | [] => (env, none)
  | (name, value) :: rest =>
    match env.get? name, refusal? name value with
    | none, some refusal => (env, some refusal)
    | _, _ => (env.define name value).defineAll rest

/-! ## Laws -/

theorem lookup_filter_ne (entries : List (String × String)) (name other : String) :
    (entries.filter fun entry => entry.1 != name).lookup other
      = if other = name then none else entries.lookup other := by
  induction entries with
  | nil => simp
  | cons entry rest ih =>
    obtain ⟨key, value⟩ := entry
    by_cases hkey : key = name <;> by_cases hother : other = key <;>
      simp_all [List.lookup_cons]
    all_goals grind

@[simp] theorem get?_set (env : Environment) (name value other : String) :
    (env.set name value).get? other = if other = name then some value else env.get? other := by
  by_cases h : other = name
  · simp [get?, set, h]
  · simp [get?, set, List.lookup_cons, lookup_filter_ne, h, beq_false_of_ne h]

@[simp] theorem get?_unset (env : Environment) (name other : String) :
    (env.unset name).get? other = if other = name then none else env.get? other := by
  simp [get?, unset, lookup_filter_ne]

@[simp] theorem get?_define (env : Environment) (name value other : String) :
    (env.define name value).get? other
      = if other = name then some ((env.get? name).getD value) else env.get? other := by
  unfold define
  split
  · rename_i v hv
    by_cases h : other = name <;> simp [h, hv]
  · rename_i hv
    by_cases h : other = name <;> simp [h, hv]

end Environment

end Dicebag
