import Peripherals.Path
import Peripherals.Toml.Basic
/-!
Settings: values that a user has given in a file or in the environment, each with the place it came
from. Settings of several layers are merged group by group, and the later layer decides.
-/

set_option autoImplicit false

namespace Peripherals

namespace Setting

/-- Where a setting came from. -/
inductive Source where
  | file (path : Path)
  | environment
  deriving DecidableEq, Repr

/-- A setting without parts. -/
inductive Scalar where
  | text (s : String)
  | letter (c : Char)
  | flag (b : Bool)
  | signed (n : Int)
  | unsigned (n : Nat)
  | real (x : Float)

end Setting

/-- A value that a user has given. -/
inductive Setting where
  | scalar (source : Setting.Source) (value : Setting.Scalar)
  | list (source : Setting.Source) (items : List Setting)
  | group (source : Setting.Source) (fields : List (String × Setting))

namespace Setting

def source : Setting → Source
  | .scalar s _ | .list s _ | .group s _ => s

def put {α : Type} (k : String) (v : α) : List (String × α) → List (String × α)
  | [] => [(k, v)]
  | (j, w) :: rest => if j == k then (k, v) :: rest else (j, w) :: put k v rest

mutual

/-- What two layers say together. Groups are merged key by key; of all else the later layer counts. -/
def merge (earlier : Setting) : Setting → Setting
  | .group source later =>
    match earlier with
    | .group _ fields => .group source (mergeFields fields later)
    | _ => .group source later
  | v => v

def mergeFields (earlier : List (String × Setting)) :
    List (String × Setting) → List (String × Setting)
  | [] => earlier
  | (k, v) :: rest =>
    match earlier.lookup k with
    | some w => mergeFields (put k (merge w v) earlier) rest
    | none => mergeFields (put k v earlier) rest

end

/-- The key under which a date stands, because it is neither a text nor a number. -/
def dateKey : String := "$__toml_private_datetime"

/-- A table with this key stands for the value under it, whatever else it holds. -/
def valueKey : String := "___figment_value_value"

/-- A table with this key claims a mark of its own, which no value of a file can be. -/
def markKey : String := "___figment_value_id"

def ofTable? (source : Source) (fields : List (String × Setting)) : Option Setting :=
  if (fields.lookup markKey).isSome then none
  else some ((fields.lookup valueKey).getD (.group source fields))

mutual

/-- The settings of a TOML value, unless a table in it claims a mark. -/
def ofToml? (source : Source) : Toml → Option Setting
  | .text s => some (.scalar source (.text s))
  | .int n => some (.scalar source (.signed n))
  | .float x => some (.scalar source (.real x))
  | .flag b => some (.scalar source (.flag b))
  | .moment s => some (.group source [(dateKey, .scalar source (.text s))])
  | .array items => (ofItems? source items).map (.list source)
  | .table fields => (ofFields? source fields).bind (ofTable? source)

def ofItems? (source : Source) : List Toml → Option (List Setting)
  | [] => some []
  | v :: rest => do return (← ofToml? source v) :: (← ofItems? source rest)

def ofFields? (source : Source) : List (String × Toml) → Option (List (String × Setting))
  | [] => some []
  | (k, v) :: rest => do return (k, ← ofToml? source v) :: (← ofFields? source rest)

end

/-- The settings of a whole TOML text. Its outermost table stands for itself. -/
def ofDocument? (source : Source) : Toml → Option Setting
  | .table fields => (ofFields? source fields).map (.group source)
  | v => ofToml? source v

end Setting

end Peripherals
