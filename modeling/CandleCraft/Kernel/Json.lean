import Mathlib.Data.List.Dedup
import Mathlib.Data.List.Perm.Lattice
import Mathlib.Tactic.Common

/-!
# JSON values

Texts, arrays and objects over a type of other scalars. The fields of an object are in the order in
which they are written.
-/

inductive Json (β : Type*) where
  | scalar (b : β)
  | str (s : String)
  | arr (items : List (Json β))
  | obj (fields : List (String × Json β))

namespace Json

section Fields

variable {γ : Type*}

def get (fields : List (String × γ)) (name : String) : Option γ :=
  (fields.find? fun field => decide (field.1 = name)).map Prod.snd

/-- The fields with a new value of one; a new field comes last. -/
def set (fields : List (String × γ)) (name : String) (value : γ) : List (String × γ) :=
  if name ∈ fields.map Prod.fst then
    fields.map fun field => if field.1 = name then (name, value) else field
  else fields ++ [(name, value)]

theorem get_cons (field : String × γ) (fields : List (String × γ)) (name : String) :
    get (field :: fields) name = if field.1 = name then some field.2 else get fields name := by
  unfold get
  rw [List.find?_cons]
  split
  next h => rw [if_pos (of_decide_eq_true h), Option.map_some]
  next h => rw [if_neg (of_decide_eq_false h)]

theorem get_set (fields : List (String × γ)) (name other : String) (value : γ) :
    get (set fields name value) other = if name = other then some value else get fields other := by
  unfold set
  split
  next hmem =>
    induction fields with
    | nil => cases hmem
    | cons field fields ih =>
      rw [List.map_cons, get_cons, get_cons]
      by_cases hrest : name ∈ fields.map Prod.fst
      · rw [ih hrest]
        grind
      · have hsame : fields.map (fun field => if field.1 = name then (name, value) else field) =
            fields := by
          rw [List.map_congr_left (g := id) (by grind), List.map_id]
        rw [hsame]
        grind
  next hmem =>
    induction fields with
    | nil => exact get_cons (name, value) [] other
    | cons field fields ih =>
      rw [List.cons_append, get_cons, get_cons, ih (by grind)]
      grind

end Fields

variable {β : Type*}

mutual

/-- How deep arrays and objects are nested. -/
def depth : Json β → ℕ
  | .scalar _ => 0
  | .str _ => 0
  | .arr items => depthAll items + 1
  | .obj fields => depthFields fields + 1

def depthAll : List (Json β) → ℕ
  | [] => 0
  | item :: items => max item.depth (depthAll items)

def depthFields : List (String × Json β) → ℕ
  | [] => 0
  | (_, value) :: fields => max value.depth (depthFields fields)

end

end Json
