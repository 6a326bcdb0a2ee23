import Mathlib.Logic.Function.Basic

/-!
# What an operation leaves alone

A store gives every key a value. An operation that changes only some keys leaves
the value of every other key as it was; so does any sequence of such operations.
-/

namespace LiteVpn.Semantics

variable {Key Value : Type} {keys : Key → Prop} {before middle after : Key → Value}

/-- Every key outside of `keys` has the value it had. -/
def ChangesOnly (keys : Key → Prop) (before after : Key → Value) : Prop :=
  ∀ key, ¬ keys key → after key = before key

theorem ChangesOnly.refl (keys : Key → Prop) (store : Key → Value) :
    ChangesOnly keys store store :=
  fun _ _ => rfl

theorem ChangesOnly.trans (first : ChangesOnly keys before middle)
    (second : ChangesOnly keys middle after) : ChangesOnly keys before after :=
  fun key outside => (second key outside).trans (first key outside)

/-- An update changes its own key. -/
theorem changesOnly_update [DecidableEq Key] {key : Key} (inside : keys key) (store : Key → Value)
    (value : Value) : ChangesOnly keys store (Function.update store key value) := by
  intro other outside
  apply Function.update_of_ne
  rintro rfl
  exact outside inside

end LiteVpn.Semantics
